import Pdr.Http.OneEffect

/-!
# Whose saved answer a request gets

A row of the table of keys is bound to a tenant, a key and the fingerprint of a body, and to
nothing else. A request that does not do its own work gets the answer of the request that
took the key, and that one agrees with it in these three.

## Main definitions

* `Pdr.Http.TakesKey`: a step in which a request takes a key.
* `Pdr.Http.sentByTwo`: one key and one body, sent by two people to two handlers.

## Main results

* `Pdr.Http.saved_answer_is_of_the_same_key_and_body`: what a repeat has in common with the
  request whose answer it gets.
* `Pdr.Http.other_person_gets_the_saved_answer`: it has no more in common with it.
-/

namespace Pdr.Http

open StoreProgram Program

variable {ι E : Type} [DecidableEq ι]

/-! ### Taking a key -/

/-- In this step the request takes the key with the fingerprint of its body. -/
def TakesKey (t : KeyStep ι E) (id : KeyId) (fingerprint : RequestFingerprint) : Prop :=
  ∃ expiresAt rows saved, t.entry = ⟨.claim t.thread id.1 id.2 fingerprint expiresAt, .ok rows⟩ ∧
    claimOf rows fingerprint = .ok (.ok ⟨.taken, saved⟩)

/-- The key is the errand's, or was when the errand committed it. -/
def Stage.holds : Stage → Bool
  | .holding | .worked _ | .settled ⟨.taken, _⟩ | .ended (.ok ⟨.taken, _⟩) => true
  | _ => false

theorem Stage.holds_of_took {stage : Stage} {saved : SavedAnswer} (h : stage.took = some saved) :
    stage.holds = true := by
  unfold took at h
  split at h
  · rfl
  · cases h

omit [DecidableEq ι] in
/-- An errand comes to hold its key by an answer to its claim. -/
theorem Errand.taken_of_holds {platform : Platform} {errand : Errand E} {stage : Stage}
    {op : Statement ι E} {answer : Except Fault op.Answer} (hstage : stage.holds = false)
    (h : (errand.next platform stage op answer).holds = true) :
    ∃ session tenant key fingerprint expiresAt rows saved,
      (⟨op, answer⟩ : Entry (Statement.Answer : Statement ι E → Type) Fault) =
        ⟨.claim session tenant key fingerprint expiresAt, .ok rows⟩ ∧
      claimOf rows errand.fingerprint = .ok (.ok ⟨.taken, saved⟩) := by
  unfold Errand.next at h
  split at h
  case h_3 session tenant key fingerprint expiresAt rows =>
    refine ⟨session, tenant, key, fingerprint, expiresAt, rows, ?_⟩
    rcases hclaim : claimOf rows errand.fingerprint with fault | refusal | ⟨outcome, saved⟩
    · rw [hclaim] at h
      cases h
    · rw [hclaim] at h
      cases h
    · rw [hclaim] at h
      cases outcome with
      | taken => exact ⟨saved, rfl, rfl⟩
      | replay => cases h
      | inFlight => cases h
  case h_7 =>
    rename_i served _ _
    obtain ⟨outcome, saved⟩ := served
    cases outcome with
    | taken => cases hstage
    | replay => cases h
    | inFlight => cases h
  -- The other answers lead from a stage that held the key, or to one that does not.
  all_goals first
    | exact Bool.noConfusion h
    | exact Bool.noConfusion hstage
    | exact absurd (hstage.symm.trans h) (by decide)

omit [DecidableEq ι] in
/-- An errand that holds its key in the end took it on its way. -/
theorem Errand.exists_taken {platform : Platform} {errand : Errand E} {session : ι}
    {history : List (Entry (Statement.Answer : Statement ι E → Type) Fault)} {stage : Stage}
    (hstage : stage.holds = false)
    (h : ((errand.automaton platform session).after stage history).holds = true) :
    ∃ entry ∈ history, ∃ session' tenant key fingerprint expiresAt rows saved,
      entry = ⟨.claim session' tenant key fingerprint expiresAt, .ok rows⟩ ∧
      claimOf rows errand.fingerprint = .ok (.ok ⟨.taken, saved⟩) := by
  induction history generalizing stage with
  | nil => exact absurd (hstage.symm.trans h) (by decide)
  | cons entry history ih =>
    cases hnext : (errand.next platform stage entry.op entry.answer).holds with
    | true => exact ⟨entry, List.mem_cons_self, Errand.taken_of_holds hstage hnext⟩
    | false =>
      obtain ⟨later, hlater, htaken⟩ := ih hnext h
      exact ⟨later, List.mem_cons_of_mem _ hlater, htaken⟩

omit [DecidableEq ι] in
/-- The call that is due when the key is asked for. -/
theorem Errand.asking_of_due {errand : Errand E} {i session : ι} {stage : Stage} {tenant : TenantId}
    {key : IdempotencyKey} {fingerprint : RequestFingerprint} {expiresAt : Int}
    (h : errand.due i stage = some (.claim session tenant key fingerprint expiresAt)) :
    stage = .asking ∧ session = i ∧ tenant = errand.tenant ∧ key = errand.key ∧
      fingerprint = errand.fingerprint := by
  cases stage with
  | asking =>
    simp only [Errand.due, Option.some.injEq, Statement.claim.injEq] at h
    obtain ⟨rfl, rfl, rfl, rfl, -⟩ := h
    exact ⟨rfl, rfl, rfl, rfl, rfl⟩
  | _ => simp [Errand.due] at h

namespace Traffic

variable {traffic : Traffic ι E} {platform : Platform} {k : KeyId} {db db' : Postgres ι E}
  {steps : List (KeyStep ι E)} {pool' : ι → Work ι E Response}

/-- An errand that has committed its key took it in a step of the run. -/
theorem exists_takesKey (hmutating : traffic.Mutating) (hidle : db.Idle)
    (hfree : db.keys.committed k = none)
    (hrun : Runs postgres (traffic.pool platform) db steps pool' db') {i : ι} {errand : Errand E}
    (herrand : traffic.errand platform i = some errand) {saved : SavedAnswer}
    (htook : (traffic.stages platform steps i).took = some saved) :
    ∃ t ∈ steps, t.thread = i ∧ TakesKey t errand.id errand.fingerprint := by
  have hholds : ((errand.automaton platform i).after .idle (historyOf i steps)).holds = true := by
    have hstage := Stage.holds_of_took htook
    rw [stages, herrand] at hstage
    exact hstage
  obtain ⟨entry, hentry, session, tenant, key, fingerprint, expiresAt, rows, saved', rfl, hclaim⟩ :=
    Errand.exists_taken rfl hholds
  obtain ⟨t, ht, rfl, hop⟩ := Runs.exists_step hentry
  obtain ⟨early, late, rfl⟩ := List.append_of_mem ht
  obtain ⟨-, errand', herrand', hdue⟩ := keyInvariant_at hmutating hidle hfree hrun
  rw [herrand] at herrand'
  obtain rfl := Option.some.inj herrand'
  rw [hop] at hdue
  obtain ⟨-, rfl, rfl, rfl, rfl⟩ := Errand.asking_of_due hdue
  exact ⟨t, ht, rfl, expiresAt, rows, saved', hop, hclaim⟩

omit [DecidableEq ι] in
/-- An errand carries the fingerprint of its request's body. -/
theorem fingerprintOf_of_errand (hmutating : traffic.Mutating) {i : ι} {errand : Errand E}
    (herrand : traffic.errand platform i = some errand) :
    fingerprintOf platform (traffic.request i).body = .ok errand.fingerprint := by
  rw [Traffic.errand, errandOf] at herrand
  split at herrand
  · rename_i caller body key fingerprint hentrance
    cases herrand
    rcases enter_cases (hmutating i) hentrance with ⟨problem, hrefused, -⟩ |
      ⟨_, _, _, _, hchanging, -, -, hfingerprint⟩
    · cases hrefused
    · cases hchanging
      exact hfingerprint
  · cases herrand

end Traffic

/-- **A saved answer is that of the same key and body.** Whatever the requests and their
handlers, a request whose claim ends otherwise than with the key gets the answer of a
request that took the key before, and that one came for the same tenant, with the same key
and with a body of the same SHA-256. It is answered in full: nothing is in flight. -/
theorem saved_answer_is_of_the_same_key_and_body {traffic : Traffic ι E} {platform : Platform}
    {db db' : Postgres ι E} {early late : List (KeyStep ι E)} {t : KeyStep ι E}
    {pool' : ι → Work ι E Response} {errand : Errand E} {expiresAt : Int} {rows : List ClaimRow}
    {claim : Claim} (hmutating : traffic.Mutating) (hidle : db.Idle)
    (hfree : ∀ k, db.keys.committed k = none)
    (hrun : Runs postgres (traffic.pool platform) db (early ++ t :: late) pool' db')
    (herrand : traffic.errand platform t.thread = some errand)
    (hclaim : t.entry = ⟨.claim t.thread errand.tenant errand.key errand.fingerprint expiresAt,
      .ok rows⟩)
    (hclaimed : claimOf rows errand.fingerprint = .ok (.ok claim))
    (hnot : claim.outcome ≠ .taken) :
    ∃ u ∈ early, ∃ owner value, traffic.errand platform u.thread = some owner ∧
      owner.tenant = errand.tenant ∧ owner.key = errand.key ∧
      fingerprintOf platform (traffic.request u.thread).body =
        fingerprintOf platform (traffic.request t.thread).body ∧
      TakesKey u owner.id owner.fingerprint ∧ owner.script.outcome = .ok (.ok value) ∧
      claim = ⟨.replay, ⟨kOk, platform.toText value⟩⟩ := by
  obtain ⟨h, errand', herrand', hdue⟩ :=
    Traffic.keyInvariant_at hmutating hidle (hfree errand.id) hrun
  rw [herrand] at herrand'
  obtain rfl := Option.some.inj herrand'
  rw [hclaim] at hdue
  have hfits := h.fits t.thread
  rw [herrand, (Errand.asking_of_due hdue).1] at hfits
  obtain ⟨-, snapshot, htransaction, hsnapshot⟩ := hfits
  have hexec := hrun.exec_eq (List.mem_append_right early List.mem_cons_self)
  rw [hclaim] at hexec
  simp only [postgres, Postgres.exec, htransaction, Postgres.claim, if_true] at hexec
  split at hexec
  · -- The key was free.
    obtain rfl := Except.ok.inj (congrArg Prod.fst hexec)
    cases hclaimed
    exact absurd rfl hnot
  · obtain rfl := Except.ok.inj (congrArg Prod.fst hexec)
    cases hrow : snapshot (errand.tenant, errand.key) with
    | none =>
      rw [hrow] at hclaimed
      cases hclaimed
    | some row =>
      -- The row is that of the request which has committed the key.
      obtain ⟨i, owner, saved, howner, hownerId, htook, rfl⟩ := h.owned row (hsnapshot row hrow)
      rw [hrow] at hclaimed
      simp only [claimOf, Option.toList_some, List.map_cons, Bool.false_eq_true, if_false]
        at hclaimed
      split at hclaimed
      · cases hclaimed
      · rename_i hfingerprint
        cases hclaimed
        obtain ⟨pool, between, hearly, -⟩ := hrun.split
        obtain ⟨u, hu, rfl, htakes⟩ := Traffic.exists_takesKey hmutating hidle
          (hfree errand.id) hearly howner htook
        have hsaves : owner.Saves platform saved := Traffic.saves_of_took h howner htook
        obtain ⟨value, hvalue, rfl⟩ := hsaves
        have hsame : owner.tenant = errand.tenant ∧ owner.key = errand.key := Prod.mk.inj hownerId
        have hbody : fingerprintOf platform (traffic.request u.thread).body =
            fingerprintOf platform (traffic.request t.thread).body := by
          rw [Traffic.fingerprintOf_of_errand hmutating howner,
            Traffic.fingerprintOf_of_errand hmutating herrand, not_not.1 hfingerprint]
        exact ⟨u, hu, owner, value, howner, hsame.1, hsame.2, hbody, htakes, hvalue, rfl⟩

/-! ### Two people, one key -/

/-- A handler that cancels lessons. -/
def cancellingHandler : Handler := { bookingHandler with wants := .cancelLesson }

/-- One person books a lesson and another cancels one, both with the same key and body. -/
def sentByTwo : Traffic Bool Nat where
  handler other := if other then cancellingHandler else bookingHandler
  arrival other := if other then welcome (standInPerson 2) 2 else welcome (standInPerson 1) 1
  request other := if other then sentTo "/cancellations" else sentTo "/lessons"

/-- The first request is served, and then the second. -/
def sentByTwoPlay : List (KeyStep Bool Nat) × (Bool → Work Bool Nat Response) ×
    Postgres Bool Nat :=
  play postgres (List.replicate 7 false ++ List.replicate 7 true)
    (sentByTwo.pool standInPlatform) {}

theorem sentByTwo_mutating : sentByTwo.Mutating := by
  intro other
  cases other <;> rfl

/-- The cancellation gets the answer of a booking. -/
theorem cancellation_gets_the_answer_of_a_booking :
    ∃ u ∈ sentByTwoPlay.1.take 8, ∃ owner value,
      sentByTwo.errand standInPlatform u.thread = some owner ∧
      owner.tenant = standInTenant ∧ owner.key = sentKey ∧
      fingerprintOf standInPlatform (sentByTwo.request u.thread).body =
        fingerprintOf standInPlatform (sentByTwo.request true).body ∧
      TakesKey u owner.id owner.fingerprint ∧ owner.script.outcome = .ok (.ok value) ∧
      (⟨.replay, ⟨kOk, emptyObject⟩⟩ : Claim) = ⟨.replay, ⟨kOk, standInPlatform.toText value⟩⟩ := by
  have hrun : Runs postgres (sentByTwo.pool standInPlatform) {} sentByTwoPlay.1
      sentByTwoPlay.2.1 sentByTwoPlay.2.2 := play_runs postgres _ _ _
  have hcut : sentByTwoPlay.1 = sentByTwoPlay.1.take 8 ++
      sentByTwoPlay.1.get ⟨8, by decide +kernel⟩ :: sentByTwoPlay.1.drop 9 := by
    rw [List.get_eq_getElem, List.getElem_cons_drop, List.take_append_drop]
  rw [hcut] at hrun
  exact saved_answer_is_of_the_same_key_and_body sentByTwo_mutating emptyPostgres_idle
    (fun _ => rfl) hrun rfl rfl
    (show claimOf _ _ = .ok (.ok ⟨.replay, ⟨kOk, emptyObject⟩⟩) by decide +kernel) (by decide)

/-- One person books a lesson, another cancels one at another address, and both requests
happen to have one key and one body. The cancellation is not done: it is answered with the
booking's answer, as a repeat of it. -/
theorem other_person_gets_the_saved_answer :
    (sentByTwo.arrival false).identify [] [] = .ok (.ok ⟨standInTenant, standInPerson 1⟩) ∧
      (sentByTwo.arrival true).identify [] [] = .ok (.ok ⟨standInTenant, standInPerson 2⟩) ∧
      standInPerson 1 ≠ standInPerson 2 ∧
      (sentByTwo.handler false).wants ≠ (sentByTwo.handler true).wants ∧
      (sentByTwo.request false).path ≠ (sentByTwo.request true).path ∧
      Runs postgres (sentByTwo.pool standInPlatform) {} sentByTwoPlay.1 sentByTwoPlay.2.1
        sentByTwoPlay.2.2 ∧
      (∃ errand rows, sentByTwo.errand standInPlatform true = some errand ∧
        claimOf rows errand.fingerprint = .ok (.ok ⟨.replay, ⟨kOk, emptyObject⟩⟩) ∧
        (sentByTwoPlay.1[8]?).map (fun t => (t.thread, t.entry)) =
          some (true, ⟨.claim true errand.tenant errand.key errand.fingerprint errand.expiresAt,
            .ok rows⟩)) ∧
      (sentByTwoPlay.2.1 true).value?.map (fun response =>
        (response.status, response.body, response.isReplayed)) = some (kOk, emptyObject, true) ∧
      sentByTwoPlay.2.2.effects = [(false, 1)] := by
  refine ⟨rfl, rfl, by decide, by decide, by decide, play_runs postgres _ _ _,
    ⟨_, _, rfl, ?_, rfl⟩, by decide +kernel, by decide +kernel⟩
  decide +kernel

end Pdr.Http
