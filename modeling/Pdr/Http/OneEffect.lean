import Pdr.Http.KeyProtocol

/-!
# At most one effect per key

Any number of changing requests come to one handler from one caller, with one key and one
body, and each may succeed, refuse or throw. Whatever the order of their calls, at most one
of them leaves its work behind, and everybody who is answered with a success gets its
answer.

## Main definitions

* `Pdr.Http.Traffic.SharesKey`: the requests come under one key.
* `Pdr.Http.AtMostOneEffect`: what such requests may do.

## Main results

* `Pdr.Http.Traffic.answered_ok`: a success is that of the errand which has committed the key.
* `Pdr.Http.Traffic.run_retry`: under a free key a request does its work.
* `Pdr.Http.repeats_have_at_most_one_effect`: repeated requests have one effect at most.
-/

namespace Pdr.Http

open StoreProgram Program

variable {ι E : Type} [DecidableEq ι]

/-! ### Answers -/

theorem isReplayed_answer_taken (platform : Platform) (arrival : Arrival E) (request : Request)
    (saved : SavedAnswer) (occasion : Occasion) (key : Option IdempotencyKey) :
    (answer platform (headersOf arrival request) (.ok ⟨.taken, saved⟩) occasion key).isReplayed =
      false := by
  simp [answer, Response.isReplayed, headersOf, kSecurityHeaders, kRequestIdHeader,
    kReplayedHeader]

theorem isReplayed_answer_replay (platform : Platform) (headers : List (String × Text))
    (saved : SavedAnswer) (occasion : Occasion) (key : Option IdempotencyKey) :
    (answer platform headers (.ok ⟨.replay, saved⟩) occasion key).isReplayed = true := by
  simp [answer, Response.isReplayed]

/-- A success is answered from a saved answer. -/
theorem outcome_of_status_ok {platform : Platform} {headers : List (String × Text)}
    {result : Result Served} {occasion : Occasion} {key : Option IdempotencyKey}
    (h : (answer platform headers result occasion key).status = kOk) :
    ∃ saved, result = .ok ⟨.taken, saved⟩ ∨ result = .ok ⟨.replay, saved⟩ := by
  rcases result with failure | ⟨outcome, saved⟩
  · exact absurd h (statusOf_ne_ok failure.kind)
  · cases outcome with
    | taken => exact ⟨saved, Or.inl rfl⟩
    | replay => exact ⟨saved, Or.inr rfl⟩
    | inFlight => exact absurd h (by decide : kConflict ≠ kOk)

/-! ### What the statements leave alone -/

/-- Only a commit changes what is committed. -/
theorem Postgres.exec_of_not_commit {op : Statement ι E} (h : ∀ session, op ≠ .commit session)
    (db : Postgres ι E) :
    (postgres.exec op db).2.keys.committed = db.keys.committed ∧
      (postgres.exec op db).2.effects = db.effects := by
  cases op with
  | commit session => exact absurd rfl (h session)
  | open_ session tenant => exact ⟨rfl, rfl⟩
  | rollback session => exact ⟨rfl, rfl⟩
  | snapshot session =>
    simp only [postgres, Postgres.exec]
    split <;> exact ⟨rfl, rfl⟩
  | run session script =>
    simp only [postgres, Postgres.exec]
    split <;> exact ⟨rfl, rfl⟩
  | claim session tenant key fingerprint expiresAt =>
    simp only [postgres, Postgres.exec, Postgres.claim]
    split
    · exact ⟨rfl, rfl⟩
    · split
      · split <;> exact ⟨rfl, rfl⟩
      · exact ⟨rfl, rfl⟩
  | complete session tenant key answer =>
    simp only [postgres, Postgres.exec, Postgres.complete]
    split
    · exact ⟨rfl, rfl⟩
    · split
      · split
        · split <;> exact ⟨rfl, rfl⟩
        · exact ⟨rfl, rfl⟩
      · exact ⟨rfl, rfl⟩

namespace Traffic

variable {traffic : Traffic ι E} {platform : Platform} {k : KeyId} {db db' : Postgres ι E}
  {steps : List (KeyStep ι E)} {pool' : ι → Work ι E Response}

/-- What an errand that is alone under a free key finds in each of its stages. -/
def Alone (platform : Platform) (i : ι) (errand : Errand E) (value : Json) (before : List (ι × E))
    (stage : Stage) (db : Postgres ι E) : Prop :=
  let held := db.keys.visible i errand.id
  let saved : SavedAnswer := ⟨kOk, platform.toText value⟩
  match stage with
  | .idle => held = none ∧ db.effects = before
  | .opened | .asking => held = none ∧ db.effects = before ∧
      ∃ snapshot, db.transactions i = some ⟨errand.tenant, snapshot, none⟩
  | .holding => held = some ⟨errand.fingerprint, .inProgress, errand.expiresAt⟩ ∧
      db.effects = before ∧ ∃ snapshot, db.transactions i = some ⟨errand.tenant, snapshot, none⟩
  | .worked answer => answer = saved ∧
      held = some ⟨errand.fingerprint, .inProgress, errand.expiresAt⟩ ∧ db.effects = before ∧
      ∃ snapshot, db.transactions i =
        some ⟨errand.tenant, snapshot, some errand.script.effect⟩
  | .settled served => served = ⟨.taken, saved⟩ ∧ db.effects = before ∧
      ∃ snapshot, db.transactions i =
        some ⟨errand.tenant, snapshot, some errand.script.effect⟩
  | .failed _ => False
  | .ended outcome => outcome = .ok ⟨.taken, saved⟩ ∧
      db.effects = before ++ [(i, errand.script.effect)]

theorem alone_kept {i : ι} {errand : Errand E} {value : Json} {before : List (ι × E)}
    (hvalue : errand.script.outcome = .ok (.ok value)) (stage : Stage) (db : Postgres ι E)
    (op : Statement ι E) (h : Alone platform i errand value before stage db)
    (hdue : errand.due i stage = some op) :
    Alone platform i errand value before (errand.next platform stage op (postgres.exec op db).1)
      (postgres.exec op db).2 := by
  cases stage with
  | idle =>
    obtain rfl := Option.some.inj hdue
    exact ⟨h.1, h.2, _, Function.update_self ..⟩
  | opened =>
    obtain rfl := Option.some.inj hdue
    obtain ⟨hheld, heffects, snapshot, htransaction⟩ := h
    simp only [postgres, Postgres.exec, htransaction]
    exact ⟨hheld, heffects, _, Function.update_self ..⟩
  | asking =>
    obtain rfl := Option.some.inj hdue
    obtain ⟨hheld, heffects, snapshot, htransaction⟩ := h
    have hheld : db.keys.visible i (errand.tenant, errand.key) = none := hheld
    simp only [postgres, Postgres.exec, htransaction, Postgres.claim, if_true, hheld]
    refine ⟨?_, heffects, snapshot, htransaction⟩
    rw [Versions.visible, Errand.id, Versions.heldBy_write_self]
    rfl
  | holding =>
    obtain rfl := Option.some.inj hdue
    obtain ⟨hheld, heffects, snapshot, htransaction⟩ := h
    simp only [postgres, Postgres.exec, htransaction, hvalue]
    exact ⟨rfl, hheld, heffects, _, Function.update_self ..⟩
  | worked answer =>
    obtain rfl := Option.some.inj hdue
    obtain ⟨rfl, hheld, heffects, snapshot, htransaction⟩ := h
    have hheld : db.keys.visible i (errand.tenant, errand.key) =
      some ⟨errand.fingerprint, .inProgress, errand.expiresAt⟩ := hheld
    have hstatus : 100 ≤ kOk ∧ kOk ≤ 599 := by decide
    simp only [postgres, Postgres.exec, htransaction, Postgres.complete, if_true, hheld, hstatus]
    exact ⟨rfl, heffects, snapshot, htransaction⟩
  | settled served =>
    obtain rfl := Option.some.inj hdue
    obtain ⟨rfl, heffects, snapshot, htransaction⟩ := h
    simp only [postgres, Postgres.exec, htransaction]
    refine ⟨rfl, ?_⟩
    rw [heffects]
    rfl
  | failed fault => exact h.elim
  | ended outcome => cases hdue

/-- Under a key that nobody has written a request does its work: it is answered with its
own value, unmarked, and its work is there. -/
theorem run_retry {i : ι} {errand : Errand E} {value : Json} (hmutating : traffic.Mutating)
    (herrand : traffic.errand platform i = some errand)
    (hvalue : errand.script.outcome = .ok (.ok value))
    (hfree : ∀ j, db.keys.heldBy j errand.id = none)
    (hcommitted : db.keys.committed errand.id = none) :
    ∃ response after, (traffic.pool platform i).run postgres db = (.ok response, after) ∧
      response.status = kOk ∧ response.body = platform.toText value ∧
      response.isReplayed = false ∧ after.effects = db.effects ++ [(i, errand.script.effect)] := by
  have hconforms := conforms platform hmutating i
  rw [herrand] at hconforms
  obtain ⟨stage, hends, halone⟩ := Automaton.Conforms.run (alone_kept hvalue) hconforms
    (⟨Versions.visible_eq_none.2 ⟨hfree i, hcommitted⟩, rfl⟩ :
      Alone platform i errand value db.effects .idle db)
  have hends : Errand.ends (fun result => answer platform
      (headersOf (traffic.arrival i) (traffic.request i)) result
      (occasionOf (traffic.arrival i) (traffic.request i)) (some errand.key)) stage
      ((traffic.pool platform i).run postgres db).1 := hends
  cases stage with
  | ended outcome =>
    obtain ⟨rfl, heffects⟩ := halone
    exact ⟨_, _, Prod.ext hends rfl, rfl, rfl, isReplayed_answer_taken .., heffects⟩
  | _ => exact hends.elim

/-- A success is the answer of the errand that has committed the key, which is answered with
it too; everybody else's is marked as a repeat. -/
theorem answered_ok (hmutating : traffic.Mutating) (hidle : db.Idle)
    (hfree : db.keys.committed k = none)
    (hrun : Runs postgres (traffic.pool platform) db steps pool' db') {i : ι} {errand : Errand E}
    (herrand : traffic.errand platform i = some errand) (hid : errand.id = k)
    {response : Response} (hdone : pool' i = .done response) (hstatus : response.status = kOk) :
    ∃ first owner saved, traffic.errand platform first = some owner ∧ owner.id = k ∧
      (traffic.stages platform steps first).took = some saved ∧ response.body = saved.body ∧
      (response.isReplayed = true ↔ i ≠ first) := by
  have h := keyInvariant hmutating hidle hfree hrun
  rcases answered_of_done hmutating hrun hdone with ⟨hnone, -⟩ |
    ⟨errand', result, herrand', rfl, hstage⟩
  · rw [herrand] at hnone
    cases hnone
  · rw [herrand] at herrand'
    obtain rfl := Option.some.inj herrand'
    have hfits := h.fits i
    rw [herrand, hstage] at hfits
    obtain ⟨saved, rfl | rfl⟩ := outcome_of_status_ok hstatus
    · refine ⟨i, errand, saved, herrand, hid, by rw [hstage]; rfl, rfl, ?_⟩
      rw [isReplayed_answer_taken]
      simp
    · obtain ⟨-, -, hrow⟩ := hfits
      obtain ⟨row, hrow, -, ⟨-, hstate⟩ | ⟨himpossible, -⟩⟩ := hrow hid
      · obtain ⟨first, owner, saved', howner, hownerId, htook, rfl⟩ := h.owned row hrow
        obtain rfl : saved' = saved := KeyState.completed.inj hstate
        refine ⟨first, owner, saved', howner, hownerId, htook, rfl, ?_⟩
        rw [isReplayed_answer_replay]
        refine iff_of_true rfl ?_
        rintro rfl
        rw [hstage] at htook
        cases htook
      · cases himpossible

/-- An errand that has committed its key is answered with its own value. -/
theorem done_of_took (hmutating : traffic.Mutating)
    (hrun : Runs postgres (traffic.pool platform) db steps pool' db') {i : ι} {errand : Errand E}
    (herrand : traffic.errand platform i = some errand) {saved : SavedAnswer}
    (htook : (traffic.stages platform steps i).took = some saved) :
    pool' i = .done (answer platform (headersOf (traffic.arrival i) (traffic.request i))
      (.ok ⟨.taken, saved⟩) (occasionOf (traffic.arrival i) (traffic.request i))
      (some errand.key)) := by
  have hconforms := hrun.conforms (conforms platform hmutating) i
  have hstage : traffic.stages platform steps i = .ended (.ok ⟨.taken, saved⟩) := by
    unfold Stage.took at htook
    split at htook
    · rename_i hstage
      cases htook
      exact hstage
    · cases htook
  have hconforms : (servingAutomaton platform i (traffic.errand platform i)).Conforms
      (servingEnds platform (traffic.arrival i) (traffic.request i) (traffic.errand platform i))
      (traffic.stages platform steps i) (pool' i) := hconforms
  rw [hstage, herrand] at hconforms
  cases hprogram : pool' i with
  | done response =>
    rw [hprogram] at hconforms
    have hends : (.ok response : Except Fault Response) = .ok _ := hconforms
    exact congrArg Program.done (Except.ok.inj hends)
  | raise fault =>
    rw [hprogram] at hconforms
    have hends : (.error fault : Except Fault Response) = .ok _ := hconforms
    cases hends
  | call op rest =>
    rw [hprogram] at hconforms
    cases hconforms.1

/-- A request that is over holds nothing. -/
theorem nothing_held_of_over (hmutating : traffic.Mutating) (hidle : db.Idle)
    (hfree : db.keys.committed k = none)
    (hrun : Runs postgres (traffic.pool platform) db steps pool' db') {i : ι}
    (hover : ∀ op rest, pool' i ≠ .call op rest) :
    db'.transactions i = none ∧ db'.keys.heldBy i k = none := by
  have h := keyInvariant hmutating hidle hfree hrun
  have hfits := h.fits i
  have hconforms : (servingAutomaton platform i (traffic.errand platform i)).Conforms
      (servingEnds platform (traffic.arrival i) (traffic.request i) (traffic.errand platform i))
      (traffic.stages platform steps i) (pool' i) := hrun.conforms (conforms platform hmutating) i
  cases herrand : traffic.errand platform i with
  | none =>
    rw [herrand] at hfits
    exact ⟨hfits.2.2, hfits.2.1⟩
  | some errand =>
    rw [herrand] at hfits hconforms
    have hends : ∃ outcome, servingEnds platform (traffic.arrival i) (traffic.request i)
        (some errand) (traffic.stages platform steps i) outcome := by
      cases hprogram : pool' i with
      | done response => exact ⟨.ok response, by rwa [hprogram] at hconforms⟩
      | raise fault => exact ⟨.error fault, by rwa [hprogram] at hconforms⟩
      | call op rest => exact absurd hprogram (hover op rest)
    obtain ⟨outcome, hends⟩ := hends
    cases hstage : traffic.stages platform steps i with
    | ended outcome =>
      rw [hstage] at hfits
      rcases outcome with fault | ⟨outcome, saved⟩
      · exact ⟨hfits.2, hfits.1⟩
      · cases outcome <;> exact ⟨hfits.2.1, hfits.1⟩
    | _ =>
      rw [hstage] at hends
      exact hends.elim

/-- A request whose scenario returns no value changes neither the committed row of the key
nor the work that is there. -/
theorem nothing_changed_of_not_value (hmutating : traffic.Mutating) (hidle : db.Idle)
    (hfree : db.keys.committed k = none)
    (hrun : Runs postgres (traffic.pool platform) db steps pool' db') {i : ι} {errand : Errand E}
    (herrand : traffic.errand platform i = some errand)
    (hfails : ∀ value, errand.script.outcome ≠ .ok (.ok value)) {t : KeyStep ι E} (ht : t ∈ steps)
    (hthread : t.thread = i) :
    t.after.keys.committed k = t.before.keys.committed k ∧ t.after.effects = t.before.effects := by
  obtain ⟨early, late, rfl⟩ := List.append_of_mem ht
  obtain ⟨h, errand', herrand', hdue⟩ := keyInvariant_at hmutating hidle hfree hrun
  rw [hthread] at herrand' hdue
  rw [herrand] at herrand'
  obtain rfl := Option.some.inj herrand'
  have hafter : t.after = (postgres.exec t.entry.op t.before).2 := by
    rw [hrun.exec_eq ht]
  have hfits := h.fits i
  rw [herrand] at hfits
  rw [hafter]
  by_cases hcommit : ∃ session, t.entry.op = .commit session
  · obtain ⟨session, hop⟩ := hcommit
    rw [hop] at hdue ⊢
    cases hstage : traffic.stages platform early i with
    | settled served =>
      rw [hstage] at hfits hdue
      obtain rfl : i = session := by simpa [Errand.due] using hdue
      obtain ⟨outcome, saved⟩ := served
      cases outcome with
      | taken =>
        obtain ⟨-, ⟨value, hvalue, -⟩, -⟩ := hfits
        exact absurd hvalue (hfails value)
      | replay =>
        obtain ⟨hheld, -, snapshot, htransaction⟩ := hfits
        simp only [postgres, Postgres.exec, htransaction]
        exact ⟨Versions.visible_of_not_heldBy hheld, List.append_nil _⟩
      | inFlight =>
        obtain ⟨hheld, -, snapshot, htransaction⟩ := hfits
        simp only [postgres, Postgres.exec, htransaction]
        exact ⟨Versions.visible_of_not_heldBy hheld, List.append_nil _⟩
    | _ =>
      rw [hstage] at hdue
      simp [Errand.due] at hdue
  · have hquiet := Postgres.exec_of_not_commit (fun session hop => hcommit ⟨session, hop⟩) t.before
    exact ⟨by rw [hquiet.1], hquiet.2⟩

/-- A request that was turned away makes no call. -/
theorem no_step_of_no_errand (hmutating : traffic.Mutating) (hidle : db.Idle)
    (hfree : db.keys.committed k = none)
    (hrun : Runs postgres (traffic.pool platform) db steps pool' db') {i : ι}
    (herrand : traffic.errand platform i = none) {t : KeyStep ι E} (ht : t ∈ steps) :
    t.thread ≠ i := by
  rintro rfl
  obtain ⟨early, late, rfl⟩ := List.append_of_mem ht
  obtain ⟨-, errand, hsome, -⟩ := keyInvariant_at hmutating hidle hfree hrun
  rw [herrand] at hsome
  cases hsome

/-- What an errand has committed its key with is its own value. -/
theorem saves_of_took {before : List (ι × E)} {stages : ι → Stage}
    (h : KeyInvariant platform (traffic.errand platform) k before stages db) {i : ι}
    {errand : Errand E} (herrand : traffic.errand platform i = some errand) {saved : SavedAnswer}
    (htook : (stages i).took = some saved) : errand.Saves platform saved := by
  have hfits := h.fits i
  rw [herrand] at hfits
  unfold Stage.took at htook
  split at htook
  · rename_i hstage
    cases htook
    rw [hstage] at hfits
    exact hfits.2.2
  · cases htook

/-- Every request that is let in comes for one tenant with one key. So do the repeats of one
request by one caller. -/
def SharesKey (traffic : Traffic ι E) (platform : Platform) (k : KeyId) : Prop :=
  ∀ i errand, traffic.errand platform i = some errand → errand.id = k

/-- Either nobody has committed the key and no work was added, or one request has, and its
work is all that was added. -/
theorem effects_of_run (hmutating : traffic.Mutating) (hidle : db.Idle)
    (hfree : db.keys.committed k = none) (hshares : traffic.SharesKey platform k)
    (hrun : Runs postgres (traffic.pool platform) db steps pool' db') :
    (db'.effects = db.effects ∧ ∀ i errand, traffic.errand platform i = some errand →
        (traffic.stages platform steps i).took = none) ∨
      ∃ first owner, traffic.errand platform first = some owner ∧
        db'.effects = db.effects ++ [(first, owner.script.effect)] ∧
        ∀ i errand saved, traffic.errand platform i = some errand →
          (traffic.stages platform steps i).took = some saved →
          i = first ∧ owner.Saves platform saved := by
  have h := keyInvariant hmutating hidle hfree hrun
  obtain ⟨added, heffects, hnodup, hadded⟩ := h.recorded
  cases added with
  | nil =>
    refine Or.inl ⟨by rw [heffects, List.append_nil], fun i errand herrand => ?_⟩
    by_contra hsome
    have hmem := (hadded i errand.script.effect).2
      ⟨errand, herrand, Option.isSome_iff_ne_none.2 hsome, rfl⟩
    cases hmem
  | cons entry rest =>
    obtain ⟨first, effect⟩ := entry
    obtain ⟨owner, howner, htook, rfl⟩ := (hadded first effect).1 List.mem_cons_self
    have honly : ∀ i errand, traffic.errand platform i = some errand →
        (traffic.stages platform steps i).took.isSome = true → i = first :=
      fun i errand herrand htook' =>
        h.sole i first errand owner herrand howner (hshares i errand herrand)
          (hshares first owner howner) htook' htook
    refine Or.inr ⟨first, owner, howner, ?_, fun i errand saved herrand htook' => ?_⟩
    · cases rest with
      | nil => exact heffects
      | cons other rest =>
        obtain ⟨j, effect⟩ := other
        obtain ⟨errand, herrand, htook', -⟩ :=
          (hadded j effect).1 (List.mem_cons_of_mem _ List.mem_cons_self)
        obtain rfl := honly j errand herrand htook'
        simp at hnodup
    · obtain rfl := honly i errand herrand (by rw [htook']; rfl)
      exact ⟨rfl, saves_of_took h howner htook'⟩

/-- A success carries the answer of the one request that has left its work behind, which is
answered too; all others are marked as repeats. -/
theorem answers_of_run (hmutating : traffic.Mutating) (hidle : db.Idle)
    (hfree : db.keys.committed k = none) (hshares : traffic.SharesKey platform k)
    (hrun : Runs postgres (traffic.pool platform) db steps pool' db') {i : ι}
    {response : Response} (hdone : pool' i = .done response) (hstatus : response.status = kOk) :
    ∃ first owner value answered, traffic.errand platform first = some owner ∧
      owner.script.outcome = .ok (.ok value) ∧
      db'.effects = db.effects ++ [(first, owner.script.effect)] ∧
      response.body = platform.toText value ∧ (response.isReplayed = true ↔ i ≠ first) ∧
      pool' first = .done answered ∧ answered.status = kOk := by
  rcases answered_of_done hmutating hrun hdone with ⟨-, hne⟩ | ⟨errand, _, herrand, -⟩
  · exact absurd hstatus hne
  · obtain ⟨first, owner, saved, howner, -, htook, hbody, hreplayed⟩ :=
      answered_ok hmutating hidle hfree hrun herrand (hshares i errand herrand) hdone hstatus
    have hanswered := done_of_took hmutating hrun howner htook
    rcases effects_of_run hmutating hidle hfree hshares hrun with ⟨-, hnobody⟩ |
      ⟨first', owner', howner', heffects, honly⟩
    · rw [hnobody first owner howner] at htook
      cases htook
    · obtain ⟨rfl, value, hvalue, rfl⟩ := honly first owner saved howner htook
      rw [howner] at howner'
      obtain rfl := Option.some.inj howner'
      exact ⟨first, owner, value, _, howner, hvalue, heffects, hbody, hreplayed, hanswered, rfl⟩

end Traffic

/-! ### The guarantee -/

/-- What requests with one key may do in a run that began with the key free. -/
structure AtMostOneEffect (traffic : Traffic ι E) (platform : Platform) (k : KeyId)
    (db : Postgres ι E) (steps : List (KeyStep ι E)) (pool' : ι → Work ι E Response)
    (db' : Postgres ι E) : Prop where
  /-- At most one scenario leaves its work behind. -/
  one : db'.effects = db.effects ∨ ∃ i errand, traffic.errand platform i = some errand ∧
    db'.effects = db.effects ++ [(i, errand.script.effect)]
  /-- Every success carries the answer of that scenario, and all but one are marked. -/
  answers : ∀ i response, pool' i = .done response → response.status = kOk →
    ∃ first owner value answered, traffic.errand platform first = some owner ∧
      owner.script.outcome = .ok (.ok value) ∧
      db'.effects = db.effects ++ [(first, owner.script.effect)] ∧
      response.body = platform.toText value ∧ (response.isReplayed = true ↔ i ≠ first) ∧
      pool' first = .done answered ∧ answered.status = kOk
  /-- The one that is not marked is the first: what comes after a success is marked. -/
  later : ∀ early late between middle, steps = early ++ late →
    Runs postgres (traffic.pool platform) db early between middle →
    Runs postgres between middle late pool' db' →
    ∀ i earlier, between i = .done earlier → earlier.status = kOk →
    ∀ j response, (∀ other, between j ≠ .done other) → pool' j = .done response →
      response.status = kOk → response.isReplayed = true
  /-- A scenario that refuses or throws leaves neither the row of the key nor its work. -/
  failed : ∀ i errand, traffic.errand platform i = some errand →
    (∀ value, errand.script.outcome ≠ .ok (.ok value)) →
    (∀ t ∈ steps, t.thread = i → t.after.keys.committed k = t.before.keys.committed k ∧
      t.after.effects = t.before.effects) ∧
    ((∀ op rest, pool' i ≠ .call op rest) →
      db'.transactions i = none ∧ db'.keys.heldBy i k = none)
  /-- While no scenario has succeeded and nobody holds the key, a retry does its work. -/
  retry : db'.effects = db.effects → (∀ j, db'.keys.heldBy j k = none) →
    ∀ again : Traffic ι E, again.Mutating → ∀ i errand value,
      again.errand platform i = some errand → errand.id = k →
      errand.script.outcome = .ok (.ok value) →
      ∃ response after, (again.pool platform i).run postgres db' = (.ok response, after) ∧
        response.status = kOk ∧ response.body = platform.toText value ∧
        response.isReplayed = false ∧
        after.effects = db'.effects ++ [(i, errand.script.effect)]
  /-- A request that is refused on its way makes no call, so it takes no key. -/
  turnedAway : ∀ i problem, traffic.entrance platform i = .ok (.refused problem) →
    ∀ t ∈ steps, t.thread ≠ i

/-- **At most one effect per key.** Whatever the number of requests with one key and
whatever the order of their calls, among them scenarios that refuse or throw. -/
theorem repeats_have_at_most_one_effect {traffic : Traffic ι E} {platform : Platform} {k : KeyId}
    {db db' : Postgres ι E} {steps : List (KeyStep ι E)} {pool' : ι → Work ι E Response}
    (hmutating : traffic.Mutating) (hshares : traffic.SharesKey platform k) (hidle : db.Idle)
    (hfree : db.keys.committed k = none)
    (hrun : Runs postgres (traffic.pool platform) db steps pool' db') :
    AtMostOneEffect traffic platform k db steps pool' db' := by
  have hanswers := fun {i response} => @Traffic.answers_of_run ι E _ traffic platform k db db'
    steps pool' hmutating hidle hfree hshares hrun i response
  refine ⟨?_, fun i response hdone hstatus => hanswers hdone hstatus, ?_,
    fun i errand herrand hfails => ?_, ?_, fun i problem hentrance t ht => ?_⟩
  · rcases Traffic.effects_of_run hmutating hidle hfree hshares hrun with ⟨heffects, -⟩ |
      ⟨first, owner, howner, heffects, -⟩
    · exact Or.inl heffects
    · exact Or.inr ⟨first, owner, howner, heffects⟩
  · rintro early late between middle rfl hearly hlate i earlier hbetween hearlier j response
      hopen hdone hstatus
    -- Whoever had committed the key when the first success was answered is still the one.
    obtain ⟨first, owner, value, answered, -, -, hmiddle, -, -, hfirst, hanswered⟩ :=
      Traffic.answers_of_run hmutating hidle hfree hshares hearly hbetween hearlier
    obtain ⟨first', owner', -, -, -, -, hmiddle', -, hreplayed', -, -⟩ :=
      Traffic.answers_of_run hmutating hidle hfree hshares hearly hfirst hanswered
    obtain ⟨last, lastOwner, -, -, -, -, hlast, -, hreplayed, -, -⟩ := hanswers hdone hstatus
    obtain ⟨last', lastOwner', -, -, -, -, hlast', -, hreplayedFirst, -, -⟩ :=
      hanswers (hlate.done_of_done hfirst) hanswered
    have hsame : first = first' := by
      have heq := List.append_cancel_left (hmiddle.symm.trans hmiddle')
      simp only [List.cons.injEq, Prod.mk.injEq, and_true] at heq
      exact heq.1
    have hsameLast : last = last' := by
      have heq := List.append_cancel_left (hlast.symm.trans hlast')
      simp only [List.cons.injEq, Prod.mk.injEq, and_true] at heq
      exact heq.1
    have hunmarked : ¬ answered.isReplayed = true := fun hmarked =>
      hreplayed'.1 hmarked hsame
    have hfirstLast : first = last := by
      by_contra hne
      exact hunmarked (hreplayedFirst.2 (hsameLast ▸ hne))
    refine hreplayed.2 ?_
    rintro rfl
    rw [← hfirstLast] at hopen
    exact hopen answered hfirst
  · exact ⟨fun t ht hthread =>
      Traffic.nothing_changed_of_not_value hmutating hidle hfree hrun herrand hfails ht hthread,
      Traffic.nothing_held_of_over hmutating hidle hfree hrun⟩
  · rintro heffects hheld again hagain i errand value herrand rfl hvalue
    refine Traffic.run_retry hagain herrand hvalue hheld ?_
    cases hcommitted : db'.keys.committed errand.id with
    | none => rfl
    | some row =>
      have h := Traffic.keyInvariant hmutating hidle hfree hrun
      obtain ⟨first, owner, saved, howner, -, htook, -⟩ := h.owned row hcommitted
      rcases Traffic.effects_of_run hmutating hidle hfree hshares hrun with ⟨-, hnobody⟩ |
        ⟨_, _, -, hadded, -⟩
      · rw [hnobody first owner howner] at htook
        cases htook
      · rw [heffects] at hadded
        simp at hadded
  · refine Traffic.no_step_of_no_errand hmutating hidle hfree hrun ?_ ht
    have hentrance : enter platform (traffic.handler i) (traffic.arrival i) (traffic.request i) =
        .ok (.refused problem) := hentrance
    rw [Traffic.errand, errandOf, hentrance]

/-! ### One request, sent twice -/

/-- The empty object as text. -/
def emptyObject : Text := ascii "{}"

/-- What userver does with the empty object, and its SHA-256. -/
def standInPlatform : Platform where
  fromText text := if text = emptyObject then .ok (.object []) else .error "no empty object"
  toText
    | .object [] => emptyObject
    | _ => []
  sha256 text :=
    if text = emptyObject then
      ascii "44136fa355b3678a1146ad16f7e8649e94fb4fc21fe77e8310c060f61caaff8a"
    else []

/-- A tenant and a person whose identifiers repeat one byte. -/
def standInTenant : TenantId := ⟨Vector.replicate 16 7⟩

/-- A person whose identifier repeats one byte. -/
def standInPerson (byte : UInt8) : PersonId := ⟨Vector.replicate 16 byte⟩

/-- A handler that books lessons of the caller, and keeps keys for a day. -/
def bookingHandler : Handler where
  schema := ⟨fun _ => none⟩
  whereCredential := ⟨"session", "Authorization"⟩
  wants := .bookLesson
  about caller _ := ⟨caller.tenant, some caller.actor, none⟩
  lifetime := ⟨24 * KeyLifetime.hour, by decide⟩

/-- Everybody who comes is a tutor. -/
def tutorsOnly : Identity.AccessView where
  guardianships := []
  consents := []
  rolesOf _ _ := BitSet.ofList [.tutor]
  bornOn _ _ := none
  rule := Identity.AgeThresholds.compose 14 16 18 >>= fun thresholds =>
    Identity.MaturityRule.compose thresholds 1

/-- A tutor, whom the policy lets in, and a scenario that writes `effect` and returns an object. -/
def welcome (actor : PersonId) (effect : Nat) : Arrival Nat where
  identify _ _ := .ok (.ok ⟨standInTenant, actor⟩)
  decide := contractVerdict tutorsOnly 0
  now := 0
  tracingRequestId := ascii "trace"
  run _ _ _ := ⟨effect, .ok (.ok (.object []))⟩

/-- The key that is sent. -/
def sentKey : IdempotencyKey := ⟨ascii "idempotency-1", by decide, by decide⟩

/-- A request with that key and an empty object for a body. -/
def sentTo (path : String) : Request where
  method := .post
  path := ascii path
  body := emptyObject
  header name := if name = kIdempotencyKeyHeader then sentKey.value else []

/-- One request sent twice. -/
def sentTwice : Traffic Bool Nat where
  handler _ := bookingHandler
  arrival repeated := welcome (standInPerson 1) (if repeated then 2 else 1)
  request _ := sentTo "/lessons"

/-- The two run in the order of `picks`. -/
def sentTwicePlay (picks : List Bool) :
    List (KeyStep Bool Nat) × (Bool → Work Bool Nat Response) × Postgres Bool Nat :=
  play postgres picks (sentTwice.pool standInPlatform) {}

theorem emptyPostgres_idle : ({} : Postgres ι E).Idle := ⟨fun _ => rfl, fun _ _ => rfl⟩

theorem sentTwice_mutating : sentTwice.Mutating := fun _ => rfl

theorem sentTwice_sharesKey :
    sentTwice.SharesKey standInPlatform (standInTenant, sentKey) := by
  intro repeated errand herrand
  have hid : (sentTwice.errand standInPlatform repeated).map Errand.id =
      some (standInTenant, sentKey) := by
    cases repeated <;> decide +kernel
  rw [herrand] at hid
  exact Option.some.inj hid

/-- The repeat comes while the first is at work, and waits for it. -/
theorem sent_twice_has_one_effect :
    AtMostOneEffect sentTwice standInPlatform (standInTenant, sentKey) {}
      (sentTwicePlay ([false, false, false, true] ++ List.replicate 7 false ++
        List.replicate 7 true)).1
      (sentTwicePlay ([false, false, false, true] ++ List.replicate 7 false ++
        List.replicate 7 true)).2.1
      (sentTwicePlay ([false, false, false, true] ++ List.replicate 7 false ++
        List.replicate 7 true)).2.2 :=
  repeats_have_at_most_one_effect sentTwice_mutating sentTwice_sharesKey emptyPostgres_idle rfl
    (play_runs postgres _ _ _)

end Pdr.Http
