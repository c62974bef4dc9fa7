import Pdr.Identity.Application.OneTimeLinks
import Pdr.Identity.Store.Laws
import Pdr.StoreProgram.Interleaving

/-!
# How often a link works

Whoever follows a link looks its token up, checks that it is unused, and marks it used some
calls later. The mark is written only over an unused row, and the scenario is not told
whether it was. Two executions that both look before either has marked therefore both go on
to their sessions. An execution that opens a session always makes the mark before it, so
the link works once as long as every mark finds its row unused.

## Main definitions

* `Pdr.Identity.AtMostOneSession`: at most one execution has returned a session.
* `Pdr.Identity.marksUnused`: the mark of this step falls on an unused row.

## Main results

* `Pdr.Identity.burns_of_returns`: an execution that opens a session has looked the token up
  and has marked it.
* `Pdr.Identity.link_works_once_if_marks_fall_on_unused`: then at most one of any number of
  interleaved executions opens a session.
* `Pdr.Identity.letter_lets_both_guests_in`: without it two do.
-/

namespace Pdr.Identity

open StoreProgram Program

variable {ι : Type} [DecidableEq ι]

/-- An execution that returns a session has found the link's token and has marked it used. -/
theorem burns_of_returns {ports : AuthPorts} {drawn : Drawn} {link : LinkRequest}
    {history : List (Entry Call.Answer Fault)} {session : Session}
    (h : (followLink ports drawn link).Returns history session) :
    ∃ found used,
      ⟨.tokens (.find link.tenant (ports.digests link.secret.value)), .ok (some found)⟩ ∈ history ∧
      ⟨.tokens (.markUsed used), .ok ()⟩ ∈ history ∧
      used = { found with usedAt := some (drawn.clock 0) } := by
  cases link with
  | invitation request =>
    simp only [followLink, acceptInvitation, returns_ofExcept_bind, returns_perform_bind] at h
    obtain ⟨rules, -, lifetimes, -, answer, later, rfl, h⟩ := h
    cases answer with
    | none => exact absurd h (not_returns_raise _ _ _)
    | some found =>
      dsimp only at h
      split at h
      · simp only [followInvitation, returns_ofExcept_bind, Result.orRefuse_eq_ok] at h
        obtain ⟨used, hused, chosen, -, hash, -, h⟩ := h
        obtain ⟨account, early, late, -, hrest, rfl⟩ := (returns_bind ..).1 h
        simp only [returns_perform_bind, returns_ofExcept_bind] at hrest
        obtain ⟨enrolled, _, rfl, ⟨⟩, -, ⟨⟩, _, rfl, -⟩ := hrest
        exact ⟨found, used, by simp [LinkRequest.tenant, LinkRequest.secret], by simp,
          (OneTimeToken.used_eq_ok.1 hused).2⟩
      · exact absurd h (not_returns_raise _ _ _)
  | passwordReset request =>
    simp only [followLink, resetPassword, returns_ofExcept_bind, returns_perform_bind] at h
    obtain ⟨rules, -, lifetimes, -, answer, later, rfl, h⟩ := h
    cases answer with
    | none => exact absurd h (not_returns_raise _ _ _)
    | some found =>
      dsimp only at h
      split at h
      · simp only [followReset, returns_ofExcept_bind, returns_perform_bind,
          Result.orRefuse_eq_ok] at h
        obtain ⟨used, hused, chosen, -, hash, -, ⟨⟩, _, rfl, -⟩ := h
        exact ⟨found, used, by simp [LinkRequest.tenant, LinkRequest.secret], by simp,
          (OneTimeToken.used_eq_ok.1 hused).2⟩
      · exact absurd h (not_returns_raise _ _ _)

/-- Of all executions at most one has returned a session. -/
def AtMostOneSession (pool : ι → Scenario Session) : Prop :=
  ∀ i j, (pool i).value?.isSome = true → (pool j).value?.isSome = true → i = j

/-- If the step marks a token used, no use of it was recorded before. -/
def marksUnused (t : Step ι Call.Answer Fault Database) : Bool :=
  match t.entry.op with
  | .tokens (.markUsed used) => !t.before.isUsed used.tenant used.id
  | _ => true

omit [DecidableEq ι] in
theorem not_isUsed_of_marksUnused {t : Step ι Call.Answer Fault Database} {used : OneTimeToken}
    (h : marksUnused t = true) (hop : t.entry.op = .tokens (.markUsed used)) :
    t.before.isUsed used.tenant used.id = false := by
  simpa [marksUnused, hop] using h

section Following

variable {digests : Digests} {hasher : PasswordHasher} {settings : ι → AuthSettings}
  {drawn : ι → Drawn} {links : ι → LinkRequest} {token : OneTimeToken} {db db' : Database}
  {steps : List (Step ι Call.Answer Fault Database)} {pool' : ι → Scenario Session}

/-- Each execution of the run that returned a session has a step that marked the token. -/
theorem exists_mark (hstored : token ∈ db.tokens.rows)
    (hlinks : ∀ i, (links i).tenant = token.tenant ∧ digests (links i).secret.value = token.secret)
    (hrun : Runs database (fun i => followLink ⟨settings i, digests, hasher⟩ (drawn i) (links i))
      db steps pool' db')
    {i : ι} (hi : (pool' i).value?.isSome = true) :
    ∃ t ∈ steps, t.thread = i ∧ (∃ used, t.entry.op = .tokens (.markUsed used) ∧
      used.tenant = token.tenant ∧ used.id = token.id) ∧
      t.after.isUsed token.tenant token.id = true := by
  obtain ⟨session, hsession⟩ := Option.isSome_iff_exists.1 hi
  have hreturns := hrun.follows i
  rw [value?_eq_some.1 hsession] at hreturns
  obtain ⟨found, used, hfind, hmark, hused⟩ := burns_of_returns hreturns
  have hkept := Database.keeps_hasToken token.tenant token.id token.secret
  have hhas : ∀ t ∈ steps, t.before.HasToken token.tenant token.id token.secret := by
    intro t ht
    obtain ⟨early, late, rfl⟩ := List.append_of_mem ht
    exact hrun.keeps_before (fun v hv hbefore => hrun.kept_step hkept
      (List.mem_append_left _ hv) hbefore) ⟨token, hstored, rfl, rfl, rfl⟩
  obtain ⟨look, hlook, -, hentry⟩ := Runs.exists_step hfind
  have hfound : found.tenant = token.tenant ∧ found.id = token.id := by
    have hexec := hrun.exec_eq hlook
    rw [hentry] at hexec
    dsimp only at hexec
    rw [(hlinks i).1, (hlinks i).2] at hexec
    exact Database.id_eq_of_find hexec (hhas look hlook)
  obtain ⟨t, ht, hthread, hentry⟩ := Runs.exists_step hmark
  have hof : used.tenant = token.tenant ∧ used.id = token.id := by
    rw [hused]
    exact hfound
  refine ⟨t, ht, hthread, ⟨used, by rw [hentry], hof⟩, ?_⟩
  have hexec := hrun.exec_eq ht
  rw [hentry] at hexec
  exact Database.isUsed_of_markUsed hexec hof (hhas t ht) (by rw [hused]; rfl)

/-- **A link works once.** Any number of executions follow one link in any order of their
store calls. If every mark falls on an unused token, at most one of them returns a
session. -/
theorem link_works_once_if_marks_fall_on_unused (hstored : token ∈ db.tokens.rows)
    (hlinks : ∀ i, (links i).tenant = token.tenant ∧ digests (links i).secret.value = token.secret)
    (hrun : Runs database (fun i => followLink ⟨settings i, digests, hasher⟩ (drawn i) (links i))
      db steps pool' db')
    (hmarks : ∀ t ∈ steps, marksUnused t = true) : AtMostOneSession pool' := by
  intro i j hi hj
  by_contra hij
  obtain ⟨t, ht, hti, ⟨used, htop, htenant, hid⟩, htused⟩ := exists_mark hstored hlinks hrun hi
  obtain ⟨u, hu, huj, ⟨used', huop, htenant', hid'⟩, huused⟩ :=
    exists_mark hstored hlinks hrun hj
  have hne : t ≠ u := fun h => hij (by rw [← hti, ← huj, h])
  have hkept := Database.keeps_isUsed token.tenant token.id
  rcases exists_order ht hu hne with ⟨early, middle, late, rfl⟩ | ⟨early, middle, late, rfl⟩
  · have hunused := not_isUsed_of_marksUnused (hmarks u hu) huop
    rw [htenant', hid', hrun.keeps_between (P := fun db => db.isUsed _ _ = true)
      (fun v hv => hrun.kept_step hkept (by simp [hv])) htused] at hunused
    cases hunused
  · have hunused := not_isUsed_of_marksUnused (hmarks t ht) htop
    rw [htenant, hid, hrun.keeps_between (P := fun db => db.isUsed _ _ = true)
      (fun v hv => hrun.kept_step hkept (by simp [hv])) huused] at hunused
    cases hunused

end Following

/-! ### Two guests with one letter -/

/-- The secret of the letter. -/
def letterSecret : TokenSecret := ⟨List.replicate 43 65, by decide⟩

/-- A student's invitation that works from moment 0 to moment 1000. -/
def letterToken : OneTimeToken :=
  ⟨repeated 9, repeated 7, standInDigest letterSecret.value, .invitation, some .student, none,
    none, 0, 1000, none, points_invitation .student⟩

/-- The database with that invitation and nothing else. -/
def letterSent : Database := { tokens := ⟨[letterToken], by decide, by decide⟩ }

/-- The first and the second guest; each gives his own mail. -/
def guestMail : Bool → Email
  | false => mailOf (ascii "a@b.c")
  | true => mailOf (ascii "d@b.c")

/-- Where the guest is seen. -/
def guestSeen : Fingerprint := ⟨standInDigest [], standInDigest []⟩

/-- The guest follows his link. -/
def guestLink (guest : Bool) : LinkRequest :=
  .invitation
    { tenant := repeated 7
      secret := letterSecret
      displayName := ascii "guest"
      mail := guestMail guest
      bornOn := ⟨⟨2000, 1, 1⟩, by decide, by decide⟩
      zone := ⟨ascii "UTC"⟩
      password := ascii "password"
      seen := guestSeen }

/-- What the generators give each guest. -/
def guestDrawn : Bool → Drawn
  | false => drawnAt 10 1
  | true => drawnAt 20 101

/-- Each guest follows the link. -/
def guests (guest : Bool) : Scenario Session :=
  followLink standIn (guestDrawn guest) (guestLink guest)

/-- The guests follow the link in the order of `picks`. -/
def guestsPlay (picks : List Bool) :
    List (Step Bool Call.Answer Fault Database) × (Bool → Scenario Session) × Database :=
  play database picks guests letterSent

/-- One guest after the other: the letter lets the first one in, and no more. -/
theorem letter_lets_the_first_guest_in :
    AtMostOneSession (guestsPlay (List.replicate 7 false ++ List.replicate 7 true)).2.1 := by
  have hstored : letterToken ∈ letterSent.tokens.rows := by decide +kernel
  have hlinks : ∀ guest, (guestLink guest).tenant = letterToken.tenant ∧
      standInDigest (guestLink guest).secret.value = letterToken.secret := by decide +kernel
  have hrun : Runs database
      (fun guest => followLink ⟨standIn.settings, standInDigest, standInHasher⟩ (guestDrawn guest)
        (guestLink guest)) letterSent _ _ _ :=
    play_runs database (List.replicate 7 false ++ List.replicate 7 true) guests letterSent
  exact link_works_once_if_marks_fall_on_unused hstored hlinks hrun (by decide +kernel)

/-- Both guests look the letter up before either marks it: both get a session by one live
invitation. -/
theorem letter_lets_both_guests_in :
    letterToken ∈ letterSent.tokens.rows ∧ letterToken.isUsableAt 10 = true ∧
      letterToken.isUsableAt 20 = true ∧
      (∀ guest, (guestLink guest).tenant = letterToken.tenant ∧
        standInDigest (guestLink guest).secret.value = letterToken.secret) ∧
      ∃ steps pool' db', Runs database guests letterSent steps pool' db' ∧
        ¬ AtMostOneSession pool' := by
  refine ⟨by decide +kernel, by decide +kernel, by decide +kernel, by decide +kernel, _, _, _,
    play_runs database ([false, true] ++ List.replicate 6 false ++ List.replicate 6 true) guests
      letterSent, fun honce => ?_⟩
  have hsame := honce false true (by decide +kernel) (by decide +kernel)
  cases hsame

end Pdr.Identity
