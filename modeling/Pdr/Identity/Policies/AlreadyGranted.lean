import Pdr.Identity.Policies.ComingOfAge
import Pdr.Identity.Policies.RevokedGuardianship

/-!
# What is said to be open already

A grant is refused as given already where a row of its scope is not revoked. Whether that row
still opens anything is not asked: its term may be over, the guardianship it rests on may be
revoked, the grace after the student's age of decision may have passed. Then the scope is closed,
and nobody can open it again before the row is revoked.

## Main definitions

* `Pdr.Identity.AccessView.InForce`: a consent that is not revoked still opens its scope.
* `Pdr.Identity.GrantGuardianScopeRequest.HasBasis`: what the request rests on is there.

## Main results

* `Pdr.Identity.refused_as_granted_iff`: when a grant is refused as given already.
* `Pdr.Identity.already_granted_is_open_iff`: when this is said only of what is open.
-/

namespace Pdr.Identity

open StoreProgram Program

/-- A consent that is not revoked still opens its scope: it was given, its term is not over, what
it rests on holds, and the student gave it himself or is not too old for it. -/
structure AccessView.InForce (view : AccessView) (rule : MaturityRule) (now : Int)
    (consent : GuardianConsent) : Prop where
  given : consent.grantedAt ≤ now
  term : ∀ expires ∈ consent.expiresAt, now < expires
  basis : consent.basis ≠ .guardianship ∨
    view.Guards consent.tenant consent.guardian consent.student
  age : consent.grantedBy = consent.student ∨ ∀ born,
    view.bornOn consent.tenant consent.student = some born → now < closesAt rule born consent.scope

/-- What the request rests on is there: the guardianship, or the word of the student. -/
def GrantGuardianScopeRequest.HasBasis (request : GrantGuardianScopeRequest) (db : Database) :
    Prop :=
  if request.basis = .guardianship then
    ¬ db.Unguarded request.tenant request.guardian request.student
  else request.grantedBy = request.student

section Refusals

variable {db : Database} {rule : MaturityRule} {drawn : Drawn} {request : GrantGuardianScopeRequest}

theorem run_requireBasis_of_hasBasis (h : request.HasBasis db) :
    (requireBasis request).run database db = (.ok (), db) := by
  unfold GrantGuardianScopeRequest.HasBasis at h
  unfold requireBasis
  split
  · rename_i hbasis
    rw [if_pos hbasis] at h
    obtain ⟨row, hrow⟩ := Option.ne_none_iff_exists'.1 (mt findActive_eq_none_iff.1 h)
    simp only [run_bind, run_perform, exec_guardianships, GuardianshipCall.exec, hrow]
    rfl
  · rename_i hbasis
    rw [if_neg hbasis] at h
    rw [if_neg (not_not_intro h)]
    rfl

/-- Without its basis a request is refused, but not as granted already. -/
theorem run_requireBasis_of_not_hasBasis (h : ¬ request.HasBasis db) :
    ∃ error, error ≠ consentAlreadyGranted ∧
      (requireBasis request).run database db = (.error (.refused error), db) := by
  unfold GrantGuardianScopeRequest.HasBasis at h
  unfold requireBasis
  split
  · rename_i hbasis
    rw [if_pos hbasis, not_not] at h
    refine ⟨guardianshipNotFound, by decide, ?_⟩
    simp only [run_bind, run_perform, exec_guardianships, GuardianshipCall.exec,
      findActive_eq_none_iff.2 h]
    rfl
  · rename_i hbasis
    rw [if_neg hbasis] at h
    exact ⟨watcherNamedBySomeoneElse, by decide, by rw [if_pos h]; rfl⟩

theorem grant_ne_alreadyGranted {id : ConsentId} {tenant : TenantId} {guardian student : PersonId}
    {scope : GuardianScope} {basis : ConsentBasis} {grantedBy : PersonId} {grantedAt : Int}
    {expiresAt : Option Int} :
    GuardianConsent.grant id tenant guardian student scope basis grantedBy grantedAt expiresAt ≠
      .error consentAlreadyGranted := by
  unfold GuardianConsent.grant
  split_ifs <;> simp [consentAlreadyGranted]

theorem commit_ne_refused {Row : Type} [Schema Row] {name : String} {table : Table Row}
    {outcome : Option (Table Row)} {error : Error} :
    (commit name table outcome).1 ≠ .error (.refused error) := by
  cases outcome <;> simp [commit]

/-- **A grant is refused as given already** exactly if its basis is there and its scope has a row
that is not revoked. -/
theorem refused_as_granted_iff :
    ((grantGuardianScope (.ok rule) drawn request).run database db).1 =
        .error (.refused consentAlreadyGranted) ↔
      request.HasBasis db ∧ ∃ row, liveRow db request = some row := by
  by_cases hbasis : request.HasBasis db
  · rw [grantGuardianScope, accept_ok, done_bind, run_bind, run_requireBasis_of_hasBasis hbasis]
    cases hrow : liveRow db request with
    | some row =>
      simp only [liveRow] at hrow
      simp [run_bind, ConsentCall.exec, hrow, hbasis]
    | none =>
      simp only [liveRow] at hrow
      refine ⟨fun h => ?_, by simp⟩
      simp only [run_bind, run_perform, exec_consents, ConsentCall.exec, hrow, exec_directory,
        DirectoryCall.exec] at h
      split at h
      · simp [consentNeedsStudentWord, consentAlreadyGranted] at h
      · rcases hgrant : GuardianConsent.grant drawn.consentId request.tenant request.guardian
            request.student request.scope request.basis request.grantedBy (drawn.clock 0)
            request.expiresAt with error | consent
        · rw [hgrant, accept_error, raise_bind, run_raise] at h
          obtain rfl : error = consentAlreadyGranted := by simpa using h
          exact absurd hgrant grant_ne_alreadyGranted
        · rw [hgrant, accept_ok, done_bind, run_bind, run_perform, exec_consents] at h
          rcases hsave : (ConsentCall.exec (.save consent) db.consents).1 with fault | answer
          · rw [hsave] at h
            obtain rfl : fault = .refused consentAlreadyGranted := by simpa using h
            exact absurd hsave commit_ne_refused
          · rw [hsave] at h
            cases h
  · obtain ⟨error, hother, hrun⟩ := run_requireBasis_of_not_hasBasis hbasis
    rw [grantGuardianScope, accept_ok, done_bind, run_bind, hrun]
    simp [hbasis, hother]

end Refusals

/-! ### What is open -/

section Open

variable {db : Database} {rule : MaturityRule} {now : Int} {request : GrantGuardianScopeRequest}

theorem liveRow_eq_some_iff {row : GuardianConsent} :
    liveRow db request = some row ↔
      row ∈ liveRows request.tenant request.guardian request.student request.scope db := by
  have hscope : ∀ found, liveRow db request = some found →
      found ∈ ConsentCall.activeRows request.tenant request.guardian request.student
        db.consents.rows ∧ found.scope = request.scope := by
    intro found hfound
    rw [liveRow] at hfound
    exact ⟨List.mem_of_find?_eq_some hfound, by simpa using List.find?_some hfound⟩
  constructor
  · intro h
    exact List.mem_filter.2 ⟨(hscope row h).1, decide_eq_true (hscope row h).2⟩
  · intro h
    obtain ⟨hlive, hsame⟩ := List.mem_filter.1 h
    obtain ⟨found, hfound⟩ : ∃ found, liveRow db request = some found :=
      Option.isSome_iff_exists.1 (List.find?_isSome.2 ⟨row, hlive, hsame⟩)
    obtain rfl : found = row := eq_of_live (hscope found hfound).1 hlive
      ((hscope found hfound).2.trans (of_decide_eq_true hsame).symm)
    exact hfound

/-- A scope with a row that is not revoked is open exactly if that row is in force. -/
theorem opened_iff_inForce {row : GuardianConsent} (hrow : liveRow db request = some row) :
    ((db.accessView (.ok rule)).accessOf now request.tenant request.guardian
      request.student).opened.has request.scope = true ↔
        (db.accessView (.ok rule)).InForce rule now row := by
  obtain ⟨hlive, hscope⟩ := List.mem_filter.1 (liveRow_eq_some_iff.1 hrow)
  obtain ⟨hmem, htenant, hguardian, hstudent, hrevoked⟩ := mem_activeRows.1 hlive
  rw [AccessView.has_accessOf_iff rfl]
  constructor
  · rintro ⟨consent, hconsent, hcarries, ⟨htenant', hguardian', hstudent'⟩, hrevoked', hgiven,
      hterm, hbasis, hage⟩
    have hsame : consent = row := by
      refine eq_of_live (mem_activeRows.2 ⟨hconsent, htenant', hguardian', hstudent', hrevoked'⟩)
        hlive ?_
      rw [hcarries, of_decide_eq_true hscope]
    subst hsame
    refine ⟨hgiven, hterm, ?_, ?_⟩
    · rwa [htenant, hguardian, hstudent]
    · rw [htenant, hstudent, hcarries]
      rcases hage with hown | hnone | ⟨born, hborn, hage⟩
      · exact Or.inl hown
      · exact Or.inr fun born hborn => by rw [hnone] at hborn; cases hborn
      · refine Or.inr fun other hother => ?_
        obtain rfl := Option.some.inj (hborn.symm.trans hother)
        exact hage
  · rintro ⟨hgiven, hterm, hbasis, hage⟩
    rw [htenant, hguardian, hstudent] at hbasis
    rw [htenant, hstudent] at hage
    refine ⟨row, hmem, of_decide_eq_true hscope, ⟨htenant, hguardian, hstudent⟩, hrevoked, hgiven,
      hterm, hbasis, ?_⟩
    rcases hage with hown | hage
    · exact Or.inl hown
    · cases hborn : (db.accessView (.ok rule)).bornOn request.tenant request.student with
      | none => exact Or.inr (Or.inl rfl)
      | some born =>
        refine Or.inr (Or.inr ⟨born, rfl, ?_⟩)
        rw [← of_decide_eq_true hscope]
        exact hage born hborn

end Open

/-- **"Already open" is said only of what is open** exactly if the row of the scope that is not
revoked, if there is one, is in force. After any requests about children and watchers, each under
its own rule and at its own moment: whether a grant that is refused as given already finds the
scope open at a moment depends on that row alone. -/
theorem already_granted_is_open_iff (start : Database) (attendances : List Attendance) :
    let db := attendEach start attendances
    ∀ (rule : MaturityRule) (drawn : Drawn) (request : GrantGuardianScopeRequest) (now : Int),
      (((grantGuardianScope (.ok rule) drawn request).run database db).1 =
          .error (.refused consentAlreadyGranted) →
        ((db.accessView (.ok rule)).accessOf now request.tenant request.guardian
          request.student).opened.has request.scope = true) ↔
      (request.HasBasis db → ∀ row ∈ liveRows request.tenant request.guardian request.student
        request.scope db, (db.accessView (.ok rule)).InForce rule now row) := by
  intro db rule drawn request now
  rw [refused_as_granted_iff]
  constructor
  · intro h hbasis row hrow
    have hlive := liveRow_eq_some_iff.2 hrow
    exact (opened_iff_inForce hlive).1 (h ⟨hbasis, row, hlive⟩)
  · rintro h ⟨hbasis, row, hlive⟩
    exact (opened_iff_inForce hlive).2 (h hbasis row (liveRow_eq_some_iff.1 hlive))

/-- The parent sees the recordings for one day. -/
def parentSeesBriefly : GrantGuardianScopeRequest :=
  { parentSees with expiresAt := some (afterBirthday 9 2) }

/-- The student names the parent as his watcher. -/
def parentNamed : GrantGuardianScopeRequest :=
  { parentSees with basis := .namedByStudent, grantedBy := repeated 1 }

/-- The child is enrolled, and its parent sees the recordings for one day. -/
def brieflySeen : List Attendance :=
  [⟨.ok schoolRule, drawnAt (afterBirthday 9 0) 1, .enrolChild childEnrolled⟩,
    ⟨.ok schoolRule, drawnAt (afterBirthday 9 1) 3, .grantScope parentSeesBriefly⟩]

/-- The child is enrolled, its parent sees the recordings, and stops being its guardian. -/
def guardedOnce : List Attendance :=
  [⟨.ok schoolRule, drawnAt (afterBirthday 9 0) 1, .enrolChild childEnrolled⟩,
    ⟨.ok schoolRule, drawnAt (afterBirthday 9 1) 3, .grantScope parentSees⟩,
    ⟨.ok schoolRule, drawnAt (afterBirthday 10 0) 5,
      .revokeGuardianship ⟨repeated 7, repeated 2, repeated 1⟩⟩]

/-- **Closed scopes are called open**: after the term of the consent, and after the guardianship
was revoked, where the student names the same person himself. -/
theorem closed_scope_is_called_open :
    (((grantGuardianScope (.ok schoolRule) (drawnAt (afterBirthday 9 3) 6) parentSees).run database
          (attendEach {} brieflySeen)).1 = .error (.refused consentAlreadyGranted) ∧
      (((attendEach {} brieflySeen).accessView (.ok schoolRule)).accessOf (afterBirthday 9 3)
        (repeated 7) (repeated 2) (repeated 1)).opened.has .recordings = false) ∧
    ((grantGuardianScope (.ok schoolRule) (drawnAt (afterBirthday 10 1) 6) parentNamed).run database
          (attendEach {} guardedOnce)).1 = .error (.refused consentAlreadyGranted) ∧
      (((attendEach {} guardedOnce).accessView (.ok schoolRule)).accessOf (afterBirthday 10 1)
        (repeated 7) (repeated 2) (repeated 1)).opened.has .recordings = false := by
  refine ⟨⟨by decide +kernel, by decide +kernel⟩, by decide +kernel, by decide +kernel⟩

end Pdr.Identity
