import Pdr.Identity.Application.GuardianScopes

/-!
# The word of a student who has grown up

From the age of decision on, a consent that somebody else gave asks for the student's own
word, and the scenario that grants a scope is the one by which he gives it. The scenario
refuses a scope that has a live row, and a scope that asks for the word has one: the row of
the consent that asks. So the word cannot be given while the old consent stands.

## Main definitions

* `Pdr.Identity.weighed`: the access of a watcher by the stored consents.
* `Pdr.Identity.Confirms`: the student's grant succeeds and settles the scope.

## Main results

* `Pdr.Identity.asked_scope_has_row`: a scope that asks or waits has a live row.
* `Pdr.Identity.grown_up_student_never_confirms`: no grant of such a scope succeeds.
-/

namespace Pdr.Identity

open StoreProgram Program

/-- The stored consents of a pair, weighed while the guardianship holds. -/
def weighed (db : Database) (rule : MaturityRule) (bornOn : Option BirthDate) (now : Int)
    (tenant : TenantId) (guardian student : PersonId) : GuardianAccess :=
  weighConsents (ConsentCall.activeRows tenant guardian student db.consents.rows) bornOn rule now
    true

/-- The scope of the request waits for the student's decision, with or without the grace. -/
def asksForWord (db : Database) (rule : MaturityRule) (bornOn : Option BirthDate) (now : Int)
    (request : GrantGuardianScopeRequest) : Bool :=
  let access := weighed db rule bornOn now request.tenant request.guardian request.student
  access.deciding.has request.scope || access.awaitsStudent.has request.scope

/-- The grant succeeds, and after it the scope is open and asks no more. -/
def Confirms (db : Database) (rule : MaturityRule) (bornOn : Option BirthDate) (now : Int)
    (drawn : Drawn) (request : GrantGuardianScopeRequest) : Prop :=
  ∃ consent db',
    (grantGuardianScope (.ok rule) drawn request).run database db = (.ok consent, db') ∧
      let access := weighed db' rule bornOn now request.tenant request.guardian request.student
      access.opened.has request.scope = true ∧ access.deciding.has request.scope = false ∧
        access.awaitsStudent.has request.scope = false

section Asked

variable {db : Database} {rule : MaturityRule} {bornOn : Option BirthDate} {now : Int}
  {drawn : Drawn} {request : GrantGuardianScopeRequest}

/-- What `FindActive` answers for the scope of a request. -/
def liveRow (db : Database) (request : GrantGuardianScopeRequest) : Option GuardianConsent :=
  (ConsentCall.activeRows request.tenant request.guardian request.student
    db.consents.rows).find? (·.scope = request.scope)

/-- A scope that asks for the student's word has the row of the consent that asks. -/
theorem asked_scope_has_row (h : asksForWord db rule bornOn now request = true) :
    ∃ row, liveRow db request = some row := by
  obtain ⟨-, hdeciding, hawaits⟩ := has_weighConsents bornOn rule now true
    (ConsentCall.activeRows request.tenant request.guardian request.student db.consents.rows)
    request.scope
  have hasks : ∃ row ∈ ConsentCall.activeRows request.tenant request.guardian request.student
      db.consents.rows, row.scope = request.scope := by
    simp only [asksForWord, weighed, hdeciding, hawaits, Bool.or_eq_true, List.any_eq_true,
      Bool.and_eq_true, decide_eq_true_eq] at h
    rcases h with ⟨row, hrow, -, hscope⟩ | ⟨row, hrow, -, hscope⟩
    · exact ⟨row, hrow, hscope.symm⟩
    · exact ⟨row, hrow, hscope.symm⟩
  obtain ⟨row, hrow, hscope⟩ := hasks
  refine Option.isSome_iff_exists.1 (List.find?_isSome.2 ⟨row, hrow, ?_⟩)
  exact decide_eq_true hscope

theorem run_requireBasis_snd (db : Database) (request : GrantGuardianScopeRequest) :
    ((requireBasis request).run database db).2 = db := by
  unfold requireBasis
  split
  · rw [run_bind, run_perform, exec_guardianships]
    simp only [GuardianshipCall.exec]
    split <;> rfl
  · split <;> rfl

/-- On no basis does a grant of a scope that has a live row succeed. -/
theorem grantGuardianScope_of_live_ne_ok {row : GuardianConsent}
    (hrow : liveRow db request = some row) (consent : GuardianConsent) (db' : Database) :
    (grantGuardianScope (.ok rule) drawn request).run database db ≠ (.ok consent, db') := by
  intro h
  obtain ⟨_, start, hstart, hafterRule⟩ := run_bind_eq_ok _ h
  obtain ⟨-, rfl⟩ := Prod.mk.inj hstart
  obtain ⟨⟨⟩, between, hbetween, hrest⟩ := run_bind_eq_ok _ hafterRule
  have hsame : between = db := by
    have hstate := congrArg Prod.snd hbetween
    rwa [run_requireBasis_snd, eq_comm] at hstate
  subst hsame
  simp only [liveRow] at hrow
  simp [run_bind, ConsentCall.exec, hrow] at hrest

/-- **The word is never taken.** In no state of the store does the grant of a scope that asks
for the student's word succeed, whoever the guardian, whatever the rule, the day of birth, the
moment and the moment at which the grant reads the clock. -/
theorem grown_up_student_never_confirms (hasks : asksForWord db rule bornOn now request = true) :
    ¬ Confirms db rule bornOn now drawn request := by
  rintro ⟨consent, db', hgranted, -⟩
  obtain ⟨row, hrow⟩ := asked_scope_has_row hasks
  exact grantGuardianScope_of_live_ne_ok hrow consent db' hgranted

end Asked

/-! ### A school with one grown student -/

/-- The parent opens the recordings to himself. -/
def parentSees : GrantGuardianScopeRequest where
  tenant := repeated 7
  guardian := repeated 2
  student := repeated 1
  scope := .recordings
  basis := .guardianship
  grantedBy := repeated 2
  expiresAt := none

/-- The same by the word of the student. -/
def studentAgrees : GrantGuardianScopeRequest := { parentSees with grantedBy := repeated 1 }

/-- The moment at which the child turned so many years old, and some days more. -/
def afterBirthday (years days : Int) : Int :=
  AgeStatus.turnsAt childEnrolled.bornOn years + days * microsOfDay

/-- The child is enrolled, and its parent opens the recordings to himself. -/
def schoolDays : Database :=
  attendAll (.ok schoolRule) {}
    [(drawnAt (afterBirthday 9 0) 1, .enrolChild childEnrolled),
      (drawnAt (afterBirthday 9 1) 3, .grantScope parentSees)]

/-- A year after turning 14 the grace is over, and the word is not taken. -/
theorem student_of_15_cannot_agree :
    ¬ Confirms schoolDays schoolRule (some childEnrolled.bornOn) (afterBirthday 15 0)
      (drawnAt (afterBirthday 15 0) 4) studentAgrees :=
  grown_up_student_never_confirms (by decide +kernel)

/-- Ten days after turning 14, with the guardianship in place, the scope asks for the student's
word, and the student cannot give it. -/
theorem student_of_14_cannot_agree :
    (schoolDays.guardianships.rows.any fun row =>
        GuardianshipCall.isOf (repeated 7) (repeated 2) (repeated 1) row && row.isActive) = true ∧
      asksForWord schoolDays schoolRule (some childEnrolled.bornOn) (afterBirthday 14 10)
        studentAgrees = true ∧
      ¬ Confirms schoolDays schoolRule (some childEnrolled.bornOn) (afterBirthday 14 10)
        (drawnAt (afterBirthday 14 10) 4) studentAgrees := by
  have hasks : asksForWord schoolDays schoolRule (some childEnrolled.bornOn)
      (afterBirthday 14 10) studentAgrees = true := by decide +kernel
  refine ⟨by decide +kernel, hasks, ?_⟩
  rintro ⟨consent, db', hgranted, -⟩
  obtain ⟨row, hrow⟩ := asked_scope_has_row hasks
  exact grantGuardianScope_of_live_ne_ok hrow consent db' hgranted

end Pdr.Identity
