import Pdr.Identity.Policies.PolicySet

/-!
# What the policies grant

Taken together the policies are a table: to each action belong some grants, and a grant asks for
one role, and where it has them for a relation, a scope of a guardian and a capability. An action
is allowed exactly if one of its grants is met.

## Main definitions

* `Pdr.Identity.Grant`, `Pdr.Identity.grants`: the table.
* `Pdr.Identity.Grant.Met`: a person has what a grant asks for.

## Main results

* `Pdr.Identity.allowed_iff_granted`: the policies are the table.
* `Pdr.Identity.wellFormed_grants`: which role is asked for what.
-/

namespace Pdr.Identity

open Policy

/-- What is asked for. -/
structure Grant where
  role : Role
  tie : Option Tie := none
  scope : Option GuardianScope := none
  capability : Option Capability := none
deriving DecidableEq

namespace Grant

/-- The tutor whose resource it is. -/
def ownTutor : Grant := { role := .tutor, tie := some .mine }

/-- The student whom the resource is about. -/
def thatStudent : Grant := { role := .student, tie := some .aboutMe }

/-- The same student, old enough for something. -/
def grown (capability : Capability) : Grant :=
  { role := .student, tie := some .aboutMe, capability := some capability }

/-- A guardian of the person the resource is about, with a scope. -/
def within (scope : GuardianScope) : Grant :=
  { role := .guardian, tie := some .inMyCare, scope := some scope }

/-- The owner of the practice. -/
def owner : Grant := { role := .owner }

/-- Any tutor of the practice. -/
def tutor : Grant := { role := .tutor }

/-- The relation is the one asked for. -/
def FitsTie (grant : Grant) (tie : Tie) : Prop := ∀ asked ∈ grant.tie, tie = asked

/-- The scope asked for is open. -/
def FitsScopes (grant : Grant) (opened : GuardianScopeSet) : Prop :=
  ∀ asked ∈ grant.scope, opened.has asked = true

/-- The person is able to what is asked for. -/
def FitsAble (grant : Grant) (able : Capabilities) : Prop :=
  ∀ asked ∈ grant.capability, able.has asked = true

/-- A person has what the grant asks for. -/
structure Met (grant : Grant) (subject : Subject) : Prop where
  role : subject.roles.has grant.role = true
  tie : grant.FitsTie subject.tie
  scope : grant.FitsScopes subject.asGuardian.opened
  able : grant.FitsAble subject.able

end Grant

/-- The grants of each action. -/
def grants : Action → List Grant
  | .bookLesson => [.ownTutor, .grown .chooseTutor, .within .schedule]
  | .cancelLesson | .rescheduleLesson => [.ownTutor, .grown .moveOwnSlots, .within .schedule]
  | .viewSchedule => [.ownTutor, .thatStudent, .within .schedule, .owner]
  | .viewInvoice => [.thatStudent, .within .payments, .ownTutor, .owner]
  | .payInvoice => [.grown .payOwnMoney, .within .payments]
  | .manageAutoPayment => [.within .payments]
  | .issueRefund | .setTariff => [.ownTutor, .owner]
  | .viewMaterial => [.ownTutor, .thatStudent, .within .notesAndHomework]
  | .editMaterial | .publishMaterial | .assignPlan => [.ownTutor]
  | .viewProgress => [.thatStudent, .within .notesAndHomework, .ownTutor]
  | .recordAttempt => [.thatStudent]
  | .exportProgress => [.thatStudent, .within .notesAndHomework]
  | .viewTenantProgress => [.owner]
  | .viewLessonRecording | .viewLessonTranscript =>
    [.thatStudent, .ownTutor, .within .recordings]
  | .viewAccessJournal => [.thatStudent, .ownTutor]
  | .manageGuardianAccess => [.ownTutor, .grown .decideOwnGuardianAccess]
  | .writeReview => [.grown .writeReview]
  | .invitePeople => [.owner, .tutor]
  | .managePractice => [.owner]
  | .boundary => []

variable {subject : Subject} {action : Action} {resource : Resource}

theorem Grant.met_iff {grant : Grant} : grant.Met subject ↔ subject.roles.has grant.role = true ∧
    grant.FitsTie subject.tie ∧ grant.FitsScopes subject.asGuardian.opened ∧
      grant.FitsAble subject.able :=
  ⟨fun h => ⟨h.role, h.tie, h.scope, h.able⟩, fun ⟨hrole, htie, hscope, hable⟩ =>
    ⟨hrole, htie, hscope, hable⟩⟩

section Rules

theorem allowed_ownTutor :
    (ownTutor subject action resource).allowed = true ↔ Grant.ownTutor.Met subject := by
  simp [ownTutor, Grant.ownTutor, Grant.met_iff, Grant.FitsTie, Grant.FitsScopes, Grant.FitsAble]

theorem allowed_thatStudent :
    (thatStudent subject action resource).allowed = true ↔ Grant.thatStudent.Met subject := by
  simp [thatStudent, Grant.thatStudent, Grant.met_iff, Grant.FitsTie, Grant.FitsScopes,
    Grant.FitsAble]

theorem allowed_grown (capability : Capability) :
    (grown capability subject action resource).allowed = true ↔
      (Grant.grown capability).Met subject := by
  simp [grown, Grant.grown, Grant.met_iff, Grant.FitsTie, Grant.FitsScopes, Grant.FitsAble]

theorem allowed_within (scope : GuardianScope) :
    (within scope subject action resource).allowed = true ↔ (Grant.within scope).Met subject := by
  simp [within, Grant.within, Grant.met_iff, Grant.FitsTie, Grant.FitsScopes, Grant.FitsAble]

theorem allowed_owner :
    (hasRole .owner subject action resource).allowed = true ↔ Grant.owner.Met subject := by
  simp [Grant.owner, Grant.met_iff, Grant.FitsTie, Grant.FitsScopes, Grant.FitsAble]

theorem allowed_tutor :
    (hasRole .tutor subject action resource).allowed = true ↔ Grant.tutor.Met subject := by
  simp [Grant.tutor, Grant.met_iff, Grant.FitsTie, Grant.FitsScopes, Grant.FitsAble]

theorem allowed_anyOf_iff {parts : List Policy} :
    (anyOf parts subject action resource).allowed = true ↔
      ∃ part ∈ parts, (part subject action resource).allowed = true := by
  rw [allowed_anyOf, List.any_eq_true]

end Rules

/-- **The policies are the table.** -/
theorem allowed_iff_granted : (PolicySet.decide subject action resource).allowed = true ↔
    subject.tenant = resource.tenant ∧ ∃ grant ∈ grants action, grant.Met subject := by
  unfold PolicySet.decide
  by_cases htenant : subject.tenant = resource.tenant
  · rw [if_neg (not_not.2 htenant), and_iff_right htenant]
    cases action with
    | boundary => simp [policyOf, grants, denied]
    | _ =>
      simp only [policyOf, grants, schedulingPolicy, billingPolicy, contentPolicy, progressPolicy,
        mediaPolicy, journalPolicy, consentPolicy, reviewPolicy, practicePolicy,
        guardianInSchedule, guardianInPayments, guardianInNotes, guardianInRecordings,
        studentMovingOwnSlots, studentWritingReview, studentDecidingGuardianAccess,
        studentPayingOwnMoney, studentChoosingTutor, allowed_anyOf_iff, List.exists_mem_cons_iff,
        List.not_mem_nil, false_and, exists_false, or_false, or_assoc, allowed_ownTutor,
        allowed_thatStudent, allowed_grown, allowed_within, allowed_owner, allowed_tutor]
  · rw [if_pos htenant]
    simp [htenant, denied]

/-- **Which role is asked for what.** A guardian is always one of the person the resource is about,
and is asked for a scope at most; a student is always that person, and is asked for a capability
at most; nobody else is asked for either. -/
theorem wellFormed_grants (action : Action) {grant : Grant} (h : grant ∈ grants action) :
    (grant.role = .guardian → grant.tie = some .inMyCare ∧ grant.capability = none) ∧
    (grant.role = .student → grant.tie = some .aboutMe ∧ grant.scope = none) ∧
    (grant.role ≠ .guardian → grant.scope = none) ∧
    (grant.role ≠ .student → grant.capability = none) ∧
    (∀ scope ∈ grant.scope, scope ≠ .boundary) ∧
    ∀ capability ∈ grant.capability, capability ≠ .boundary := by
  revert grant
  cases action <;> decide

end Pdr.Identity
