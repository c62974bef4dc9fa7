import Pdr.Identity.Policies.Policy

/-!
# The policies of the platform

Nine policies, each for its own actions, and the table that finds the policy of an action.

## Main definitions

* `Pdr.Identity.policyOf`: the table.
* `Pdr.Identity.PolicySet.decide`: what `PolicySet::Decide` answers.

## Main results

* `Pdr.Identity.PolicySet.coherent_decide`: whatever is refused, a reason to refuse is named.
-/

namespace Pdr.Identity

open Policy

/-! ### Rules shared by the policies -/

/-- `Within`: a guardian of the person the resource is about, with a scope. -/
def within (scope : GuardianScope) : Policy :=
  allOf [hasRole .guardian, tied .inMyCare, hasScope scope]

/-- A guardian to whom the schedule is open. -/
def guardianInSchedule : Policy := within .schedule

/-- A guardian to whom the payments are open. -/
def guardianInPayments : Policy := within .payments

/-- A guardian to whom notes and homework are open. -/
def guardianInNotes : Policy := within .notesAndHomework

/-- A guardian to whom the recordings are open. -/
def guardianInRecordings : Policy := within .recordings

/-- `Grown`: the student the resource is about, old enough for something. -/
def grown (capability : Capability) : Policy :=
  allOf [hasRole .student, tied .aboutMe, able capability]

/-- A student old enough to move his lessons. -/
def studentMovingOwnSlots : Policy := grown .moveOwnSlots

/-- A student old enough to write reviews. -/
def studentWritingReview : Policy := grown .writeReview

/-- A student old enough to decide about his guardians. -/
def studentDecidingGuardianAccess : Policy := grown .decideOwnGuardianAccess

/-- A student old enough to pay. -/
def studentPayingOwnMoney : Policy := grown .payOwnMoney

/-- A student old enough to choose his tutor. -/
def studentChoosingTutor : Policy := grown .chooseTutor

/-- The tutor whose resource it is. -/
def ownTutor : Policy := allOf [hasRole .tutor, tied .mine]

/-- The student whom the resource is about. -/
def thatStudent : Policy := allOf [hasRole .student, tied .aboutMe]

/-! ### The policies -/

/-- `SchedulingPolicy`. -/
def schedulingPolicy : Policy := fun subject action resource =>
  let mayBook := anyOf [ownTutor, studentChoosingTutor, guardianInSchedule]
  let mayMove := anyOf [ownTutor, studentMovingOwnSlots, guardianInSchedule]
  let ownAffairs := anyOf [ownTutor, thatStudent, guardianInSchedule]
  match action with
  | .bookLesson => mayBook subject action resource
  | .cancelLesson | .rescheduleLesson => mayMove subject action resource
  | .viewSchedule => anyOf [ownAffairs, hasRole .owner] subject action resource
  | _ => denied .noPolicy

/-- `BillingPolicy`. -/
def billingPolicy : Policy := fun subject action resource =>
  let payerSees := anyOf [thatStudent, guardianInPayments]
  let seller := anyOf [ownTutor, hasRole .owner]
  match action with
  | .viewInvoice => anyOf [payerSees, seller] subject action resource
  | .payInvoice => anyOf [studentPayingOwnMoney, guardianInPayments] subject action resource
  | .manageAutoPayment => guardianInPayments subject action resource
  | .issueRefund | .setTariff => seller subject action resource
  | _ => denied .noPolicy

/-- `ContentPolicy`. -/
def contentPolicy : Policy := fun subject action resource =>
  let assigned := anyOf [thatStudent, guardianInNotes]
  match action with
  | .viewMaterial => anyOf [ownTutor, assigned] subject action resource
  | .editMaterial | .publishMaterial | .assignPlan => ownTutor subject action resource
  | _ => denied .noPolicy

/-- `ProgressPolicy`. -/
def progressPolicy : Policy := fun subject action resource =>
  let ownData := anyOf [thatStudent, guardianInNotes]
  match action with
  | .viewProgress => anyOf [ownData, ownTutor] subject action resource
  | .recordAttempt => thatStudent subject action resource
  | .exportProgress => ownData subject action resource
  | .viewTenantProgress => hasRole .owner subject action resource
  | _ => denied .noPolicy

/-- `MediaPolicy`. -/
def mediaPolicy : Policy := fun subject action resource =>
  match action with
  | .viewLessonRecording | .viewLessonTranscript =>
    anyOf [thatStudent, ownTutor, guardianInRecordings] subject action resource
  | _ => denied .noPolicy

/-- `JournalPolicy`. -/
def journalPolicy : Policy := fun subject action resource =>
  match action with
  | .viewAccessJournal => anyOf [thatStudent, ownTutor] subject action resource
  | _ => denied .noPolicy

/-- `ConsentPolicy`. -/
def consentPolicy : Policy := fun subject action resource =>
  match action with
  | .manageGuardianAccess =>
    anyOf [ownTutor, studentDecidingGuardianAccess] subject action resource
  | _ => denied .noPolicy

/-- `ReviewPolicy`. -/
def reviewPolicy : Policy := fun subject action resource =>
  match action with
  | .writeReview => studentWritingReview subject action resource
  | _ => denied .noPolicy

/-- `PracticePolicy`. -/
def practicePolicy : Policy := fun subject action resource =>
  match action with
  | .invitePeople => anyOf [hasRole .owner, hasRole .tutor] subject action resource
  | .managePractice => hasRole .owner subject action resource
  | _ => denied .noPolicy

/-- The table the constructor of `PolicySet` fills from the lists of actions. -/
def policyOf : Action → Option Policy
  | .bookLesson | .cancelLesson | .rescheduleLesson | .viewSchedule => some schedulingPolicy
  | .viewInvoice | .payInvoice | .issueRefund | .setTariff | .manageAutoPayment =>
    some billingPolicy
  | .viewMaterial | .editMaterial | .publishMaterial | .assignPlan => some contentPolicy
  | .viewProgress | .recordAttempt | .exportProgress | .viewTenantProgress => some progressPolicy
  | .viewLessonRecording | .viewLessonTranscript => some mediaPolicy
  | .viewAccessJournal => some journalPolicy
  | .manageGuardianAccess => some consentPolicy
  | .writeReview => some reviewPolicy
  | .invitePeople | .managePractice => some practicePolicy
  | .boundary => none

/-- `PolicySet::Decide`. -/
def PolicySet.decide (subject : Subject) (action : Action) (resource : Resource) :
    PolicyDecision :=
  if subject.tenant ≠ resource.tenant then denied .foreignTenant
  else
    match policyOf action with
    | none => denied .noPolicy
    | some policy => policy subject action resource

/-! ### Refusals name their reason -/

theorem coherent_within (scope : GuardianScope) : (within scope).Coherent :=
  coherent_allOf (by simp)

theorem coherent_grown (capability : Capability) : (grown capability).Coherent :=
  coherent_allOf (by simp)

theorem coherent_ownTutor : ownTutor.Coherent := coherent_allOf (by simp)

theorem coherent_thatStudent : thatStudent.Coherent := coherent_allOf (by simp)

/-- Each rule of the policies is put together from coherent ones. -/
theorem coherent_of_policyOf {action : Action} {policy : Policy} (h : policyOf action = some policy)
    (subject : Subject) (resource : Resource) : (policy subject action resource).Coherent := by
  have hany : ∀ parts : List Policy, (∀ part ∈ parts, part.Coherent) →
      (anyOf parts subject action resource).Coherent := fun parts hparts =>
    coherent_anyOf hparts subject action resource
  have howner : (hasRole .owner subject action resource).Coherent :=
    coherent_hasRole _ subject action resource
  have hseller : (anyOf [ownTutor, hasRole .owner]).Coherent :=
    coherent_anyOf (by simp [coherent_ownTutor])
  have hassigned : ∀ scope, (anyOf [thatStudent, within scope]).Coherent := fun scope =>
    coherent_anyOf (by simp [coherent_thatStudent, coherent_within])
  have haffairs : (anyOf [ownTutor, thatStudent, within .schedule]).Coherent :=
    coherent_anyOf (by simp [coherent_ownTutor, coherent_thatStudent, coherent_within])
  cases action with
  | boundary => cases h
  | _ =>
    obtain rfl := Option.some.inj h
    first
    | exact hany _ (by
        simp [coherent_ownTutor, coherent_thatStudent, coherent_within, coherent_grown, hseller,
          hassigned, haffairs, guardianInSchedule, guardianInPayments, guardianInNotes,
          guardianInRecordings, studentMovingOwnSlots, studentChoosingTutor,
          studentPayingOwnMoney, studentDecidingGuardianAccess])
    | exact coherent_within _ subject _ resource
    | exact coherent_grown _ subject _ resource
    | exact coherent_ownTutor subject _ resource
    | exact coherent_thatStudent subject _ resource
    | exact howner

/-- What the set of policies refuses it refuses for a reason. -/
theorem PolicySet.coherent_decide (subject : Subject) (action : Action) (resource : Resource) :
    (PolicySet.decide subject action resource).Coherent := by
  unfold PolicySet.decide
  split
  · exact coherent_denied (by decide)
  · split
    · exact coherent_denied (by decide)
    · rename_i policy hpolicy
      exact coherent_of_policyOf hpolicy subject resource

end Pdr.Identity
