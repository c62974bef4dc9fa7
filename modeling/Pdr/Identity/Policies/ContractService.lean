import Pdr.Identity.Policies.PolicySet
import Pdr.Identity.Store.Database

/-!
# The questions other libraries ask

Whether a person may act for a student, and whether he may do something to a resource. Both
questions are answered from what the stores hold at the moment of asking: the service looks
at them and changes nothing but the journal of sensitive views.

## Main definitions

* `Pdr.Identity.AccessView`: what is looked at.
* `Pdr.Identity.AccessView.looksAfter`, `Pdr.Identity.AccessView.accessOf`,
  `Pdr.Identity.AccessView.subjectFor`: the subject builder.
* `Pdr.Identity.AccessView.mayActFor`, `Pdr.Identity.AccessView.decide`: the two questions.

## Main results

* `Pdr.Identity.AccessView.coherent_decide`: a refusal names a reason to refuse.
-/

namespace Pdr.Identity

/-- What the subject builder reads: the rows of guardianships and of consents, roles, birth
dates, and the maturity rule in force or why it is broken. -/
structure AccessView where
  guardianships : List Guardianship
  consents : List GuardianConsent
  rolesOf : TenantId → PersonId → RoleSet
  bornOn : TenantId → PersonId → Option BirthDate
  rule : Result MaturityRule

/-- What the database shows under a maturity rule. -/
def Database.accessView (db : Database) (rule : Result MaturityRule) : AccessView where
  guardianships := db.guardianships.rows
  consents := db.consents.rows
  rolesOf tenant person := BitSet.ofList ((db.roles.rows.filter fun row =>
    row.tenant = tenant && row.person = person && row.revokedAt.isNone).map (·.role))
  bornOn tenant person :=
    (db.people.find? fun row => row.tenant = tenant && row.id = person).bind (·.bornOn)
  rule := rule

/-- What is written when somebody looks, or tries to look, at a recording or a transcript. -/
inductive ResourceKind where
  | recording
  | transcript
  | chat
deriving DecidableEq, Repr

/-- What became of a view. -/
inductive AccessOutcome where
  | shown
  | refused
deriving DecidableEq, Repr

/-- A row of the journal of sensitive views. -/
structure AccessRecord where
  tenant : TenantId
  actor : PersonId
  subject : PersonId
  kind : ResourceKind
  outcome : AccessOutcome
  at_ : Int
deriving DecidableEq

/-- `JournalledKind`. -/
def journalledKind : Action → Option ResourceKind
  | .viewLessonRecording => some .recording
  | .viewLessonTranscript => some .transcript
  | _ => none

namespace AccessView

variable (view : AccessView) (now : Int) (tenant : TenantId) (actor : PersonId)

/-- `FindActive` of guardianships. -/
def findGuardianship (guardian student : PersonId) : Option Guardianship :=
  view.guardianships.find? fun row =>
    GuardianshipCall.isOf tenant guardian student row && row.isActive

/-- `ActiveFor` of consents. -/
def activeFor (guardian student : PersonId) : List GuardianConsent :=
  ConsentCall.activeRows tenant guardian student view.consents

/-- `SubjectBuilder::LooksAfter`. -/
def looksAfter (resource : Resource) : Bool :=
  match resource.subject with
  | none => false
  | some subject =>
    if subject = actor then false
    else if (view.findGuardianship tenant actor subject).isSome then true
    else (view.activeFor tenant actor subject).any fun consent =>
      namedByTheStudentHimself consent.basis && consent.isActiveAt now

/-- `SubjectBuilder::TieFor`. -/
def tieFor (resource : Resource) : Tie :=
  tieBetween actor resource (view.looksAfter now tenant actor resource)

/-- `SubjectBuilder::AccessOf`: a broken rule opens nothing. -/
def accessOf (guardian student : PersonId) : GuardianAccess :=
  match view.rule with
  | .error _ => {}
  | .ok rule =>
    weighConsents (view.activeFor tenant guardian student) (view.bornOn tenant student) rule now
      (view.findGuardianship tenant guardian student).isSome

/-- `SubjectBuilder::AbilityOf`. -/
def abilityOf (person : PersonId) : Capabilities :=
  match view.rule, view.bornOn tenant person with
  | .ok rule, some bornOn =>
    match AgeStatus.at bornOn now with
    | .ok age => compute age rule.thresholds
    | .error _ => BitSet.empty
  | _, _ => BitSet.empty

/-- `SubjectBuilder::For`. -/
def subjectFor (resource : Resource) : Subject :=
  let tie := view.tieFor now tenant actor resource
  { tenant := tenant
    person := actor
    roles := view.rolesOf tenant actor
    tie := tie
    asGuardian :=
      match resource.subject with
      | some subject => if tie = .inMyCare then view.accessOf now tenant actor subject else {}
      | none => {}
    able := view.abilityOf now tenant actor }

/-- `ContractService::MayActFor`. -/
def mayActFor (student : PersonId) : Bool :=
  let tie := view.tieFor now tenant actor ⟨tenant, none, some student⟩
  tie = .aboutMe || tie = .inMyCare

/-- The decision of `ContractService::Decide`. -/
def decide (action : Action) (resource : Resource) : PolicyDecision :=
  PolicySet.decide (view.subjectFor now tenant actor resource) action resource

/-- The service refuses for a reason. -/
theorem coherent_decide (action : Action) (resource : Resource) :
    (view.decide now tenant actor action resource).Coherent :=
  PolicySet.coherent_decide _ action resource

/-- The record that `ContractService::Decide` leaves in the journal, if it leaves one. -/
def noted (action : Action) (resource : Resource) : Option AccessRecord :=
  match journalledKind action, resource.subject with
  | some kind, some subject =>
    if subject = actor then none
    else some ⟨tenant, actor, subject, kind,
      if (view.decide now tenant actor action resource).allowed then .shown else .refused, now⟩
  | _, _ => none

/-! ### What the answers mean -/

variable {view now tenant actor}

theorem isSome_findGuardianship {guardian student : PersonId} :
    (view.findGuardianship tenant guardian student).isSome = true ↔
      ∃ row ∈ view.guardianships, row.tenant = tenant ∧ row.guardian = guardian ∧
        row.student = student ∧ row.isActive = true := by
  simp [findGuardianship, List.find?_isSome, GuardianshipCall.isOf, and_assoc]

theorem mem_activeFor {guardian student : PersonId} {consent : GuardianConsent} :
    consent ∈ view.activeFor tenant guardian student ↔
      consent ∈ view.consents ∧ consent.tenant = tenant ∧ consent.guardian = guardian ∧
        consent.student = student ∧ consent.revokedAt = none := by
  simp [activeFor, ConsentCall.activeRows, and_assoc]

/-- Somebody looks after another person by a guardianship or by a consent the person gave
about himself. -/
theorem looksAfter_iff {resource : Resource} {subject : PersonId}
    (hsubject : resource.subject = some subject) (hother : subject ≠ actor) :
    view.looksAfter now tenant actor resource = true ↔
      (view.findGuardianship tenant actor subject).isSome = true ∨
        ∃ consent ∈ view.activeFor tenant actor subject,
          namedByTheStudentHimself consent.basis = true ∧ consent.isActiveAt now = true := by
  rw [looksAfter, hsubject]
  dsimp only
  rw [if_neg hother]
  split
  · rename_i hguardian
    simp [hguardian]
  · rename_i hguardian
    simp [hguardian, List.any_eq_true, Bool.and_eq_true]

/-- A person may act for himself, and for whom he looks after. -/
theorem mayActFor_iff {student : PersonId} :
    view.mayActFor now tenant actor student = true ↔
      actor = student ∨ view.looksAfter now tenant actor ⟨tenant, none, some student⟩ = true := by
  by_cases hself : student = actor
  · simp [mayActFor, tieFor, tieBetween, hself]
  · have hself' : ¬ actor = student := fun h => hself h.symm
    cases hlooks : view.looksAfter now tenant actor ⟨tenant, none, some student⟩ with
    | true => simp [mayActFor, tieFor, tieBetween, hself, hself', hlooks]
    | false => simp [mayActFor, tieFor, tieBetween, hself, hself', hlooks]

end AccessView

end Pdr.Identity
