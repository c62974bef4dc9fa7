import Pdr.Identity.Core.GuardianAccess
import Pdr.Identity.Core.Person

/-!
# Policies and how they combine

A policy answers whether a subject may do an action to a resource, and if not, why. Rules
are put together by `allOf`, which stops at the first refusal, and by `anyOf`, which stops at
the first permission and otherwise keeps the refusal that says most.

## Main definitions

* `Pdr.Identity.Resource`, `Pdr.Identity.Tie`, `Pdr.Identity.tieBetween`, `Pdr.Identity.Subject`
* `Pdr.Identity.Policy`, with `Policy.allOf` and `Policy.anyOf`

## Main results

* `Pdr.Identity.Policy.allowed_allOf`, `Pdr.Identity.Policy.allowed_anyOf`
-/

namespace Pdr.Identity

/-- What somebody may want to do; `boundary` marks the end of the source's list. -/
inductive Action where
  | bookLesson | cancelLesson | rescheduleLesson | viewSchedule
  | viewInvoice | payInvoice | issueRefund | setTariff
  | viewMaterial | editMaterial | publishMaterial | assignPlan
  | viewProgress | recordAttempt | exportProgress | viewTenantProgress
  | viewLessonRecording | viewLessonTranscript | viewAccessJournal | manageGuardianAccess
  | writeReview | manageAutoPayment
  | invitePeople | managePractice
  | boundary
deriving DecidableEq, Repr

/-- Why something is refused; `boundary` marks the end of the source's list. -/
inductive DenyReason where
  | allowed | foreignTenant | roleMissing | notYours | scopeMissing | studentGrewUp | tooYoung
  | noPolicy | boundary
deriving DecidableEq, Repr

/-- `Name` of a reason. -/
def DenyReason.name : DenyReason → String
  | .allowed => "allowed"
  | .foreignTenant => "foreign_tenant"
  | .roleMissing => "role_missing"
  | .notYours => "not_yours"
  | .scopeMissing => "scope_missing"
  | .studentGrewUp => "student_grew_up"
  | .tooYoung => "too_young"
  | .noPolicy | .boundary => "no_policy"

/-- What a policy answers. -/
structure PolicyDecision where
  allowed : Bool := false
  reason : DenyReason := .noPolicy
deriving DecidableEq, Repr

/-- `Allowed`. -/
def allowedDecision : PolicyDecision := ⟨true, .allowed⟩

/-- `Denied`. -/
def denied (reason : DenyReason) : PolicyDecision := ⟨false, reason⟩

/-- A refusal names a reason to refuse. -/
def PolicyDecision.Coherent (decision : PolicyDecision) : Prop :=
  decision.allowed = false → decision.reason ≠ .allowed

theorem coherent_allowedDecision : allowedDecision.Coherent := by
  intro h
  cases h

theorem coherent_denied {reason : DenyReason} (h : reason ≠ .allowed) :
    (denied reason).Coherent := fun _ => h

/-- What is asked about: whose it is and whom it is about. -/
structure Resource where
  tenant : TenantId
  owner : Option PersonId
  subject : Option PersonId
deriving DecidableEq

/-- How a person is tied to a resource. -/
inductive Tie where
  | mine
  | aboutMe
  | inMyCare
  | none
deriving DecidableEq, Repr

/-- `TieBetween`. -/
def tieBetween (person : PersonId) (resource : Resource) (looksAfterSubject : Bool) : Tie :=
  if resource.owner = some person then .mine
  else if resource.subject = some person then .aboutMe
  else if resource.subject.isSome && looksAfterSubject then .inMyCare
  else .none

/-- Who asks. -/
structure Subject where
  tenant : TenantId
  person : PersonId
  roles : RoleSet
  tie : Tie
  asGuardian : GuardianAccess
  able : Capabilities
deriving DecidableEq

/-- A rule about who may do what to what. -/
abbrev Policy : Type := Subject → Action → Resource → PolicyDecision

/-- `Rank`: how much a refusal says. -/
def rank : DenyReason → Nat
  | .allowed => 0
  | .roleMissing => 1
  | .notYours => 2
  | .scopeMissing => 3
  | .tooYoung => 4
  | .studentGrewUp => 5
  | .foreignTenant => 6
  | .noPolicy | .boundary => 7

namespace Policy

/-- `HasRole`. -/
def hasRole (role : Role) : Policy := fun subject _ _ =>
  if subject.roles.has role then allowedDecision else denied .roleMissing

/-- `Tied`. -/
def tied (tie : Tie) : Policy := fun subject _ _ =>
  if subject.tie = tie then allowedDecision else denied .notYours

/-- `Able`. -/
def able (capability : Capability) : Policy := fun subject _ _ =>
  if subject.able.has capability then allowedDecision else denied .tooYoung

/-- `HasScope`. -/
def hasScope (scope : GuardianScope) : Policy := fun subject _ _ =>
  if subject.asGuardian.opened.has scope then allowedDecision
  else if subject.asGuardian.awaitsStudent.has scope then denied .studentGrewUp
  else denied .scopeMissing

/-- `AllOf`: the first refusal, if there is one. -/
def allOf (parts : List Policy) : Policy := fun subject action resource =>
  parts.foldl
    (fun decision part => if decision.allowed then part subject action resource else decision)
    allowedDecision

/-- `AnyOf`: a permission, if there is one, else the first refusal of the highest rank. -/
def anyOf (parts : List Policy) : Policy := fun subject action resource =>
  parts.foldl
    (fun best part =>
      if best.allowed then best
      else
        let decision := part subject action resource
        if decision.allowed || rank best.reason < rank decision.reason then decision else best)
    (denied .roleMissing)

variable (subject : Subject) (action : Action) (resource : Resource)

@[simp] theorem allowed_hasRole (role : Role) :
    (hasRole role subject action resource).allowed = subject.roles.has role := by
  unfold hasRole
  split <;> simp [allowedDecision, denied, *]

@[simp] theorem allowed_tied (tie : Tie) :
    (tied tie subject action resource).allowed = decide (subject.tie = tie) := by
  unfold tied
  split <;> simp [allowedDecision, denied, *]

@[simp] theorem allowed_able (capability : Capability) :
    (able capability subject action resource).allowed = subject.able.has capability := by
  unfold able
  split <;> simp [allowedDecision, denied, *]

@[simp] theorem allowed_hasScope (scope : GuardianScope) :
    (hasScope scope subject action resource).allowed = subject.asGuardian.opened.has scope := by
  unfold hasScope
  split
  · simp [allowedDecision, *]
  · split <;> simp [denied, *]

/-- All parts must allow. -/
@[simp] theorem allowed_allOf (parts : List Policy) :
    (allOf parts subject action resource).allowed =
      parts.all fun part => (part subject action resource).allowed := by
  have general : ∀ decision : PolicyDecision,
      (parts.foldl (fun decision part =>
        if decision.allowed then part subject action resource else decision) decision).allowed =
      (decision.allowed && parts.all fun part => (part subject action resource).allowed) := by
    induction parts with
    | nil => simp
    | cons part parts ih =>
      intro decision
      rw [List.foldl_cons, ih]
      cases hallowed : decision.allowed <;> simp [hallowed]
  simpa [allOf, allowedDecision] using general allowedDecision

/-- Some part must allow. -/
@[simp] theorem allowed_anyOf (parts : List Policy) :
    (anyOf parts subject action resource).allowed =
      parts.any fun part => (part subject action resource).allowed := by
  have general : ∀ best : PolicyDecision,
      (parts.foldl (fun best part =>
        if best.allowed then best
        else
          let decision := part subject action resource
          if decision.allowed || rank best.reason < rank decision.reason then decision
          else best) best).allowed =
      (best.allowed || parts.any fun part => (part subject action resource).allowed) := by
    induction parts with
    | nil => simp
    | cons part parts ih =>
      intro best
      rw [List.foldl_cons, ih]
      cases hbest : best.allowed with
      | true => simp [hbest]
      | false =>
        cases hpart : (part subject action resource).allowed with
        | true => simp [hpart]
        | false =>
          by_cases hrank : rank best.reason < rank (part subject action resource).reason
          · simp [hpart, hrank]
          · simp [hpart, hrank, hbest]
  simpa [anyOf, denied] using general (denied .roleMissing)

/-! ### Refusals name their reason -/

/-- Whatever the policy answers is coherent. -/
def Coherent (policy : Policy) : Prop :=
  ∀ subject action resource, (policy subject action resource).Coherent

omit subject action resource

@[simp] theorem coherent_hasRole (role : Role) : (hasRole role).Coherent := by
  intro subject action resource
  unfold hasRole
  split
  · exact coherent_allowedDecision
  · exact coherent_denied (by decide)

@[simp] theorem coherent_tied (tie : Tie) : (tied tie).Coherent := by
  intro subject action resource
  unfold tied
  split
  · exact coherent_allowedDecision
  · exact coherent_denied (by decide)

@[simp] theorem coherent_able (capability : Capability) : (able capability).Coherent := by
  intro subject action resource
  unfold able
  split
  · exact coherent_allowedDecision
  · exact coherent_denied (by decide)

@[simp] theorem coherent_hasScope (scope : GuardianScope) : (hasScope scope).Coherent := by
  intro subject action resource
  unfold hasScope
  split
  · exact coherent_allowedDecision
  · split
    · exact coherent_denied (by decide)
    · exact coherent_denied (by decide)

/-- Any way of choosing among the answers of coherent parts is coherent. -/
theorem coherent_foldl {parts : List Policy} (hparts : ∀ part ∈ parts, part.Coherent)
    (choose : PolicyDecision → PolicyDecision → PolicyDecision)
    (hchoose : ∀ decision answer, choose decision answer = decision ∨
      choose decision answer = answer) {start : PolicyDecision} (hstart : start.Coherent)
    (subject : Subject) (action : Action) (resource : Resource) :
    (parts.foldl (fun decision part => choose decision (part subject action resource))
      start).Coherent := by
  induction parts generalizing start with
  | nil => exact hstart
  | cons part parts ih =>
    have hpart := hparts part List.mem_cons_self subject action resource
    refine ih (fun other hother => hparts other (List.mem_cons_of_mem part hother)) ?_
    show (choose start (part subject action resource)).Coherent
    rcases hchoose start (part subject action resource) with h | h
    · rwa [h]
    · rwa [h]

theorem coherent_allOf {parts : List Policy} (hparts : ∀ part ∈ parts, part.Coherent) :
    (allOf parts).Coherent := by
  intro subject action resource
  refine coherent_foldl hparts
    (fun decision answer => if decision.allowed then answer else decision)
    (fun decision answer => ?_) coherent_allowedDecision subject action resource
  split
  · exact Or.inr rfl
  · exact Or.inl rfl

theorem coherent_anyOf {parts : List Policy} (hparts : ∀ part ∈ parts, part.Coherent) :
    (anyOf parts).Coherent := by
  intro subject action resource
  refine coherent_foldl hparts
    (fun best answer =>
      if best.allowed then best
      else if answer.allowed || rank best.reason < rank answer.reason then answer else best)
    (fun best answer => ?_) (coherent_denied (by decide)) subject action resource
  split
  · exact Or.inl rfl
  · split
    · exact Or.inr rfl
    · exact Or.inl rfl

end Policy

end Pdr.Identity
