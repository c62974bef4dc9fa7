import Pdr.Identity.Core.Age
import Pdr.Identity.Core.GuardianConsent

/-!
# What a guardian's consents open

Consents are weighed at a moment. One that counts opens its scope as long as the student is
too young to decide about it, or gave it himself; from the age of decision on there is a
grace in which it stays open and asks for the student's own word, and after the grace it
only asks.

## Main definitions

* `Pdr.Identity.MaturityRule`: the ages of decision and the grace.
* `Pdr.Identity.weighConsents`: the scopes that are open, being decided and awaited.

## Main results

* `Pdr.Identity.has_weighConsents`: a scope is in one of the three sets exactly when a consent
  of the list puts it there.
-/

namespace Pdr.Identity

/-- `WhenStudentDecides`. -/
def whenStudentDecides : GuardianScope → AgeThreshold
  | .notesAndHomework | .recordings => .slotsAndReviews
  | .schedule | .payments | .boundary => .majority

/-- The ages from which a student decides and the grace after them. -/
structure MaturityRule where
  thresholds : AgeThresholds
  grace : Int
  lasts : 0 < grace
deriving DecidableEq, Repr

namespace MaturityRule

/-- `MaturityRule::Compose`. -/
def compose (thresholds : AgeThresholds) (grace : Int) : Result MaturityRule :=
  if h : 0 < grace then .ok ⟨thresholds, grace, h⟩
  else .error ⟨.validation, "maturity_grace_not_positive",
    "окно нулевой длины — это мгновенный обрыв доступа"⟩

/-- `ThresholdYears`: the age from which the student decides about a scope. -/
def thresholdYears (rule : MaturityRule) (scope : GuardianScope) : Int :=
  rule.thresholds.years (whenStudentDecides scope)

end MaturityRule

/-- The scopes of a watcher: open, open and asking for the student's word, waiting for it. -/
structure GuardianAccess where
  opened : GuardianScopeSet := BitSet.empty
  deciding : GuardianScopeSet := BitSet.empty
  awaitsStudent : GuardianScopeSet := BitSet.empty
deriving DecidableEq, Repr

/-- What one consent adds to the access: the body of the loop of `WeighConsents`. -/
def weighConsent (bornOn : Option BirthDate) (rule : MaturityRule) (now : Int)
    (guardianshipHolds : Bool) (access : GuardianAccess) (consent : GuardianConsent) :
    GuardianAccess :=
  if !consent.isActiveAt now then access
  else if consent.restsOnGuardianship && !guardianshipHolds then access
  else
    match bornOn with
    | none => { access with opened := access.opened.insert consent.scope }
    | some born =>
      if consent.grantedByStudent then
        { access with opened := access.opened.insert consent.scope }
      else
        let grownAt := AgeStatus.turnsAt born (rule.thresholdYears consent.scope)
        if now < grownAt then { access with opened := access.opened.insert consent.scope }
        else if now < grownAt + rule.grace then
          { access with
            opened := access.opened.insert consent.scope
            deciding := access.deciding.insert consent.scope }
        else { access with awaitsStudent := access.awaitsStudent.insert consent.scope }

/-- `WeighConsents`. -/
def weighConsents (consents : List GuardianConsent) (bornOn : Option BirthDate)
    (rule : MaturityRule) (now : Int) (guardianshipHolds : Bool) : GuardianAccess :=
  consents.foldl (weighConsent bornOn rule now guardianshipHolds) {}

section Weighing

variable (bornOn : Option BirthDate) (rule : MaturityRule) (now : Int) (guardianshipHolds : Bool)

/-- A consent is weighed at all: it is active and what it rests on holds. -/
def GuardianConsent.counts (consent : GuardianConsent) : Bool :=
  consent.isActiveAt now && (!consent.restsOnGuardianship || guardianshipHolds)

/-- The student's age is no objection to the consent yet: he gave it himself, or the day of
birth is unknown, or the age of decision came less than `spared` ago. -/
def GuardianConsent.unopposed (consent : GuardianConsent) (spared : Int) : Bool :=
  consent.grantedByStudent ||
    match bornOn with
    | none => true
    | some born => now < AgeStatus.turnsAt born (rule.thresholdYears consent.scope) + spared

/-- A consent opens its scope, until the grace after the age of decision is over. -/
def GuardianConsent.opens (consent : GuardianConsent) : Bool :=
  consent.counts now guardianshipHolds && consent.unopposed bornOn rule now rule.grace

/-- A consent's scope is being decided: it is open, but the age of decision has come. -/
def GuardianConsent.asks (consent : GuardianConsent) : Bool :=
  consent.opens bornOn rule now guardianshipHolds && !consent.unopposed bornOn rule now 0

/-- A consent's scope waits for the student: it counts and no longer opens. -/
def GuardianConsent.waits (consent : GuardianConsent) : Bool :=
  consent.counts now guardianshipHolds && !consent.unopposed bornOn rule now rule.grace

/-- Weighing a consent puts its scope into the sets the consent is for. -/
theorem weighConsent_eq (access : GuardianAccess) (consent : GuardianConsent) :
    weighConsent bornOn rule now guardianshipHolds access consent =
      { opened := if consent.opens bornOn rule now guardianshipHolds then
          access.opened.insert consent.scope else access.opened
        deciding := if consent.asks bornOn rule now guardianshipHolds then
          access.deciding.insert consent.scope else access.deciding
        awaitsStudent := if consent.waits bornOn rule now guardianshipHolds then
          access.awaitsStudent.insert consent.scope else access.awaitsStudent } := by
  have hgrace := rule.lasts
  simp only [weighConsent, GuardianConsent.asks, GuardianConsent.waits, GuardianConsent.opens,
    GuardianConsent.counts, GuardianConsent.unopposed, Int.add_zero]
  by_cases hactive : consent.isActiveAt now = true
  · by_cases hcounts : (!consent.restsOnGuardianship || guardianshipHolds) = true
    · have hrests : (consent.restsOnGuardianship && !guardianshipHolds) = false := by
        revert hcounts
        cases consent.restsOnGuardianship <;> cases guardianshipHolds <;> simp
      cases bornOn with
      | none => simp [hactive, hcounts, hrests]
      | some born =>
        by_cases hgranted : consent.grantedByStudent = true
        · simp [hactive, hcounts, hrests, hgranted]
        · by_cases hyoung : now < AgeStatus.turnsAt born (rule.thresholdYears consent.scope)
          · have hgraced : now < AgeStatus.turnsAt born (rule.thresholdYears consent.scope) +
                rule.grace := by omega
            simp [hactive, hcounts, hrests, hgranted, hyoung, hgraced]
          · by_cases hgraced : now < AgeStatus.turnsAt born
                (rule.thresholdYears consent.scope) + rule.grace
            · simp [hactive, hcounts, hrests, hgranted, hyoung, hgraced]
            · simp [hactive, hcounts, hrests, hgranted, hyoung, hgraced]
    · have hrests : (consent.restsOnGuardianship && !guardianshipHolds) = true := by
        revert hcounts
        cases consent.restsOnGuardianship <;> cases guardianshipHolds <;> simp
      simp [hactive, hcounts, hrests]
  · simp [hactive]

/-- What weighing one consent does to the three sets. -/
theorem has_weighConsent (access : GuardianAccess) (consent : GuardianConsent)
    (scope : GuardianScope) :
    let weighed := weighConsent bornOn rule now guardianshipHolds access consent
    (weighed.opened.has scope = (access.opened.has scope ||
        (consent.opens bornOn rule now guardianshipHolds && decide (scope = consent.scope)))) ∧
      (weighed.deciding.has scope = (access.deciding.has scope ||
        (consent.asks bornOn rule now guardianshipHolds && decide (scope = consent.scope)))) ∧
      (weighed.awaitsStudent.has scope = (access.awaitsStudent.has scope ||
        (consent.waits bornOn rule now guardianshipHolds &&
          decide (scope = consent.scope)))) := by
  have hinserted : ∀ (set : GuardianScopeSet) (added : Bool),
      (if added then set.insert consent.scope else set).has scope =
        (set.has scope || (added && decide (scope = consent.scope))) := by
    intro set added
    cases added <;> simp
  rw [weighConsent_eq]
  exact ⟨hinserted _ _, hinserted _ _, hinserted _ _⟩

/-- A scope is in one of the three sets exactly when some consent of the list puts it there. -/
theorem has_weighConsents (consents : List GuardianConsent) (scope : GuardianScope) :
    let access := weighConsents consents bornOn rule now guardianshipHolds
    (access.opened.has scope = consents.any fun consent =>
        consent.opens bornOn rule now guardianshipHolds && decide (scope = consent.scope)) ∧
      (access.deciding.has scope = consents.any fun consent =>
        consent.asks bornOn rule now guardianshipHolds && decide (scope = consent.scope)) ∧
      (access.awaitsStudent.has scope = consents.any fun consent =>
        consent.waits bornOn rule now guardianshipHolds && decide (scope = consent.scope)) := by
  have general : ∀ access : GuardianAccess,
      let weighed := consents.foldl (weighConsent bornOn rule now guardianshipHolds) access
      (weighed.opened.has scope = (access.opened.has scope || consents.any fun consent =>
          consent.opens bornOn rule now guardianshipHolds && decide (scope = consent.scope))) ∧
        (weighed.deciding.has scope = (access.deciding.has scope || consents.any fun consent =>
          consent.asks bornOn rule now guardianshipHolds && decide (scope = consent.scope))) ∧
        (weighed.awaitsStudent.has scope = (access.awaitsStudent.has scope ||
          consents.any fun consent =>
            consent.waits bornOn rule now guardianshipHolds &&
              decide (scope = consent.scope))) := by
    induction consents with
    | nil => simp
    | cons consent consents ih =>
      intro access
      obtain ⟨hopen, hdeciding, hawaits⟩ :=
        has_weighConsent bornOn rule now guardianshipHolds access consent scope
      obtain ⟨hopen', hdeciding', hawaits'⟩ :=
        ih (weighConsent bornOn rule now guardianshipHolds access consent)
      refine ⟨?_, ?_, ?_⟩
      · rw [List.foldl_cons, hopen', hopen, List.any_cons, Bool.or_assoc]
      · rw [List.foldl_cons, hdeciding', hdeciding, List.any_cons, Bool.or_assoc]
      · rw [List.foldl_cons, hawaits', hawaits, List.any_cons, Bool.or_assoc]
  simpa [weighConsents] using general {}

end Weighing

end Pdr.Identity
