import Pdr.Identity.Application.GrowingUp

/-!
# Coming of age

The consents of a watcher stay as they are while the student grows up, and what they open
changes with the moment alone. A scope that is open later was open before; one that closes
does so because the terms of its consents ended, or because the grace after the age of decision
did, and through that grace it asked for the student's word.

## Main definitions

* `Pdr.Identity.Carries`: a consent that is weighed for a scope at a moment.
* `Pdr.Identity.ClosedByAge`: the grace is over and the student has given no consent himself.

## Main results

* `Pdr.Identity.opened_iff`, `Pdr.Identity.deciding_iff`: what is open, and what asks.
* `Pdr.Identity.coming_of_age_is_gradual`: how a scope closes.
-/

namespace Pdr.Identity

/-- The consent of the list is weighed for the scope: it is in force, and what it rests on
holds. -/
def Carries (consents : List GuardianConsent) (guardianshipHolds : Bool) (moment : Int)
    (scope : GuardianScope) (consent : GuardianConsent) : Prop :=
  consent ∈ consents ∧ consent.scope = scope ∧ consent.counts moment guardianshipHolds = true

/-- The term of the consent is over. -/
def GuardianConsent.HasExpired (consent : GuardianConsent) (moment : Int) : Prop :=
  ∃ expires ∈ consent.expiresAt, expires ≤ moment

/-- The moment at which the student becomes old enough to decide about a scope. -/
def decidesFrom (rule : MaturityRule) (born : BirthDate) (scope : GuardianScope) : Int :=
  AgeStatus.turnsAt born (rule.thresholdYears scope)

/-- The moment at which the grace after that is over. -/
def closesAt (rule : MaturityRule) (born : BirthDate) (scope : GuardianScope) : Int :=
  decidesFrom rule born scope + rule.grace

/-- The grace is over, and no consent by the student himself is weighed for the scope. -/
def ClosedByAge (consents : List GuardianConsent) (bornOn : Option BirthDate)
    (rule : MaturityRule) (guardianshipHolds : Bool) (moment : Int) (scope : GuardianScope) :
    Prop :=
  (∃ born, bornOn = some born ∧ closesAt rule born scope ≤ moment) ∧
    ∀ consent, Carries consents guardianshipHolds moment scope consent →
      consent.grantedByStudent = false

section Moments

variable {consents : List GuardianConsent} {bornOn : Option BirthDate} {rule : MaturityRule}
  {guardianshipHolds : Bool} {moment before later : Int} {scope : GuardianScope}
  {consent : GuardianConsent}

/-- The age is an objection to a consent from a moment on: somebody else gave it, and the
student's age of decision came `spared` before that moment. -/
theorem unopposed_eq_false_iff {spared : Int} :
    consent.unopposed bornOn rule moment spared = false ↔
      consent.grantedByStudent = false ∧ ∃ born, bornOn = some born ∧
        decidesFrom rule born consent.scope + spared ≤ moment := by
  cases bornOn with
  | none => simp [GuardianConsent.unopposed]
  | some born => simp [GuardianConsent.unopposed, decidesFrom]

/-- A scope is open exactly when a consent carries it to which the age is no objection. -/
theorem opened_iff :
    (weighConsents consents bornOn rule moment guardianshipHolds).opened.has scope = true ↔
      ∃ consent, Carries consents guardianshipHolds moment scope consent ∧
        consent.unopposed bornOn rule moment rule.grace = true := by
  have hopened := (has_weighConsents bornOn rule moment guardianshipHolds consents scope).1
  simp only [hopened, List.any_eq_true, GuardianConsent.opens, Bool.and_eq_true, decide_eq_true_eq]
  constructor
  · rintro ⟨consent, hmem, ⟨hcounts, hage⟩, rfl⟩
    exact ⟨consent, ⟨hmem, rfl, hcounts⟩, hage⟩
  · rintro ⟨consent, ⟨hmem, rfl, hcounts⟩, hage⟩
    exact ⟨consent, hmem, ⟨hcounts, hage⟩, rfl⟩

/-- A scope asks for the student's word exactly when a consent of somebody else carries it
during the grace. -/
theorem deciding_iff :
    (weighConsents consents bornOn rule moment guardianshipHolds).deciding.has scope = true ↔
      ∃ consent, Carries consents guardianshipHolds moment scope consent ∧
        consent.grantedByStudent = false ∧ ∃ born, bornOn = some born ∧
          decidesFrom rule born scope ≤ moment ∧ moment < closesAt rule born scope := by
  have hdeciding := (has_weighConsents bornOn rule moment guardianshipHolds consents scope).2.1
  simp only [hdeciding, List.any_eq_true, GuardianConsent.asks, GuardianConsent.opens,
    Bool.and_eq_true, Bool.not_eq_true', decide_eq_true_eq, unopposed_eq_false_iff, Int.add_zero]
  constructor
  · rintro ⟨consent, hmem, ⟨⟨hcounts, hage⟩, hgranted, born, hborn, hgrown⟩, rfl⟩
    refine ⟨consent, ⟨hmem, rfl, hcounts⟩, hgranted, born, hborn, hgrown, ?_⟩
    by_contra hover
    have hopposed : consent.unopposed bornOn rule moment rule.grace = false :=
      unopposed_eq_false_iff.2 ⟨hgranted, born, hborn, not_lt.1 hover⟩
    rw [hopposed] at hage
    cases hage
  · rintro ⟨consent, ⟨hmem, rfl, hcounts⟩, hgranted, born, hborn, hgrown, hgraced⟩
    refine ⟨consent, hmem, ⟨⟨hcounts, ?_⟩, hgranted, born, hborn, hgrown⟩, rfl⟩
    by_contra hopposed
    obtain ⟨-, other, hother, hover⟩ := unopposed_eq_false_iff.1 (Bool.eq_false_iff.2 hopposed)
    obtain rfl : born = other := Option.some.inj (hborn.symm.trans hother)
    exact absurd hgraced (not_lt.2 hover)

theorem unopposed_before (hle : before ≤ later) {spared : Int}
    (h : consent.unopposed bornOn rule later spared = true) :
    consent.unopposed bornOn rule before spared = true := by
  by_contra hopposed
  obtain ⟨hgranted, born, hborn, hover⟩ :=
    unopposed_eq_false_iff.1 (Bool.eq_false_iff.2 hopposed)
  rw [unopposed_eq_false_iff.2 ⟨hgranted, born, hborn, hover.trans hle⟩] at h
  cases h

/-- A consent is weighed exactly when it was granted, is not revoked, its term is not over and
what it rests on holds. -/
theorem counts_iff_not_expired :
    consent.counts moment guardianshipHolds = true ↔
      consent.grantedAt ≤ moment ∧ consent.revokedAt = none ∧ ¬ consent.HasExpired moment ∧
        (!consent.restsOnGuardianship || guardianshipHolds) = true := by
  cases hexpires : consent.expiresAt with
  | none =>
    simp only [GuardianConsent.counts, GuardianConsent.isActiveAt, GuardianConsent.HasExpired,
      hexpires, Option.any_none, Option.isNone_iff_eq_none, Bool.and_eq_true, decide_eq_true_eq]
    simp [and_assoc, and_comm]
  | some expires =>
    simp only [GuardianConsent.counts, GuardianConsent.isActiveAt, GuardianConsent.HasExpired,
      hexpires, Option.any_some, Option.isNone_iff_eq_none, Bool.and_eq_true, decide_eq_true_eq]
    simp [and_assoc, and_comm, and_left_comm]

theorem Carries.backward (h : Carries consents guardianshipHolds later scope consent)
    (hgranted : consent.grantedAt ≤ before) (hle : before ≤ later) :
    Carries consents guardianshipHolds before scope consent := by
  obtain ⟨hmem, hscope, hcounts⟩ := h
  obtain ⟨-, hrevoked, hterm, hbasis⟩ := counts_iff_not_expired.1 hcounts
  refine ⟨hmem, hscope, counts_iff_not_expired.2 ⟨hgranted, hrevoked, ?_, hbasis⟩⟩
  rintro ⟨expires, hexpires, hover⟩
  exact hterm ⟨expires, hexpires, hover.trans hle⟩

theorem Carries.forward (h : Carries consents guardianshipHolds before scope consent)
    (hle : before ≤ later) (hterm : ¬ consent.HasExpired later) :
    Carries consents guardianshipHolds later scope consent := by
  obtain ⟨hmem, hscope, hcounts⟩ := h
  obtain ⟨hgranted, hrevoked, -, hbasis⟩ := counts_iff_not_expired.1 hcounts
  exact ⟨hmem, hscope, counts_iff_not_expired.2 ⟨hgranted.trans hle, hrevoked, hterm, hbasis⟩⟩

/-- A scope that closes though a consent still carries it was closed by age. -/
theorem closedByAge_of_carries (hcarries : Carries consents guardianshipHolds later scope consent)
    (hclosed : (weighConsents consents bornOn rule later guardianshipHolds).opened.has scope =
      false) :
    consent.grantedByStudent = false ∧
      ClosedByAge consents bornOn rule guardianshipHolds later scope := by
  have hopposed : ∀ other, Carries consents guardianshipHolds later scope other →
      other.unopposed bornOn rule later rule.grace = false := by
    intro other hother
    by_contra hage
    rw [opened_iff.2 ⟨other, hother, Bool.not_eq_false _ ▸ hage⟩] at hclosed
    cases hclosed
  obtain ⟨hgranted, born, hborn, hover⟩ := unopposed_eq_false_iff.1 (hopposed consent hcarries)
  refine ⟨hgranted, ⟨born, hborn, ?_⟩, fun other hother => ?_⟩
  · rw [closesAt, ← hcarries.2.1]
    exact hover
  · exact (unopposed_eq_false_iff.1 (hopposed other hother)).1

end Moments

/-- **Coming of age is gradual.** The consents stay as they are and were all granted by the first
moment. What is open at the second moment was open at the first. A scope closes between the two
only because the term of every consent that carried it is over, or because age closed it; in the
second case it asks for the student's word at every moment of the grace, from the first moment on,
at which a consent of somebody else carries it, and if some consent outlives the closing, at every
such moment. -/
theorem coming_of_age_is_gradual (consents : List GuardianConsent) (bornOn : Option BirthDate)
    (rule : MaturityRule) (guardianshipHolds : Bool) {before later : Int}
    (hgranted : ∀ consent ∈ consents, consent.grantedAt ≤ before) (hle : before ≤ later) :
    let access := fun moment => weighConsents consents bornOn rule moment guardianshipHolds
    let carries := Carries consents guardianshipHolds
    (∀ scope, (access later).opened.has scope = true → (access before).opened.has scope = true) ∧
    ∀ scope, (access before).opened.has scope = true → (access later).opened.has scope = false →
      ((∀ consent, carries before scope consent → consent.HasExpired later) ∨
        ClosedByAge consents bornOn rule guardianshipHolds later scope) ∧
      (ClosedByAge consents bornOn rule guardianshipHolds later scope →
        ∀ born, bornOn = some born → ∀ moment, before ≤ moment →
          decidesFrom rule born scope ≤ moment → moment < closesAt rule born scope →
          ((∃ consent, carries moment scope consent ∧ consent.grantedByStudent = false) →
            (access moment).deciding.has scope = true) ∧
          ((∃ consent, carries before scope consent ∧ ¬ consent.HasExpired later) →
            (access moment).deciding.has scope = true)) := by
  intro access carries
  refine ⟨fun scope hopen => ?_, fun scope _ hclosed => ⟨?_, ?_⟩⟩
  · obtain ⟨consent, hcarries, hage⟩ := opened_iff.1 hopen
    have hearlier := Carries.backward hcarries (hgranted consent hcarries.1) hle
    exact opened_iff.2 ⟨consent, hearlier, unopposed_before hle hage⟩
  · by_cases hall : ∀ consent, carries before scope consent → consent.HasExpired later
    · exact Or.inl hall
    · push Not at hall
      obtain ⟨consent, hcarries, hterm⟩ := hall
      exact Or.inr (closedByAge_of_carries (Carries.forward hcarries hle hterm) hclosed).2
  · rintro ⟨⟨born, hborn, hover⟩, -⟩ other hother moment hfirst hgrown hgraced
    obtain rfl : born = other := Option.some.inj (hborn.symm.trans hother)
    have hdeciding : ∀ consent, carries moment scope consent → consent.grantedByStudent = false →
        (access moment).deciding.has scope = true := fun consent hcarries hothers =>
      deciding_iff.2 ⟨consent, hcarries, hothers, born, hborn, hgrown, hgraced⟩
    refine ⟨fun ⟨consent, hcarries, hothers⟩ => hdeciding consent hcarries hothers, ?_⟩
    rintro ⟨consent, hcarries, hterm⟩
    have hsoon : moment ≤ later := (hgraced.trans_le hover).le
    have hunexpired : ¬ consent.HasExpired moment := fun ⟨expires, hexpires, hended⟩ =>
      hterm ⟨expires, hexpires, hended.trans hsoon⟩
    have hothers := (closedByAge_of_carries (Carries.forward hcarries hle hterm) hclosed).1
    exact hdeciding consent (Carries.forward hcarries hfirst hunexpired) hothers

/-- Ten days after the student of the school turned 14, the recordings ask for his word; they were
open a year before and are closed a year later. -/
theorem recordings_ask_before_they_close :
    let access := fun moment => weighConsents schoolDays.consents.rows (some childEnrolled.bornOn)
      schoolRule moment true
    (access (afterBirthday 13 10)).opened.has .recordings = true ∧
      (access (afterBirthday 14 10)).deciding.has .recordings = true ∧
      (access (afterBirthday 15 10)).opened.has .recordings = false := by
  have hopen : (weighConsents schoolDays.consents.rows (some childEnrolled.bornOn) schoolRule
      (afterBirthday 13 10) true).opened.has .recordings = true := by decide +kernel
  have hclosed : (weighConsents schoolDays.consents.rows (some childEnrolled.bornOn) schoolRule
      (afterBirthday 15 10) true).opened.has .recordings = false := by decide +kernel
  have hendless : ∀ consent ∈ schoolDays.consents.rows, consent.expiresAt = none := by
    decide +kernel
  obtain ⟨consent, hcarries, -⟩ := opened_iff.1 hopen
  have hunexpired : ¬ consent.HasExpired (afterBirthday 15 10) := by
    rintro ⟨expires, hexpires, -⟩
    rw [hendless consent hcarries.1] at hexpires
    cases hexpires
  have hgranted : ∀ consent ∈ schoolDays.consents.rows,
      consent.grantedAt ≤ afterBirthday 13 10 := by decide +kernel
  have hle : afterBirthday 13 10 ≤ afterBirthday 15 10 := by decide +kernel
  have hgradual := (coming_of_age_is_gradual schoolDays.consents.rows (some childEnrolled.bornOn)
    schoolRule true hgranted hle).2 .recordings hopen hclosed
  rcases hgradual.1 with hexpired | hbyAge
  · exact absurd (hexpired consent hcarries) hunexpired
  · refine ⟨hopen, ?_, hclosed⟩
    exact (hgradual.2 hbyAge childEnrolled.bornOn rfl (afterBirthday 14 10) (by decide +kernel)
      (by decide +kernel) (by decide +kernel)).2 ⟨consent, hcarries, hunexpired⟩

end Pdr.Identity
