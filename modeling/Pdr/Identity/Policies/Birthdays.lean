import Pdr.Calendar.Order
import Pdr.Identity.Application.GuardianScopes
import Pdr.Identity.Policies.ComingOfAge

/-!
# Two ways to ask for an age

A threshold of some years is met in one place by the moment a person turns that old, and in
another by the years of age at a moment. The first makes a birthday of a birth date, the second
makes a date of a moment; they agree, so what depends on one threshold changes at one moment.

## Main definitions

* `Pdr.Identity.HasTurned`: the years of age at a moment have reached a number.
* `Pdr.Identity.InCalendar`: the year of a moment is one that 16 bits hold.

## Main results

* `Pdr.Identity.turnsAt_le_iff`: the two ways agree.
* `Pdr.Identity.ages_agree`: and so do the scopes a student decides about and what he is able to.
-/

namespace Pdr.Identity

/-- The age at a moment is known and has reached so many years. -/
def HasTurned (born : BirthDate) (years now : Int) : Prop :=
  ∃ age, AgeStatus.at born now = .ok age ∧ age.reached years = true

/-- The date of a moment in the calendar, by UTC. -/
def utcDay (moment : Int) : Civil.Date := Civil.dateOf (moment / microsOfDay)

/-- The year of the moment is one that 16 bits hold. -/
def InCalendar (moment : Int) : Prop := Civil.FitsYear (utcDay moment).year

instance : DecidablePred InCalendar := fun moment =>
  inferInstanceAs (Decidable (Civil.FitsYear (utcDay moment).year))

section Ages

variable {born : BirthDate} {years now : Int}

theorem civilDayOf_eq (h : InCalendar now) : civilDayOf now = utcDay now := by
  have hyear : Civil.heldYear (utcDay now).year = (utcDay now).year := Civil.heldYear_of_fits h
  rw [civilDayOf]
  exact congrArg (fun year => Civil.Date.mk year (utcDay now).month (utcDay now).day) hyear

/-- The years of age are those between the years of the two dates, less one before the birthday;
they have reached a number exactly if the birthday of that number is not to come. -/
theorem hasTurned_iff (hyears : 0 ≤ years) :
    HasTurned born years now ↔ ¬ (civilDayOf now).Before
      ⟨born.value.year + years, born.value.month, born.value.day⟩ := by
  simp only [HasTurned, AgeStatus.at, Civil.Date.Before]
  generalize civilDayOf now = today
  generalize born.value = day
  by_cases hbefore : (today.month < day.month || (today.month = day.month && today.day < day.day)) =
      true
  · rw [if_pos hbefore]
    simp only [Bool.or_eq_true, Bool.and_eq_true, decide_eq_true_eq] at hbefore
    by_cases hunborn : today.year - day.year - 1 < 0
    · rw [if_pos hunborn]
      simp only [reduceCtorEq, false_and, exists_false, false_iff, not_not]
      omega
    · rw [if_neg hunborn]
      simp only [Except.ok.injEq, exists_eq_left', AgeStatus.reached, decide_eq_true_eq]
      omega
  · rw [if_neg hbefore]
    simp only [Bool.or_eq_true, Bool.and_eq_true, decide_eq_true_eq] at hbefore
    by_cases hunborn : today.year - day.year - 0 < 0
    · rw [if_pos hunborn]
      simp only [reduceCtorEq, false_and, exists_false, false_iff, not_not]
      omega
    · rw [if_neg hunborn]
      simp only [Except.ok.injEq, exists_eq_left', AgeStatus.reached, decide_eq_true_eq]
      omega

/-- A birthday in a year that 16 bits hold has come exactly if the day is not before it. -/
theorem turnsAt_le_iff_not_before (hyears : 0 ≤ years) (hheld : born.value.year + years ≤ 32767) :
    AgeStatus.turnsAt born years ≤ now ↔ ¬ (utcDay now).Before
      ⟨born.value.year + years, born.value.month, born.value.day⟩ := by
  have hmicros : ∀ day : Int, day * microsOfDay ≤ now ↔ day ≤ now / microsOfDay := fun day =>
    (Int.le_ediv_iff_mul_le (by decide)).symm
  have hearliest : (1900 : Int) ≤ born.value.year := born.thinkable.1
  have hyear : Civil.heldYear (born.value.year + years) = born.value.year + years :=
    Civil.heldYear_of_fits ⟨by omega, hheld⟩
  rw [AgeStatus.turnsAt, hmicros, utcDay]
  dsimp only
  rw [hyear, Civil.Date.okHeld_of_lt (show -32768 < born.value.year + years by omega)]
  by_cases hok : (Civil.Date.mk (born.value.year + years) born.value.month born.value.day).ok = true
  · rw [if_pos hok]
    exact Civil.daysOf_le_iff hok _
  · obtain ⟨hfirst, hlast, hone, -⟩ := Civil.Date.ok_iff.1 born.exists_
    have hover : Civil.lastDay (born.value.year + years) born.value.month < born.value.day := by
      by_contra hin
      exact hok (Civil.Date.ok_iff.2 ⟨hfirst, hlast, hone, Nat.le_of_not_lt hin⟩)
    rw [if_neg hok]
    exact Civil.daysOf_lastDay_lt_iff ⟨_, _, _⟩ _ ⟨hfirst, hlast⟩ hover

/-- **The two ways to ask for an age agree**, as long as 16 bits hold the years. -/
theorem turnsAt_le_iff (hyears : 0 ≤ years) (hheld : born.value.year + years ≤ 32767)
    (hnow : InCalendar now) :
    AgeStatus.turnsAt born years ≤ now ↔ HasTurned born years now := by
  rw [hasTurned_iff hyears, civilDayOf_eq hnow, turnsAt_le_iff_not_before hyears hheld]

end Ages

/-! ### What changes with a threshold -/

section Thresholds

variable {born : BirthDate} {now : Int}

theorem years_nonneg (thresholds : AgeThresholds) (threshold : AgeThreshold) :
    0 ≤ thresholds.years threshold := by
  have hleast := thresholds.thinkable.1
  have hordered := thresholds.ordered
  simp only [youngestThinkable] at hleast
  cases threshold <;> simp only [AgeThresholds.years] <;> omega

theorem threshold_held (born : BirthDate) (thresholds : AgeThresholds)
    (threshold : AgeThreshold) : born.value.year + thresholds.years threshold ≤ 32767 := by
  have hlatest : born.value.year ≤ 2200 := born.thinkable.2
  have holdest : thresholds.majority ≤ 21 := thresholds.thinkable.2
  have hordered := thresholds.ordered
  cases threshold <;> simp only [AgeThresholds.years] <;> omega

/-- A capability of the list is granted exactly if its threshold is reached. -/
theorem has_compute (age : AgeStatus) (thresholds : AgeThresholds) (capability : Capability) :
    (compute age thresholds).has capability = true ↔
      capability ∈ everyCapability ∧
        age.reached (thresholds.years (arrivesWith capability)) = true := by
  have general : ∀ (listed : List Capability) (able : Capabilities),
      (listed.foldl (fun able capability =>
        if age.reached (thresholds.years (arrivesWith capability)) then able.insert capability
        else able) able).has capability = true ↔
      able.has capability = true ∨ (capability ∈ listed ∧
        age.reached (thresholds.years (arrivesWith capability)) = true) := by
    intro listed
    induction listed with
    | nil => simp
    | cons first listed ih =>
      intro able
      rw [List.foldl_cons, ih, List.mem_cons]
      by_cases hreached : age.reached (thresholds.years (arrivesWith first)) = true
      · rw [if_pos hreached, BitSet.has_insert, Bool.or_eq_true, decide_eq_true_eq]
        constructor
        · rintro ((hable | rfl) | ⟨hlisted, hage⟩)
          · exact Or.inl hable
          · exact Or.inr ⟨Or.inl rfl, hreached⟩
          · exact Or.inr ⟨Or.inr hlisted, hage⟩
        · rintro (hable | ⟨rfl | hlisted, hage⟩)
          · exact Or.inl (Or.inl hable)
          · exact Or.inl (Or.inr rfl)
          · exact Or.inr ⟨hlisted, hage⟩
      · rw [if_neg hreached]
        refine or_congr_right (and_congr_left fun hage => ?_)
        constructor
        · exact Or.inr
        · rintro (rfl | hlisted)
          · exact absurd hage hreached
          · exact hlisted
  rw [compute, general, BitSet.has_empty]
  simp

/-- A scope waits for the student exactly when a consent of somebody else carries it after the
grace. -/
theorem awaits_iff {consents : List GuardianConsent} {rule : MaturityRule}
    {guardianshipHolds : Bool} {scope : GuardianScope} :
    (weighConsents consents (some born) rule now guardianshipHolds).awaitsStudent.has scope =
        true ↔
      (∃ consent, Carries consents guardianshipHolds now scope consent ∧
        consent.grantedByStudent = false) ∧ closesAt rule born scope ≤ now := by
  have hawaits := (has_weighConsents (some born) rule now guardianshipHolds consents scope).2.2
  simp only [hawaits, List.any_eq_true, GuardianConsent.waits, Bool.and_eq_true, Bool.not_eq_true',
    decide_eq_true_eq, unopposed_eq_false_iff, Option.some.injEq, exists_eq_left']
  constructor
  · rintro ⟨consent, hmem, ⟨hcounts, hgranted, hover⟩, rfl⟩
    exact ⟨⟨consent, ⟨hmem, rfl, hcounts⟩, hgranted⟩, hover⟩
  · rintro ⟨⟨consent, ⟨hmem, rfl, hcounts⟩, hgranted⟩, hover⟩
    exact ⟨consent, hmem, ⟨hcounts, hgranted, hover⟩, rfl⟩

/-- A scope asks for the student's word, or waits for it, exactly if a consent of somebody else
carries it and the student is old enough. -/
theorem deciding_or_awaits_iff {consents : List GuardianConsent} {rule : MaturityRule}
    {guardianshipHolds : Bool} {scope : GuardianScope} :
    ((weighConsents consents (some born) rule now guardianshipHolds).deciding.has scope = true ∨
        (weighConsents consents (some born) rule now guardianshipHolds).awaitsStudent.has scope =
          true) ↔
      (∃ consent, Carries consents guardianshipHolds now scope consent ∧
        consent.grantedByStudent = false) ∧ decidesFrom rule born scope ≤ now := by
  have hlasts := rule.lasts
  rw [deciding_iff, awaits_iff]
  constructor
  · rintro (⟨consent, hcarries, hgranted, other, hborn, hgrown, -⟩ | ⟨hcarried, hover⟩)
    · cases hborn
      exact ⟨⟨consent, hcarries, hgranted⟩, hgrown⟩
    · refine ⟨hcarried, ?_⟩
      rw [closesAt] at hover
      omega
  · rintro ⟨⟨consent, hcarries, hgranted⟩, hgrown⟩
    by_cases hover : closesAt rule born scope ≤ now
    · exact Or.inr ⟨⟨consent, hcarries, hgranted⟩, hover⟩
    · exact Or.inl ⟨consent, hcarries, hgranted, born, rfl, hgrown, not_le.1 hover⟩

/-- **What depends on one threshold changes at one moment.** A number of years is reached at a
moment exactly if the moment of turning that old has come, as long as 16 bits hold the year of the
moment and that of the birthday. So the scopes that are weighed as the student's own to decide
about, those that only he may open to a guardian, and what he is able to all change at the moment
he turns as old as the threshold says. -/
theorem ages_agree (born : BirthDate) (now : Int) :
    (InCalendar now → ∀ years : ℕ, born.value.year + years ≤ 32767 →
        (AgeStatus.turnsAt born years ≤ now ↔
          ∃ age, AgeStatus.at born now = .ok age ∧ age.reached years = true)) ∧
      ∀ rule : MaturityRule,
        (∀ consents guardianshipHolds scope,
          ((weighConsents consents (some born) rule now guardianshipHolds).deciding.has scope =
              true ∨
            (weighConsents consents (some born) rule now guardianshipHolds).awaitsStudent.has
              scope = true) ↔
          (∃ consent, Carries consents guardianshipHolds now scope consent ∧
            consent.grantedByStudent = false) ∧
            AgeStatus.turnsAt born (rule.thresholds.years (whenStudentDecides scope)) ≤ now) ∧
        (∀ request, studentDecides rule request (some born) now = true ↔
          request.basis = .guardianship ∧
            AgeStatus.turnsAt born (rule.thresholds.years (whenStudentDecides request.scope)) ≤
              now) ∧
        (InCalendar now → ∀ capability ∈ everyCapability,
          ((∃ age, AgeStatus.at born now = .ok age ∧
            (compute age rule.thresholds).has capability = true) ↔
          AgeStatus.turnsAt born (rule.thresholds.years (arrivesWith capability)) ≤ now)) := by
  refine ⟨fun hnow years hheld => turnsAt_le_iff (Int.natCast_nonneg years) hheld hnow,
    fun rule => ⟨?_, ?_, ?_⟩⟩
  · intro consents guardianshipHolds scope
    exact deciding_or_awaits_iff
  · intro request
    rw [studentDecides, Bool.and_eq_true, decide_eq_true_eq]
    exact and_congr_right fun _ => decide_eq_true_iff
  · intro hnow capability hlisted
    rw [turnsAt_le_iff (years_nonneg _ _) (threshold_held ..) hnow, HasTurned]
    simp only [has_compute, hlisted, true_and]

/-- The moment at which a date begins. -/
def midnight (date : Civil.Date) : Int := Civil.daysOf date * microsOfDay

/-- Born on 15 June 2000. -/
def summerBorn : BirthDate := childEnrolled.bornOn

/-- The moment of turning 14 on 15 June 2014. -/
theorem ages_agree_in_the_calendar :
    (AgeStatus.turnsAt summerBorn 14 ≤ midnight ⟨2014, 6, 15⟩ ↔
        ∃ age, AgeStatus.at summerBorn (midnight ⟨2014, 6, 15⟩) = .ok age ∧
          age.reached 14 = true) ∧
      AgeStatus.turnsAt summerBorn 14 ≤ midnight ⟨2014, 6, 15⟩ :=
  ⟨(ages_agree summerBorn (midnight ⟨2014, 6, 15⟩)).1 (by decide +kernel) 14 (by decide),
    by decide +kernel⟩

/-- Outside of the years that 16 bits hold the two part. On the day of birth the moment of turning
65536 has come, since its year reads 2000; and on the first day of 40000, which reads as a year
before the birth, no age is known any more. -/
theorem ages_part_outside_the_calendar :
    ¬ (AgeStatus.turnsAt summerBorn 65536 ≤ midnight ⟨2000, 6, 15⟩ ↔
      ∃ age, AgeStatus.at summerBorn (midnight ⟨2000, 6, 15⟩) = .ok age ∧
        age.reached 65536 = true) ∧
    ¬ (AgeStatus.turnsAt summerBorn 14 ≤ midnight ⟨40000, 1, 1⟩ ↔
      ∃ age, AgeStatus.at summerBorn (midnight ⟨40000, 1, 1⟩) = .ok age ∧
        age.reached 14 = true) := by
  have hpart : ∀ years now, 0 ≤ years → AgeStatus.turnsAt summerBorn years ≤ now →
      (civilDayOf now).year < 2000 + years → ¬ (AgeStatus.turnsAt summerBorn years ≤ now ↔
        ∃ age, AgeStatus.at summerBorn now = .ok age ∧ age.reached years = true) := by
    intro years now hyears hcome hyear hagree
    exact (hasTurned_iff hyears).1 (hagree.1 hcome) (Or.inl hyear)
  exact ⟨hpart _ _ (by decide) (by decide +kernel) (by decide +kernel),
    hpart _ _ (by decide) (by decide +kernel) (by decide +kernel)⟩

end Thresholds

end Pdr.Identity
