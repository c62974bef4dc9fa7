import Pdr.Calendar.Civil
import Mathlib.Tactic.IntervalCases

/-!
# The order of dates

Dates come one after another as their day counts do. A day count is split into a year that
begins on 1 March, a month of that year and a day of the month; the days before such a year
grow by 365 or 366, and the days before a month by the length of the month before it.

## Main definitions

* `Civil.marchYear`, `Civil.marchMonth`: the year and month of a date, counted from March.
* `Civil.daysBefore`: the days before a year that begins on 1 March.
* `Civil.Date.Before`: one date comes before another.

## Main results

* `Civil.daysOf_lt_of_before`: the earlier of two dates has the smaller day count.
* `Civil.ok_dateOf`, `Civil.daysOf_dateOf`: every day count is that of a date of the calendar.
* `Civil.daysOf_le_iff`: a day has reached a date exactly if its own date is not before it.
* `Civil.le_year_iff`: when it has reached a year.
* `Civil.daysOf_lastDay_lt_iff`: when it has reached a date that the calendar has not.
-/

namespace Civil

/-- The year of a date, begun on 1 March. -/
def marchYear (date : Date) : Int := if date.month ≤ 2 then date.year - 1 else date.year

/-- The months since March. -/
def marchMonth (date : Date) : Int := if 2 < date.month then date.month - 3 else date.month + 9

/-- The days before a year that begins on 1 March. -/
def daysBefore (year : Int) : Int := 365 * year + year / 4 - year / 100 + year / 400

/-- The days before a month, counted from March, in its year. -/
def daysBeforeMonth (month : Int) : Int := (153 * month + 2) / 5

/-- A date comes before another. -/
def Date.Before (a b : Date) : Prop :=
  a.year < b.year ∨ (a.year = b.year ∧ (a.month < b.month ∨ (a.month = b.month ∧ a.day < b.day)))

theorem Date.ok_iff {date : Date} : date.ok = true ↔
    1 ≤ date.month ∧ date.month ≤ 12 ∧ 1 ≤ date.day ∧ date.day ≤ lastDay date.year date.month := by
  simp [Date.ok, and_assoc]

theorem Date.okHeld_of_lt {date : Date} (h : -32768 < date.year) : date.okHeld = date.ok := by
  rw [okHeld, decide_eq_true (ne_of_gt h), Bool.true_and]

theorem isLeap_iff {year : Int} :
    isLeap year = true ↔ year % 4 = 0 ∧ (year % 100 ≠ 0 ∨ year % 400 = 0) := by
  simp [isLeap]

theorem daysOf_eq (date : Date) : daysOf date =
    daysBefore (marchYear date) + daysBeforeMonth (marchMonth date) + date.day - 719469 := by
  simp only [daysOf, daysBefore, daysBeforeMonth, marchYear, marchMonth]
  split <;> split <;> omega

/-- A year is 365 days, or 366 if it ends with 29 February. -/
theorem daysBefore_succ (year : Int) :
    daysBefore (year + 1) = daysBefore year + if isLeap (year + 1) then 366 else 365 := by
  by_cases hleap : isLeap (year + 1) = true
  · rw [if_pos hleap]
    rw [isLeap_iff] at hleap
    simp only [daysBefore]
    omega
  · rw [if_neg hleap]
    rw [isLeap_iff] at hleap
    simp only [daysBefore]
    omega

theorem daysBefore_eras (year era : Int) :
    daysBefore (year + era * 400) = daysBefore year + era * 146097 := by
  simp only [daysBefore]
  omega

theorem daysBefore_le {early late : Int} (h : early ≤ late) :
    daysBefore early ≤ daysBefore late := by
  simp only [daysBefore]
  omega

theorem marchMonth_bounds {date : Date} (h : date.ok = true) :
    0 ≤ marchMonth date ∧ marchMonth date ≤ 11 := by
  obtain ⟨hfirst, hlast, -⟩ := Date.ok_iff.1 h
  simp only [marchMonth]
  split <;> omega

theorem day_le_month {date : Date} (h : date.ok = true) (hmonth : marchMonth date < 11) :
    daysBeforeMonth (marchMonth date) + date.day ≤ daysBeforeMonth (marchMonth date + 1) := by
  obtain ⟨hfirst, hlast, -, hday⟩ := Date.ok_iff.1 h
  obtain ⟨year, month, day⟩ := date
  simp only [marchMonth, daysBeforeMonth] at *
  interval_cases month <;> simp [lastDay] at * <;> omega

/-- A day of a year is over before the next year begins. -/
theorem day_le_year {date : Date} (h : date.ok = true) :
    daysBefore (marchYear date) + daysBeforeMonth (marchMonth date) + date.day ≤
      daysBefore (marchYear date + 1) := by
  rw [daysBefore_succ]
  obtain ⟨hnonneg, hle⟩ := marchMonth_bounds h
  by_cases hmonth : marchMonth date < 11
  · have hday := day_le_month h hmonth
    have hlast : daysBeforeMonth (marchMonth date + 1) ≤ 337 := by
      simp only [daysBeforeMonth]
      omega
    split <;> omega
  · -- The month is February, of the year that the calendar counts.
    obtain ⟨hfirst, hlast, -, hday⟩ := Date.ok_iff.1 h
    have hfebruary : date.month = 2 := by
      simp only [marchMonth] at hmonth
      split at hmonth <;> omega
    have hyear : marchYear date + 1 = date.year := by
      simp [marchYear, hfebruary]
    have heleven : marchMonth date = 11 := by omega
    rw [hyear, heleven]
    rw [hfebruary, lastDay] at hday
    simp only [daysBeforeMonth]
    split <;> simp_all <;> omega

theorem daysBeforeMonth_le {early late : Int} (h : early ≤ late) :
    daysBeforeMonth early ≤ daysBeforeMonth late := by
  simp only [daysBeforeMonth]
  omega

/-- Of two dates the earlier one has an earlier year from March, or the same and an earlier
month, or the same and an earlier day. -/
theorem march_of_before {a b : Date} (ha : a.ok = true) (hb : b.ok = true) (h : a.Before b) :
    marchYear a < marchYear b ∨ (marchYear a = marchYear b ∧ (marchMonth a < marchMonth b ∨
      (marchMonth a = marchMonth b ∧ a.day < b.day))) := by
  obtain ⟨hafirst, halast, -⟩ := Date.ok_iff.1 ha
  obtain ⟨hbfirst, hblast, -⟩ := Date.ok_iff.1 hb
  simp only [Date.Before] at h
  simp only [marchYear, marchMonth]
  split <;> split <;> split <;> split <;> omega

/-- **The earlier of two dates has the smaller day count.** -/
theorem daysOf_lt_of_before {a b : Date} (ha : a.ok = true) (hb : b.ok = true) (h : a.Before b) :
    daysOf a < daysOf b := by
  have hfirst : 1 ≤ b.day := (Date.ok_iff.1 hb).2.2.1
  obtain ⟨hnonneg, hle⟩ := marchMonth_bounds hb
  rw [daysOf_eq, daysOf_eq]
  rcases march_of_before ha hb h with hyear | ⟨hyear, hmonth | ⟨hmonth, hday⟩⟩
  · have hover := day_le_year ha
    have hbefore : daysBefore (marchYear a + 1) ≤ daysBefore (marchYear b) := daysBefore_le hyear
    have hmonths : daysBeforeMonth 0 ≤ daysBeforeMonth (marchMonth b) := daysBeforeMonth_le hnonneg
    simp only [daysBeforeMonth] at hmonths ⊢ hover
    omega
  · have hover := day_le_month ha (by omega)
    have hbefore : daysBeforeMonth (marchMonth a + 1) ≤ daysBeforeMonth (marchMonth b) :=
      daysBeforeMonth_le hmonth
    rw [hyear]
    omega
  · rw [hyear, hmonth]
    omega

/-! ### The date of a day count -/

/-- The year of a 400-year era in which a day of the era falls. -/
def yearOfEra (dayOfEra : Int) : Int :=
  (dayOfEra - dayOfEra / 1460 + dayOfEra / 36524 - dayOfEra / 146096) / 365

/-- A day of an era falls into one of its years. -/
theorem yearOfEra_spec {day : Int} (hfirst : 0 ≤ day) (hlast : day ≤ 146096) :
    0 ≤ yearOfEra day ∧ yearOfEra day ≤ 399 ∧ daysBefore (yearOfEra day) ≤ day ∧
      day < daysBefore (yearOfEra day + 1) := by
  by_cases hend : day = 146096
  · subst hend
    decide
  -- A century has 25 spans of four years, the last of which may lack a day.
  obtain ⟨century, hcentury⟩ : ∃ century, century = day / 36524 := ⟨_, rfl⟩
  obtain ⟨spans, hspans⟩ : ∃ spans, spans = day / 1460 := ⟨_, rfl⟩
  obtain ⟨year, hyear⟩ : ∃ year, year = yearOfEra day := ⟨_, rfl⟩
  obtain ⟨within, hwithin⟩ : ∃ within, within = year - 100 * century - 4 * (spans - 25 * century) :=
    ⟨_, rfl⟩
  rw [← hyear]
  rw [yearOfEra, ← hcentury, ← hspans] at hyear
  have hcenturyFirst : 0 ≤ century := by omega
  have hcenturyLast : century ≤ 3 := by omega
  have hwithinFirst : -1 ≤ within := by omega
  have hwithinLast : within ≤ 3 := by omega
  simp only [daysBefore]
  interval_cases century <;> interval_cases within <;> omega

/-- The date of a day count, by the year, month and day that it is split into from March on. -/
theorem exists_march (days : Int) : ∃ year month day : Int, 0 ≤ month ∧ month ≤ 11 ∧ 1 ≤ day ∧
    days = daysBefore year + daysBeforeMonth month + day - 719469 ∧
    (month < 11 → daysBeforeMonth month + day ≤ daysBeforeMonth (month + 1)) ∧
    daysBefore year + daysBeforeMonth month + day ≤ daysBefore (year + 1) ∧
    dateOf days = ⟨if month < 10 then year else year + 1,
      (if month < 10 then month + 3 else month - 9).toNat, day.toNat⟩ := by
  obtain ⟨era, hera⟩ : ∃ era, era = (days + 719468) / 146097 := ⟨_, rfl⟩
  obtain ⟨dayOfEra, hdayOfEra⟩ : ∃ dayOfEra, dayOfEra = days + 719468 - era * 146097 := ⟨_, rfl⟩
  have hdayFirst : 0 ≤ dayOfEra := by omega
  have hdayLast : dayOfEra ≤ 146096 := by omega
  obtain ⟨hfirst, hlast, hbefore, hafter⟩ := yearOfEra_spec hdayFirst hdayLast
  obtain ⟨year, hyear⟩ : ∃ year, year = yearOfEra dayOfEra := ⟨_, rfl⟩
  rw [← hyear] at hfirst hlast hbefore hafter
  obtain ⟨dayOfYear, hdayOfYear⟩ :
      ∃ dayOfYear, dayOfYear = dayOfEra - (365 * year + year / 4 - year / 100) := ⟨_, rfl⟩
  obtain ⟨month, hmonth⟩ : ∃ month, month = (5 * dayOfYear + 2) / 153 := ⟨_, rfl⟩
  have hdate : dateOf days = ⟨year + era * 400 +
      (if (if month < 10 then month + 3 else month - 9) ≤ 2 then 1 else 0),
      (if month < 10 then month + 3 else month - 9).toNat,
      (dayOfYear - (153 * month + 2) / 5 + 1).toNat⟩ := by
    subst hmonth hdayOfYear hyear hdayOfEra hera
    rfl
  have hplain : daysBefore year = 365 * year + year / 4 - year / 100 := by
    simp only [daysBefore]
    omega
  have hthis : daysBefore (year + era * 400) = daysBefore year + era * 146097 := daysBefore_eras _ _
  have hnext : daysBefore (year + era * 400 + 1) = daysBefore (year + 1) + era * 146097 := by
    rw [add_right_comm]
    exact daysBefore_eras _ _
  have hlength := daysBefore_succ year
  refine ⟨year + era * 400, month, dayOfYear - (153 * month + 2) / 5 + 1, ?_, ?_, ?_, ?_, ?_, ?_,
    ?_⟩
  · omega
  · split at hlength <;> omega
  · omega
  · rw [hthis, hplain, daysBeforeMonth]
    omega
  · simp only [daysBeforeMonth]
    omega
  · rw [hthis, hnext, daysBeforeMonth]
    omega
  · rw [hdate]
    split <;> split <;> simp <;> omega

/-- **Every day count is that of a date of the calendar.** -/
theorem ok_dateOf (days : Int) : (dateOf days).ok = true := by
  obtain ⟨year, month, day, hfirst, hlast, hday, -, hmonth, hyear, hdate⟩ := exists_march days
  rw [daysBefore_succ] at hyear
  simp only [daysBeforeMonth] at hmonth hyear
  rw [Date.ok_iff, hdate]
  by_cases hlater : month < 11
  · have hday' := hmonth hlater
    clear hmonth hyear hdate
    interval_cases month <;> simp [lastDay] <;> omega
  · obtain rfl : month = 11 := by omega
    simp only [show ¬ (11 : Int) < 10 by omega, if_false]
    by_cases hleap : isLeap (year + 1) = true
    · rw [if_pos hleap] at hyear
      simp [lastDay, hleap]
      omega
    · rw [if_neg hleap] at hyear
      simp [lastDay, hleap]
      omega

/-- **A day count is that of its date.** -/
theorem daysOf_dateOf (days : Int) : daysOf (dateOf days) = days := by
  obtain ⟨year, month, day, hfirst, hlast, hday, hdays, -, -, hdate⟩ := exists_march days
  have hyear : marchYear (dateOf days) = year := by
    rw [hdate]
    simp only [marchYear]
    split <;> split <;> omega
  have hmonth : marchMonth (dateOf days) = month := by
    rw [hdate]
    simp only [marchMonth]
    split <;> split <;> omega
  have hsame : ((dateOf days).day : Int) = day := by
    rw [hdate]
    exact Int.toNat_of_nonneg (by omega)
  rw [daysOf_eq, hyear, hmonth, hsame, hdays]

theorem Date.eq_of_not_before {a b : Date} (hnot : ¬ a.Before b) (hafter : ¬ b.Before a) :
    a = b := by
  obtain ⟨year, month, day⟩ := a
  obtain ⟨year', month', day'⟩ := b
  simp only [Date.Before] at hnot hafter
  simp only [Date.mk.injEq]
  omega

/-- One date of the calendar comes before another exactly if it has the smaller day count. -/
theorem daysOf_lt_iff {a b : Date} (ha : a.ok = true) (hb : b.ok = true) :
    daysOf a < daysOf b ↔ a.Before b := by
  refine ⟨fun hlt => ?_, daysOf_lt_of_before ha hb⟩
  by_contra hnot
  by_cases hafter : b.Before a
  · have hgt := daysOf_lt_of_before hb ha hafter
    omega
  · rw [Date.eq_of_not_before hnot hafter] at hlt
    omega

theorem dateOf_daysOf {date : Date} (h : date.ok = true) : dateOf (daysOf date) = date := by
  have hdays := daysOf_dateOf (daysOf date)
  refine Date.eq_of_not_before ?_ ?_
  · rw [← daysOf_lt_iff (ok_dateOf _) h]
    omega
  · rw [← daysOf_lt_iff h (ok_dateOf _)]
    omega

/-- **A day has reached a date exactly if its own date is not before it.** -/
theorem daysOf_le_iff {date : Date} (h : date.ok = true) (days : Int) :
    daysOf date ≤ days ↔ ¬ (dateOf days).Before date := by
  rw [← daysOf_lt_iff (ok_dateOf days) h, daysOf_dateOf]
  omega

/-- A day is of a year or of a later one exactly if it has reached the first day of the year. -/
theorem le_year_iff (year days : Int) :
    year ≤ (dateOf days).year ↔ daysOf ⟨year, 1, 1⟩ ≤ days := by
  have hfirst : (Date.mk year 1 1).ok = true :=
    Date.ok_iff.2 ⟨le_rfl, by simp, le_rfl, by simp [lastDay]⟩
  obtain ⟨hmonth, -, hday, -⟩ := Date.ok_iff.1 (ok_dateOf days)
  rw [daysOf_le_iff hfirst, Date.Before]
  dsimp only
  omega

/-- A day that its month has not is reached with the day after the last of the month. -/
theorem daysOf_lastDay_lt_iff (date : Date) (days : Int) (hmonth : 1 ≤ date.month ∧ date.month ≤ 12)
    (hday : lastDay date.year date.month < date.day) :
    daysOf { date with day := lastDay date.year date.month } < days ↔
      ¬ (dateOf days).Before date := by
  have hlength : 1 ≤ lastDay date.year date.month := by
    unfold lastDay
    split
    · split <;> omega
    all_goals omega
  have hlast : Date.ok { date with day := lastDay date.year date.month } = true :=
    Date.ok_iff.2 ⟨hmonth.1, hmonth.2, hlength, Nat.le_refl _⟩
  have htoday := (Date.ok_iff.1 (ok_dateOf days)).2.2.2
  conv_lhs => rw [← daysOf_dateOf days]
  rw [daysOf_lt_iff hlast (ok_dateOf days)]
  generalize dateOf days = today at htoday
  obtain ⟨year, month, day⟩ := date
  obtain ⟨year', month', day'⟩ := today
  simp only [Date.Before] at *
  by_cases hsame : year = year' ∧ month = month'
  · obtain ⟨rfl, rfl⟩ := hsame
    omega
  · omega

end Civil
