import Mathlib.Data.Set.Finite.Lemmas
import Pdr.Identity.Application.Announcements
import Pdr.Identity.Policies.Birthdays

/-!
# The day on which a threshold is announced

A threshold of age is news on one day. Whether it is the day is found out by asking for the age
twice, at the moment and 24 hours before it; the birthday itself is a day of the calendar. The
two agree for every birth date and every moment, so who is asked every day is told every
threshold once.

## Main definitions

* `Pdr.Identity.FallsOn`, `Pdr.Identity.IsNewest`: the thresholds of a day, and which is named.
* `Pdr.Identity.Tells`: events that name a threshold, one for each guardian.
* `Pdr.Identity.Execution`: one execution, with what it draws and is answered.

## Main results

* `Pdr.Identity.turnsAt_strictMono`: one birthday comes before the next.
* `Pdr.Identity.crossedToday_iff`: the threshold that is found is the newest of the day.
* `Pdr.Identity.thresholds_are_announced_on_their_days`: so it is over a whole run.
-/

namespace Pdr.Identity

open StoreProgram Program Events

/-! ### Moments and days -/

section Days

variable {born : BirthDate} {years now : Int}

theorem utcDay_eq_iff {a b : Int} :
    utcDay a = utcDay b ↔ a / microsOfDay = b / microsOfDay := by
  refine ⟨fun h => ?_, fun h => by rw [utcDay, h, utcDay]⟩
  rw [← Civil.daysOf_dateOf (a / microsOfDay), ← Civil.daysOf_dateOf (b / microsOfDay)]
  exact congrArg Civil.daysOf h

theorem turnsAt_eq_mul (born : BirthDate) (years : Int) :
    AgeStatus.turnsAt born years = AgeStatus.turnsAt born years / microsOfDay * microsOfDay := by
  rw [AgeStatus.turnsAt, Int.mul_ediv_cancel _ (by decide)]

/-- A moment is of the day of a birthday exactly if the birthday has come and had not 24 hours
before. -/
theorem sameDay_turnsAt_iff :
    utcDay now = utcDay (AgeStatus.turnsAt born years) ↔
      AgeStatus.turnsAt born years ≤ now ∧ ¬ AgeStatus.turnsAt born years ≤ now - microsOfDay := by
  have hmidnight := turnsAt_eq_mul born years
  have hday : microsOfDay = 86400000000 := rfl
  rw [utcDay_eq_iff]
  rw [hday] at hmidnight ⊢
  omega

/-- **One birthday comes before the next**, as long as 16 bits hold its year. -/
theorem turnsAt_strictMono {fewer more : Int} (hfewer : 0 ≤ fewer) (hlt : fewer < more)
    (hheld : born.value.year + more ≤ 32767) :
    AgeStatus.turnsAt born fewer < AgeStatus.turnsAt born more := by
  -- The last day of the year of the first birthday is between the two.
  have hok : (Civil.Date.mk (born.value.year + fewer) 12 31).ok = true :=
    Civil.Date.ok_iff.2 ⟨by simp, by simp, by simp, le_refl 31⟩
  obtain ⟨-, hmonth, hone, hlast⟩ := Civil.Date.ok_iff.1 born.exists_
  have hday : born.value.day ≤ 31 := by
    unfold Civil.lastDay at hlast
    split at hlast
    · split at hlast <;> omega
    all_goals omega
  have hdate : utcDay (Civil.daysOf ⟨born.value.year + fewer, 12, 31⟩ * microsOfDay) =
      ⟨born.value.year + fewer, 12, 31⟩ := by
    rw [utcDay, Int.mul_ediv_cancel _ (by decide), Civil.dateOf_daysOf hok]
  have hcome : AgeStatus.turnsAt born fewer ≤
      Civil.daysOf ⟨born.value.year + fewer, 12, 31⟩ * microsOfDay := by
    rw [turnsAt_le_iff_not_before hfewer (by omega), hdate, Civil.Date.Before]
    dsimp only
    omega
  have hnext : ¬ AgeStatus.turnsAt born more ≤
      Civil.daysOf ⟨born.value.year + fewer, 12, 31⟩ * microsOfDay := by
    rw [turnsAt_le_iff_not_before (by omega) hheld, hdate, Civil.Date.Before]
    dsimp only
    omega
  omega

/-- Two birthdays of one day are one. -/
theorem years_eq_of_sameDay {other : Int} (hyears : 0 ≤ years) (hother : 0 ≤ other)
    (hheld : born.value.year + years ≤ 32767) (hheld' : born.value.year + other ≤ 32767)
    (h : utcDay (AgeStatus.turnsAt born years) = utcDay (AgeStatus.turnsAt born other)) :
    years = other := by
  rw [utcDay_eq_iff] at h
  have hsame : AgeStatus.turnsAt born years = AgeStatus.turnsAt born other := by
    rw [turnsAt_eq_mul, h, ← turnsAt_eq_mul]
  rcases lt_trichotomy years other with hlt | heq | hgt
  · exact absurd hsame (turnsAt_strictMono hyears hlt hheld').ne
  · exact heq
  · exact absurd hsame (turnsAt_strictMono hother hgt hheld).ne'

/-- Where the age is known 16 bits hold the year of yesterday, too. -/
theorem InCalendar.yesterday (h : InCalendar now) {age : AgeStatus}
    (hage : AgeStatus.at born now = .ok age) : InCalendar (now - microsOfDay) := by
  have hborn : HasTurned born 0 now := by
    refine ⟨age, hage, decide_eq_true ?_⟩
    simp only [AgeStatus.at] at hage
    split_ifs at hage with hbefore hunborn hunborn
    · obtain rfl := Except.ok.inj hage
      exact not_lt.1 hunborn
    · obtain rfl := Except.ok.inj hage
      exact not_lt.1 hunborn
  have hday : microsOfDay = 86400000000 := rfl
  have hyesterday : (now - microsOfDay) / microsOfDay = now / microsOfDay - 1 := by
    rw [hday]
    omega
  -- The year of today is not before that of the birth, so it is not the first one held.
  rw [hasTurned_iff le_rfl, civilDayOf_eq h, Civil.Date.Before] at hborn
  have hearliest : (1900 : Int) ≤ born.value.year := born.thinkable.1
  have hyear : (1900 : Int) ≤ (utcDay now).year := by
    dsimp only at hborn
    omega
  have hfirst : Civil.daysOf ⟨-32768, 1, 1⟩ < Civil.daysOf ⟨1900, 1, 1⟩ := by decide
  have hlatest : ¬ (32768 : Int) ≤ (utcDay now).year := not_le.2 (Int.lt_add_one_of_le h.2)
  rw [utcDay, Civil.le_year_iff] at hyear hlatest
  constructor
  · rw [utcDay, hyesterday, Civil.le_year_iff]
    omega
  · refine Int.le_of_lt_add_one (not_le.1 ?_)
    rw [utcDay, hyesterday]
    exact fun hlate => hlatest (((Civil.le_year_iff 32768 _).1 hlate).trans (by omega))

end Days

/-! ### The threshold of a day -/

section Crossing

variable (rule : MaturityRule) (born : BirthDate) (now : Int)

/-- The moment is of the day on which a threshold of the list is reached. -/
def FallsOn (threshold : AgeThreshold) : Prop :=
  threshold ∈ everyAgeThreshold ∧
    utcDay now = utcDay (AgeStatus.turnsAt born (rule.thresholds.years threshold))

/-- Of the thresholds of the day this one has the most years; of those with as many it is the last
of the list. -/
def IsNewest (threshold : AgeThreshold) : Prop :=
  FallsOn rule born now threshold ∧ ∀ other, FallsOn rule born now other →
    rule.thresholds.years other ≤ rule.thresholds.years threshold ∧
      (rule.thresholds.years other = rule.thresholds.years threshold →
        everyAgeThreshold.idxOf other ≤ everyAgeThreshold.idxOf threshold)

variable {rule : MaturityRule} {born : BirthDate} {now : Int}

theorem years_le_of_idxOf_le (thresholds : AgeThresholds) {a b : AgeThreshold}
    (ha : a ∈ everyAgeThreshold) (hb : b ∈ everyAgeThreshold)
    (h : everyAgeThreshold.idxOf a ≤ everyAgeThreshold.idxOf b) :
    thresholds.years a ≤ thresholds.years b := by
  have hordered := thresholds.ordered
  cases a <;> cases b <;> simp_all [everyAgeThreshold, AgeThresholds.years]
  omega

/-- The threshold was not reached before, and now is. -/
def Crosses (before now : AgeStatus) (thresholds : AgeThresholds) (threshold : AgeThreshold) :
    Prop :=
  before.reached (thresholds.years threshold) = false ∧
    now.reached (thresholds.years threshold) = true

/-- The threshold that is named is the last of the list that was crossed. -/
theorem justCrossed_eq_some_iff {before today : AgeStatus} {thresholds : AgeThresholds}
    {threshold : AgeThreshold} :
    justCrossed before today thresholds = some threshold ↔
      (threshold ∈ everyAgeThreshold ∧ Crosses before today thresholds threshold) ∧
        ∀ other ∈ everyAgeThreshold, Crosses before today thresholds other →
          everyAgeThreshold.idxOf other ≤ everyAgeThreshold.idxOf threshold := by
  have hslots : everyAgeThreshold.idxOf .slotsAndReviews = 0 := rfl
  have hpayments : everyAgeThreshold.idxOf .ownPayments = 1 := rfl
  have hmajority : everyAgeThreshold.idxOf .majority = 2 := rfl
  rw [everyAgeThreshold] at hslots hpayments hmajority
  simp only [justCrossed, everyAgeThreshold, List.foldl_cons, List.foldl_nil, Bool.and_eq_true,
    Bool.not_eq_true', List.mem_cons, List.not_mem_nil, or_false, forall_eq_or_imp, forall_eq,
    hslots, hpayments, hmajority, Crosses]
  split_ifs with hthird hsecond hfirst
  all_goals cases threshold <;> simp [*]

theorem reached_iff {age : AgeStatus} {threshold : AgeThreshold} (hnow : InCalendar now)
    (hage : AgeStatus.at born now = .ok age) :
    age.reached (rule.thresholds.years threshold) = true ↔
      AgeStatus.turnsAt born (rule.thresholds.years threshold) ≤ now := by
  rw [turnsAt_le_iff (years_nonneg _ _) (threshold_held ..) hnow, HasTurned, hage]
  simp

theorem crosses_iff_fallsOn {yesterday today : AgeStatus} {threshold : AgeThreshold}
    (hnow : InCalendar now) (hyesterday : AgeStatus.at born (now - microsOfDay) = .ok yesterday)
    (htoday : AgeStatus.at born now = .ok today) :
    threshold ∈ everyAgeThreshold ∧ Crosses yesterday today rule.thresholds threshold ↔
      FallsOn rule born now threshold := by
  refine and_congr_right fun _ => ?_
  rw [sameDay_turnsAt_iff, Crosses, ← Bool.not_eq_true,
    reached_iff (hnow.yesterday htoday) hyesterday, reached_iff hnow htoday, and_comm]

/-- On the day of a threshold the age is known, and it was 24 hours before. -/
theorem FallsOn.ages {threshold : AgeThreshold} (hnow : InCalendar now)
    (h : FallsOn rule born now threshold) :
    ∃ yesterday today, AgeStatus.at born (now - microsOfDay) = .ok yesterday ∧
      AgeStatus.at born now = .ok today := by
  obtain ⟨hcome, -⟩ := sameDay_turnsAt_iff.1 h.2
  have hyears := years_nonneg rule.thresholds threshold
  have hheld := threshold_held born rule.thresholds threshold
  have hsix : youngestThinkable ≤ rule.thresholds.years threshold := by
    have hordered := rule.thresholds.ordered
    have hleast := rule.thresholds.thinkable.1
    cases threshold <;> simp only [AgeThresholds.years] <;> omega
  have hpositive : (0 : Int) < rule.thresholds.years threshold :=
    lt_of_lt_of_le (by decide) hsix
  -- The day of birth is at least a day before the first threshold.
  have hborn : AgeStatus.turnsAt born 0 ≤ now - microsOfDay := by
    have hbefore : AgeStatus.turnsAt born 0 < _ := turnsAt_strictMono le_rfl hpositive hheld
    have hmidnight := turnsAt_eq_mul born 0
    have hmidnight' := turnsAt_eq_mul born (rule.thresholds.years threshold)
    have hday : microsOfDay = 86400000000 := rfl
    rw [hday] at hmidnight hmidnight' ⊢
    omega
  obtain ⟨today, htoday, -⟩ := (turnsAt_le_iff hyears hheld hnow).1 hcome
  obtain ⟨yesterday, hyesterday, -⟩ :=
    (turnsAt_le_iff le_rfl (by omega) (hnow.yesterday htoday)).1 hborn
  exact ⟨yesterday, today, hyesterday, htoday⟩

/-- The newest threshold of a day is the last of the list that falls on it. -/
theorem isNewest_iff {threshold : AgeThreshold} :
    IsNewest rule born now threshold ↔ FallsOn rule born now threshold ∧
      ∀ other, FallsOn rule born now other →
        everyAgeThreshold.idxOf other ≤ everyAgeThreshold.idxOf threshold := by
  refine and_congr_right fun hfalls => forall₂_congr fun other hother => ?_
  constructor
  · rintro ⟨hyears, hlisted⟩
    by_contra hlater
    have hmore := years_le_of_idxOf_le rule.thresholds hfalls.1 hother.1 (by omega)
    exact hlater (hlisted (le_antisymm hyears hmore))
  · intro hlisted
    exact ⟨years_le_of_idxOf_le rule.thresholds hother.1 hfalls.1 hlisted, fun _ => hlisted⟩

/-- **The threshold that is found is the newest of the day.** -/
theorem crossedToday_iff (hnow : InCalendar now) {threshold : AgeThreshold} :
    (∃ years, crossedToday rule born now = some (threshold, years)) ↔
      IsNewest rule born now threshold := by
  rw [isNewest_iff]
  unfold crossedToday
  cases htoday : AgeStatus.at born now with
  | error failure =>
    simp only [reduceCtorEq, exists_false, false_iff, not_and]
    intro hfalls
    obtain ⟨-, today, -, hknown⟩ := hfalls.ages hnow
    cases htoday.symm.trans hknown
  | ok today =>
    cases hyesterday : AgeStatus.at born (now - microsOfDay) with
    | error failure =>
      simp only [reduceCtorEq, exists_false, false_iff, not_and]
      intro hfalls
      obtain ⟨yesterday, -, hknown, -⟩ := hfalls.ages hnow
      cases hyesterday.symm.trans hknown
    | ok yesterday =>
      have hsame : (∃ years, ((justCrossed yesterday today rule.thresholds).map fun crossed =>
          (crossed, today.years)) = some (threshold, years)) ↔
          justCrossed yesterday today rule.thresholds = some threshold := by
        simp only [Option.map_eq_some_iff, Prod.mk.injEq]
        constructor
        · rintro ⟨-, crossed, hcrossed, rfl, -⟩
          exact hcrossed
        · intro hcrossed
          exact ⟨today.years, threshold, hcrossed, rfl, rfl⟩
      rw [hsame, justCrossed_eq_some_iff]
      simp only [← and_imp, crosses_iff_fallsOn hnow hyesterday htoday]

end Crossing

/-! ### Who is told, and when -/

/-- Those who are told: each guardian, or nobody in particular. -/
def audience (guardians : List PersonId) : List (Option PersonId) :=
  if guardians = [] then [none] else guardians.map some

/-- The events name one threshold of the student, each to another of the audience. -/
def Tells (student : PersonId) (guardians : List PersonId) (threshold : AgeThreshold)
    (events : List DomainEvent) : Prop :=
  ∃ news : List CapabilitiesWidened,
    events = news.map (fun widened => ⟨.capabilitiesWidened, widened⟩) ∧
      news.map (·.guardian) = audience guardians ∧
        ∀ widened ∈ news, widened.student = student ∧ widened.threshold = threshold.name

/-- One execution: what it draws, and what its ports answer. -/
structure Execution where
  drawn : Drawn
  answers : (asked : Call) → Except Fault asked.Answer

namespace Execution

/-- The moment of the execution. -/
def now (execution : Execution) : Int := execution.drawn.clock 0

/-- The events that go out. -/
def events (execution : Execution) (rule : MaturityRule) (tenant : TenantId)
    (student : PersonId) : List DomainEvent :=
  ((announceComingOfAge (.ok rule) execution.drawn tenant student).run
    (board execution.answers) []).2

end Execution

section Runs

variable {rule : MaturityRule} {born : BirthDate} {tenant : TenantId} {student : PersonId}
  {guardians : List PersonId} {execution : Execution}

theorem audience_ne_nil (guardians : List PersonId) : audience guardians ≠ [] := by
  unfold audience
  split_ifs with hnobody
  · exact List.cons_ne_nil _ _
  · simpa using hnobody

/-- The events of a threshold tell it. -/
theorem tells_comingOfAgeEvents (now : Int) (crossed : AgeThreshold) (years : Int) :
    Tells student guardians crossed
      (comingOfAgeEvents tenant student now crossed years guardians) := by
  refine ⟨(audience guardians).map fun guardian =>
    ⟨tenant, now, student, guardian, crossed.name, years⟩, ?_, ?_, ?_⟩
  · unfold comingOfAgeEvents audience
    cases guardians <;> simp
  · rw [List.map_map]
    exact List.map_id _
  · intro widened hwidened
    obtain ⟨guardian, -, rfl⟩ := List.mem_map.1 hwidened
    exact ⟨rfl, rfl⟩

/-- What an execution publishes: nothing, or the events of the threshold that is found. -/
theorem Execution.events_eq
    (hborn : execution.answers (.directory (.bornOn tenant student)) = .ok (some born))
    (hguardians : execution.answers (.guardianships (.guardiansOf tenant student)) =
      .ok guardians) :
    execution.events rule tenant student =
      match crossedToday rule born execution.now with
      | none => []
      | some (crossed, years) =>
        comingOfAgeEvents tenant student execution.now crossed years guardians := by
  simp only [events, announceComingOfAge, Result.orRefuse_ok, ofExcept_ok, done_bind, run_bind,
    run_perform, exec_board_store, hborn, now]
  cases crossedToday rule born (execution.drawn.clock 0) with
  | none => rfl
  | some crossed =>
    simp only [run_bind, run_perform, exec_board_store, hguardians, run_tellAll_board]
    rfl

theorem exists_isNewest {now : Int} (h : ∃ threshold, FallsOn rule born now threshold) :
    ∃ threshold, IsNewest rule born now threshold := by
  have hfinite : {threshold | FallsOn rule born now threshold}.Finite :=
    (List.finite_toSet everyAgeThreshold).subset fun threshold hfalls => hfalls.1
  obtain ⟨threshold, hfalls, hlast⟩ :=
    Set.exists_max_image _ (everyAgeThreshold.idxOf ·) hfinite h
  exact ⟨threshold, isNewest_iff.2 ⟨hfalls, hlast⟩⟩

theorem AgeThreshold.name_injective : Function.Injective AgeThreshold.name := by
  intro a b hname
  cases a <;> cases b <;> simp_all [AgeThreshold.name]

/-- Events that tell a threshold tell no other. -/
theorem Tells.unique {events : List DomainEvent} {a b : AgeThreshold}
    (ha : Tells student guardians a events) (hb : Tells student guardians b events) : a = b := by
  obtain ⟨news, rfl, haudience, hnames⟩ := ha
  obtain ⟨others, hsame, -, hnames'⟩ := hb
  have hnews : news ≠ [] := by
    rintro rfl
    exact audience_ne_nil guardians haudience.symm
  obtain ⟨widened, hwidened⟩ := List.exists_mem_of_ne_nil news hnews
  have hother : (⟨.capabilitiesWidened, widened⟩ : DomainEvent) ∈
      others.map fun widened => (⟨.capabilitiesWidened, widened⟩ : DomainEvent) :=
    hsame ▸ List.mem_map_of_mem hwidened
  obtain ⟨other, hother, heq⟩ := List.mem_map.1 hother
  cases heq
  exact AgeThreshold.name_injective ((hnames _ hwidened).2.symm.trans (hnames' _ hother).2)

theorem Tells.ne_nil {events : List DomainEvent} {threshold : AgeThreshold}
    (h : Tells student guardians threshold events) : events ≠ [] := by
  obtain ⟨news, rfl, haudience, -⟩ := h
  intro hnothing
  rw [List.map_eq_nil_iff.1 hnothing] at haudience
  exact audience_ne_nil guardians haudience.symm

/-- An execution publishes exactly on the day of a threshold, and it tells the newest one. -/
theorem Execution.announces (hnow : InCalendar execution.now)
    (hborn : execution.answers (.directory (.bornOn tenant student)) = .ok (some born))
    (hguardians : execution.answers (.guardianships (.guardiansOf tenant student)) =
      .ok guardians) :
    (execution.events rule tenant student ≠ [] ↔
      ∃ threshold, FallsOn rule born execution.now threshold) ∧
    ∀ threshold, Tells student guardians threshold (execution.events rule tenant student) ↔
      IsNewest rule born execution.now threshold := by
  rw [execution.events_eq hborn hguardians]
  cases hcrossed : crossedToday rule born execution.now with
  | none =>
    have hnone : ∀ threshold, ¬ IsNewest rule born execution.now threshold := by
      intro threshold hnewest
      obtain ⟨years, hsome⟩ := (crossedToday_iff hnow).2 hnewest
      cases hcrossed.symm.trans hsome
    refine ⟨⟨fun h => absurd rfl h, fun h => ?_⟩, fun threshold => ⟨fun h => ?_, fun h => ?_⟩⟩
    · obtain ⟨threshold, hnewest⟩ := exists_isNewest h
      exact absurd hnewest (hnone threshold)
    · exact absurd rfl h.ne_nil
    · exact absurd h (hnone threshold)
  | some found =>
    obtain ⟨crossed, years⟩ := found
    have hnewest := (crossedToday_iff hnow).1 ⟨years, hcrossed⟩
    have htells : Tells student guardians crossed
        (comingOfAgeEvents tenant student execution.now crossed years guardians) :=
      tells_comingOfAgeEvents execution.now crossed years
    refine ⟨⟨fun _ => ⟨crossed, hnewest.1⟩, fun _ => htells.ne_nil⟩, fun threshold => ?_⟩
    constructor
    · intro h
      rwa [h.unique htells]
    · intro h
      obtain ⟨again, hagain⟩ := (crossedToday_iff hnow).2 h
      cases hcrossed.symm.trans hagain
      exact htells

/-- **Every threshold is announced on exactly one day.** For every birth date, thresholds and run
that executes the scenario on each of the days, at moments of years that 16 bits hold: an execution
publishes exactly on the day of a threshold, and what it tells is the newest of the day, one event
for each guardian or one without; each threshold whose day is among the days is told, by itself or
by one of as many years; and executions that tell the same threshold are of one day. -/
theorem thresholds_are_announced_on_their_days {ι : Type} (rule : MaturityRule) (born : BirthDate)
    (tenant : TenantId) (student : PersonId) (executions : ι → Execution)
    (guardians : ι → List PersonId) (days : Set Int)
    (hnow : ∀ i, InCalendar (executions i).now)
    (hborn : ∀ i, (executions i).answers (.directory (.bornOn tenant student)) = .ok (some born))
    (hguardians : ∀ i, (executions i).answers (.guardianships (.guardiansOf tenant student)) =
      .ok (guardians i))
    (heach : ∀ day ∈ days, ∃ i, (executions i).now / microsOfDay = day) :
    let events := fun i => (executions i).events rule tenant student
    (∀ i, (events i ≠ [] ↔ ∃ threshold, FallsOn rule born (executions i).now threshold) ∧
      ∀ threshold, Tells student (guardians i) threshold (events i) ↔
        IsNewest rule born (executions i).now threshold) ∧
    (∀ threshold ∈ everyAgeThreshold,
      AgeStatus.turnsAt born (rule.thresholds.years threshold) / microsOfDay ∈ days →
        ∃ i named, rule.thresholds.years named = rule.thresholds.years threshold ∧
          Tells student (guardians i) named (events i)) ∧
    ∀ i j threshold, Tells student (guardians i) threshold (events i) →
      Tells student (guardians j) threshold (events j) →
        utcDay (executions i).now = utcDay (executions j).now := by
  intro events
  have hannounces : ∀ i, (events i ≠ [] ↔ _) ∧ _ := fun i =>
    (executions i).announces (hnow i) (hborn i) (hguardians i)
  refine ⟨hannounces, fun threshold hlisted hday => ?_, fun i j threshold hi hj => ?_⟩
  · obtain ⟨i, hi⟩ := heach _ hday
    have hfalls : FallsOn rule born (executions i).now threshold :=
      ⟨hlisted, utcDay_eq_iff.2 hi⟩
    obtain ⟨named, hnewest⟩ := exists_isNewest ⟨threshold, hfalls⟩
    refine ⟨i, named, ?_, ((hannounces i).2 named).2 hnewest⟩
    exact years_eq_of_sameDay (years_nonneg _ _) (years_nonneg _ _) (threshold_held ..)
      (threshold_held ..) (hnewest.1.2.symm.trans hfalls.2)
  · have hfirst := (((hannounces i).2 threshold).1 hi).1.2
    have hsecond := (((hannounces j).2 threshold).1 hj).1.2
    exact hfirst.trans hsecond.symm

/-- A child of 29 February. -/
def leapDay : BirthDate := ⟨⟨2008, 2, 29⟩, by decide, by decide⟩

/-- The scenario runs at noon of a day. -/
def atNoon (day : Int) : Execution where
  drawn := drawnAt (day * microsOfDay + microsOfDay / 2) 1
  answers asked := match asked with
    | .directory (.bornOn _ _) => .ok (some leapDay)
    | asked => (database.exec asked schoolDays).1

theorem atNoon_now (day : Int) : (atNoon day).now / microsOfDay = day := by
  have hday : microsOfDay = 86400000000 := rfl
  have hnow : (atNoon day).now = day * microsOfDay + microsOfDay / 2 := rfl
  rw [hnow, hday]
  omega

/-- The days of the years that 16 bits hold. -/
def calendarDays : Set Int := {day | Civil.FitsYear (Civil.dateOf day).year}

/-- Who is born on 29 February turns 14 on 1 March, and that is told on 1 March. -/
theorem leap_day_is_announced :
    ∃ day : Int, utcDay (atNoon day).now = ⟨2022, 3, 1⟩ ∧
      Tells (repeated 1) [repeated 2] .slotsAndReviews
        ((atNoon day).events schoolRule (repeated 7) (repeated 1)) := by
  have hguardians : (database.exec (.guardianships (.guardiansOf (repeated 7) (repeated 1)))
      schoolDays).1 = .ok [repeated 2] := by decide +kernel
  have hheld : ∀ day : calendarDays, InCalendar (atNoon day).now := by
    intro day
    rw [InCalendar, utcDay, atNoon_now]
    exact day.2
  obtain ⟨hannounces, hall, -⟩ := thresholds_are_announced_on_their_days schoolRule leapDay
    (repeated 7) (repeated 1) (fun day : calendarDays => atNoon day) (fun _ => [repeated 2])
    calendarDays hheld (fun _ => rfl) (fun _ => hguardians)
    fun day hday => ⟨⟨day, hday⟩, atNoon_now day⟩
  have hthere : AgeStatus.turnsAt leapDay 14 / microsOfDay ∈ calendarDays := by
    show Civil.FitsYear _
    decide +kernel
  obtain ⟨day, named, hyears, htells⟩ := hall .slotsAndReviews List.mem_cons_self hthere
  have hsame : named = .slotsAndReviews := by
    revert hyears
    cases named <;> decide
  rw [hsame] at htells
  refine ⟨day, ?_, htells⟩
  rw [(((hannounces day).2 .slotsAndReviews).1 htells).1.2]
  decide +kernel

/-- In the year 67558 the calendar's types read 2022, and the threshold is announced again, on a day
of no threshold. -/
theorem leap_day_is_announced_again :
    let told := fun day => (atNoon day).events schoolRule (repeated 7) (repeated 1)
    Tells (repeated 1) [repeated 2] .slotsAndReviews (told (Civil.daysOf ⟨2022, 3, 1⟩)) ∧
      Tells (repeated 1) [repeated 2] .slotsAndReviews (told (Civil.daysOf ⟨67558, 3, 1⟩)) ∧
        ¬ ∃ threshold, FallsOn schoolRule leapDay (atNoon (Civil.daysOf ⟨67558, 3, 1⟩)).now
          threshold := by
  have hguardians : (database.exec (.guardianships (.guardiansOf (repeated 7) (repeated 1)))
      schoolDays).1 = .ok [repeated 2] := by decide +kernel
  have htells : ∀ day, crossedToday schoolRule leapDay (atNoon day).now =
      some (.slotsAndReviews, 14) → Tells (repeated 1) [repeated 2] .slotsAndReviews
        ((atNoon day).events schoolRule (repeated 7) (repeated 1)) := by
    intro day hcrossed
    have hborn : (atNoon day).answers (.directory (.bornOn (repeated 7) (repeated 1))) =
        .ok (some leapDay) := rfl
    rw [(atNoon day).events_eq hborn hguardians, hcrossed]
    exact tells_comingOfAgeEvents _ _ _
  refine ⟨htells _ (by decide +kernel), htells _ (by decide +kernel), ?_⟩
  rintro ⟨threshold, hlisted, hday⟩
  revert hlisted hday
  cases threshold <;> decide +kernel

end Runs

end Pdr.Identity
