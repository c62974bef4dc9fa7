import Pdr.Core.Types

/-!
# Lessons

A lesson takes the time of its tutor from its start to its end, the end excluded.

## Main definitions

* `Pdr.Scheduling.Lesson`, made by `Lesson.schedule`
* `Pdr.Scheduling.Lesson.Takes`: a lesson takes a moment of its tutor's time.
* `Pdr.Scheduling.NotDoubleBooked`: no tutor has two lessons at one time.
-/

namespace Pdr.Scheduling

/-- `LessonId`. -/
abbrev LessonId : Type := StrongId .lesson

/-- `std::chrono::minutes`, in microseconds. -/
def minute : Int := 60000000

/-- A lesson. Its duration is in minutes. -/
structure Lesson where
  id : LessonId
  tenant : TenantId
  tutor : PersonId
  student : PersonId
  startsAt : Int
  duration : Int
  lasts : 0 < duration

namespace Lesson

/-- A lesson that would have begun. -/
def startsInPast : Error :=
  ⟨.validation, "lesson_starts_in_past", "записаться назад во времени нельзя"⟩

/-- A lesson that takes no time. -/
def durationNotPositive : Error :=
  ⟨.validation, "lesson_duration_not_positive", "занятие нулевой длины — не занятие"⟩

/-- `Lesson::Schedule`. -/
def schedule (id : LessonId) (tenant : TenantId) (tutor student : PersonId)
    (startsAt duration now : Int) : Result Lesson :=
  if hlasts : 0 < duration then
    if startsAt ≤ now then .error startsInPast
    else .ok ⟨id, tenant, tutor, student, startsAt, duration, hlasts⟩
  else .error durationNotPositive

/-- When a lesson is scheduled, and when it is refused. -/
theorem schedule_cases (id : LessonId) (tenant : TenantId) (tutor student : PersonId)
    (startsAt duration now : Int) :
    (∃ hlasts : 0 < duration, now < startsAt ∧
        schedule id tenant tutor student startsAt duration now =
          .ok ⟨id, tenant, tutor, student, startsAt, duration, hlasts⟩) ∨
      (¬ (0 < duration ∧ now < startsAt) ∧
        ∃ error, schedule id tenant tutor student startsAt duration now = .error error) := by
  by_cases hlasts : 0 < duration
  · by_cases hpast : startsAt ≤ now
    · refine Or.inr ⟨fun h => absurd h.2 (Int.not_lt.2 hpast), startsInPast, ?_⟩
      rw [schedule, dif_pos hlasts, if_pos hpast]
    · refine Or.inl ⟨hlasts, Int.not_le.1 hpast, ?_⟩
      rw [schedule, dif_pos hlasts, if_neg hpast]
  · refine Or.inr ⟨fun h => hlasts h.1, durationNotPositive, ?_⟩
    rw [schedule, dif_neg hlasts]

/-- `EndsAt`. -/
def endsAt (lesson : Lesson) : Int := lesson.startsAt + lesson.duration * minute

/-- The lesson takes the moment. -/
def Takes (lesson : Lesson) (moment : Int) : Prop :=
  lesson.startsAt ≤ moment ∧ moment < lesson.endsAt

theorem takes_startsAt (lesson : Lesson) : lesson.Takes lesson.startsAt := by
  have hlasts := lesson.lasts
  refine ⟨Int.le_refl _, ?_⟩
  simp only [endsAt, minute]
  omega

/-- Two lessons are of one tutor. -/
def IsWithTutorOf (a b : Lesson) : Prop := a.tenant = b.tenant ∧ a.tutor = b.tutor

/-- Two lessons of one tutor do not take the same moment. -/
def IsApart (a b : Lesson) : Prop :=
  a.IsWithTutorOf b → ∀ moment, a.Takes moment → ¬ b.Takes moment

end Lesson

/-- No tutor has two lessons at one time. -/
def NotDoubleBooked (lessons : List Lesson) : Prop := lessons.Pairwise Lesson.IsApart

theorem notDoubleBooked_concat {lessons : List Lesson} {lesson : Lesson} :
    NotDoubleBooked (lessons ++ [lesson]) ↔
      NotDoubleBooked lessons ∧ ∀ other ∈ lessons, other.IsApart lesson := by
  simp [NotDoubleBooked, List.pairwise_append]

theorem NotDoubleBooked.of_grown {lessons more : List Lesson} (h : NotDoubleBooked more)
    (hpart : lessons <+: more) : NotDoubleBooked lessons :=
  h.sublist hpart.sublist

end Pdr.Scheduling
