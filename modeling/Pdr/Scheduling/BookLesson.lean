import Pdr.Scheduling.Core
import Pdr.StoreProgram.Sequence

/-!
# Booking a lesson

A lesson is booked if nobody has booked the tutor yet: the code says that his time is taken
otherwise. What it asks the store is whether a lesson starts at the same moment. A lesson that
starts at another moment and is still going on, or begins before the new one ends, is not found,
and then the tutor has two lessons at one time.

## Main definitions

* `Pdr.Scheduling.ScheduleCall`, `Pdr.Scheduling.schedule`: the calls of a booking.
* `Pdr.Scheduling.bookLesson`
* `Pdr.Scheduling.Booking.Passes`: the checks of the code let a booking through.
* `Pdr.Scheduling.Booking.MeetsNobody`: no lesson of the tutor takes any of the time asked for.

## Main results

* `Pdr.Scheduling.Booking.run_bookLesson`: what a booking does.
* `Pdr.Scheduling.notDoubleBooked_iff`: when no tutor is double-booked.
* `Pdr.Scheduling.tutor_booked_twice`: two lessons that overlap.
-/

namespace Pdr.Scheduling

open StoreProgram Program

/-! ### The calls of a booking -/

/-- `LessonBooked`, with its envelope. -/
structure LessonBooked where
  tenant : TenantId
  occurredAt : Int
  lesson : LessonId
  tutor : PersonId
  student : PersonId
  startsAt : Int

/-- The lessons and the published events, in order. -/
structure Schedule where
  lessons : List Lesson := []
  published : List LessonBooked := []

/-- The calls of `BookLesson`. What the identity library, the clock and the generator of
identifiers answer is given. -/
inductive ScheduleCall where
  | mayActFor (tenant : TenantId) (actor student : PersonId) (allowed : Bool)
  | findAtSlot (tenant : TenantId) (tutor : PersonId) (startsAt : Int)
  | now (moment : Int)
  | next (id : LessonId)
  | save (lesson : Lesson)
  | publish (event : LessonBooked)

namespace ScheduleCall

/-- What each call answers. -/
@[reducible] def Answer : ScheduleCall → Type
  | mayActFor .. => Bool
  | findAtSlot .. => Option Lesson
  | now _ => Int
  | next _ => LessonId
  | save _ => Unit
  | publish _ => Unit

/-- What the calls do to the lessons and the events. -/
def exec : (call : ScheduleCall) → Schedule → Except Fault call.Answer × Schedule
  | mayActFor _ _ _ allowed, s => (.ok allowed, s)
  | findAtSlot tenant tutor startsAt, s =>
    (.ok (s.lessons.find? fun lesson =>
      lesson.tenant = tenant && lesson.tutor = tutor && lesson.startsAt = startsAt), s)
  | now moment, s => (.ok moment, s)
  | next id, s => (.ok id, s)
  | save lesson, s => (.ok (), { s with lessons := s.lessons ++ [lesson] })
  | publish event, s => (.ok (), { s with published := s.published ++ [event] })

end ScheduleCall

/-- The lessons of all tutors. -/
def schedule : Machine ScheduleCall.Answer Fault Schedule where
  exec := ScheduleCall.exec

/-! ### The booking -/

/-- `BookLesson::Request`. -/
structure BookLessonRequest where
  tenant : TenantId
  actor : PersonId
  tutor : PersonId
  student : PersonId
  startsAt : Int
  duration : Int

/-- A request, with what is answered to it from outside. -/
structure Booking where
  request : BookLessonRequest
  allowed : Bool
  now : Int
  id : LessonId

/-- Make a call. -/
abbrev askSchedule (call : ScheduleCall) : Program ScheduleCall.Answer Fault call.Answer :=
  perform call

/-- Somebody who may not act for the student. -/
def notAllowedToActForStudent : Error :=
  ⟨.forbidden, "not_allowed_to_act_for_student",
    "записывать за ученика вправе он сам или его опекун"⟩

/-- The tutor's time is taken. -/
def slotAlreadyTaken : Error :=
  ⟨.conflict, "slot_already_taken", "это время у репетитора уже занято"⟩

/-- `BookLesson::Execute`. -/
def bookLesson (booking : Booking) : Program ScheduleCall.Answer Fault LessonId := do
  let request := booking.request
  let allowed ← askSchedule
    (.mayActFor request.tenant request.actor request.student booking.allowed)
  if !allowed then
    raise (.refused notAllowedToActForStudent)
  else
    let found ← askSchedule (.findAtSlot request.tenant request.tutor request.startsAt)
    if found.isSome then
      raise (.refused slotAlreadyTaken)
    else
      let now ← askSchedule (.now booking.now)
      let id ← askSchedule (.next booking.id)
      let lesson ← ofExcept (Lesson.schedule id request.tenant request.tutor request.student
        request.startsAt request.duration now).orRefuse
      askSchedule (.save lesson)
      askSchedule (.publish
        ⟨request.tenant, now, lesson.id, request.tutor, request.student, request.startsAt⟩)
      return lesson.id

/-- The bookings as calls of one machine. -/
def bookings : Machine (fun _ : Booking => LessonId) Fault Schedule :=
  schedule.whole bookLesson

/-- A turn of a sequential run. -/
abbrev BookingTurn : Type := Turn (fun _ : Booking => LessonId) Fault Schedule

namespace Booking

variable {booking : Booking} {s s' : Schedule}

/-- A lesson starts when the booking wants to start one. -/
def StartsWith (booking : Booking) (lesson : Lesson) : Prop :=
  lesson.tenant = booking.request.tenant ∧ lesson.tutor = booking.request.tutor ∧
    lesson.startsAt = booking.request.startsAt

/-- The checks of the code let the booking through. -/
structure Passes (booking : Booking) (lessons : List Lesson) : Prop where
  allowed : booking.allowed = true
  free : ∀ lesson ∈ lessons, ¬ booking.StartsWith lesson
  lasts : 0 < booking.request.duration
  ahead : booking.now < booking.request.startsAt

/-- No lesson of the tutor takes any of the time asked for. -/
def MeetsNobody (booking : Booking) (lessons : List Lesson) : Prop :=
  ∀ lesson ∈ lessons, lesson.tenant = booking.request.tenant →
    lesson.tutor = booking.request.tutor → ∀ moment, lesson.Takes moment →
      ¬ (booking.request.startsAt ≤ moment ∧
        moment < booking.request.startsAt + booking.request.duration * minute)

/-- The lesson that is booked. -/
def lesson (booking : Booking) (hlasts : 0 < booking.request.duration) : Lesson :=
  ⟨booking.id, booking.request.tenant, booking.request.tutor, booking.request.student,
    booking.request.startsAt, booking.request.duration, hlasts⟩

/-- The event that is published. -/
def event (booking : Booking) : LessonBooked :=
  ⟨booking.request.tenant, booking.now, booking.id, booking.request.tutor,
    booking.request.student, booking.request.startsAt⟩

theorem meetsNobody_iff {lessons : List Lesson} (hlasts : 0 < booking.request.duration) :
    booking.MeetsNobody lessons ↔ ∀ other ∈ lessons, other.IsApart (booking.lesson hlasts) :=
  forall₂_congr fun _ _ => and_imp.symm

theorem isSome_findAtSlot_iff {lessons : List Lesson} :
    (lessons.find? fun lesson => lesson.tenant = booking.request.tenant &&
        lesson.tutor = booking.request.tutor &&
          lesson.startsAt = booking.request.startsAt).isSome = true ↔
      ∃ lesson ∈ lessons, booking.StartsWith lesson := by
  simp only [List.find?_isSome, StartsWith, Bool.and_eq_true, decide_eq_true_eq, and_assoc]

/-- What the schedule is after a booking that passed. -/
def booked (booking : Booking) (hlasts : 0 < booking.request.duration) (s : Schedule) : Schedule :=
  ⟨s.lessons ++ [booking.lesson hlasts], s.published ++ [booking.event]⟩

/-- **What a booking does.** One that passes the checks is saved and published; any other is
refused, and changes nothing. -/
theorem run_bookLesson (booking : Booking) (s : Schedule) :
    (∃ h : booking.Passes s.lessons,
        (bookLesson booking).run schedule s = (.ok booking.id, booking.booked h.lasts s)) ∨
      (¬ booking.Passes s.lessons ∧
        ∃ error, (bookLesson booking).run schedule s = (.error (.refused error), s)) := by
  unfold bookLesson
  cases hallowed : booking.allowed with
  | false =>
    refine Or.inr ⟨fun h => ?_, notAllowedToActForStudent, rfl⟩
    rw [h.allowed] at hallowed
    cases hallowed
  | true =>
    simp only [run_bind, run_perform, schedule, ScheduleCall.exec, Bool.not_true,
      Bool.false_eq_true, if_false]
    by_cases hfound : ∃ lesson ∈ s.lessons, booking.StartsWith lesson
    · obtain ⟨lesson, hlesson, hstarts⟩ := hfound
      refine Or.inr ⟨fun h => h.free lesson hlesson hstarts, slotAlreadyTaken, ?_⟩
      rw [if_pos (isSome_findAtSlot_iff.2 ⟨lesson, hlesson, hstarts⟩), run_raise]
    rw [if_neg (mt isSome_findAtSlot_iff.1 hfound)]
    rcases Lesson.schedule_cases booking.id booking.request.tenant booking.request.tutor
      booking.request.student booking.request.startsAt booking.request.duration booking.now with
      ⟨hlasts, hahead, hlesson⟩ | ⟨hrefused, error, herror⟩
    · have hfree : ∀ lesson ∈ s.lessons, ¬ booking.StartsWith lesson :=
        fun lesson hlesson hstarts => hfound ⟨lesson, hlesson, hstarts⟩
      refine Or.inl ⟨⟨hallowed, hfree, hlasts, hahead⟩, ?_⟩
      simp only [run_bind, run_perform, hlesson, Result.orRefuse_ok, ofExcept_ok, run_done,
        ScheduleCall.exec]
      rfl
    · refine Or.inr ⟨fun h => hrefused ⟨h.lasts, h.ahead⟩, error, ?_⟩
      simp only [run_bind, run_perform, herror, Result.orRefuse_error, ofExcept_error, run_raise,
        ScheduleCall.exec]

/-- A booking either passes and is added, or is refused and changes nothing. -/
theorem exec_cases {answer : Except Fault LessonId} (h : bookings.exec booking s = (answer, s')) :
    (∃ hpasses : booking.Passes s.lessons,
        answer = .ok booking.id ∧ s' = booking.booked hpasses.lasts s) ∨
      (¬ booking.Passes s.lessons ∧ (∃ error, answer = .error (.refused error)) ∧ s' = s) := by
  have hexec : (bookLesson booking).run schedule s = (answer, s') := h
  rcases run_bookLesson booking s with ⟨hpasses, hbooked⟩ | ⟨hrefused, error, herror⟩
  · obtain ⟨rfl, rfl⟩ := Prod.mk.inj (hbooked.symm.trans hexec)
    exact Or.inl ⟨hpasses, rfl, rfl⟩
  · obtain ⟨rfl, rfl⟩ := Prod.mk.inj (herror.symm.trans hexec)
    exact Or.inr ⟨hrefused, ⟨error, rfl⟩, rfl⟩

end Booking

/-! ### Runs of bookings -/

section Runs

variable {steps : List BookingTurn} {s s' : Schedule}

theorem lessons_grow (h : Linked bookings s steps s') : s.lessons <+: s'.lessons := by
  refine h.keeps (P := fun now => s.lessons <+: now.lessons) (fun t ht hbefore => ?_)
    (List.prefix_refl _)
  rcases Booking.exec_cases (h.exec_eq ht) with ⟨hpasses, -, hafter⟩ | ⟨-, -, hafter⟩
  · rw [hafter]
    exact hbefore.trans (List.prefix_append _ _)
  · rw [hafter]
    exact hbefore

/-- After a booking nobody is double-booked exactly if nobody was before and the booking, should
it pass, meets nobody. -/
theorem notDoubleBooked_step {t : BookingTurn}
    (hexec : bookings.exec t.entry.op t.before = (t.entry.answer, t.after)) :
    NotDoubleBooked t.after.lessons ↔ NotDoubleBooked t.before.lessons ∧
      (t.entry.op.Passes t.before.lessons → t.entry.op.MeetsNobody t.before.lessons) := by
  rcases Booking.exec_cases hexec with ⟨hpasses, -, hafter⟩ | ⟨hrefused, -, hafter⟩
  · rw [hafter, Booking.booked, notDoubleBooked_concat, ← Booking.meetsNobody_iff]
    exact and_congr_right fun _ => ⟨fun h _ => h, fun h => h hpasses⟩
  · rw [hafter]
    exact (and_iff_left fun hpasses => absurd hpasses hrefused).symm

/-- Every lesson was added by a booking that was made before it starts. -/
theorem exists_booking (h : Linked bookings {} steps s') {lesson : Lesson}
    (hlesson : lesson ∈ s'.lessons) :
    ∃ t ∈ steps, t.after.lessons = t.before.lessons ++ [lesson] ∧
      t.entry.answer = .ok lesson.id ∧ t.entry.op.now < lesson.startsAt := by
  obtain ⟨early, t, late, rfl, hbefore, hafter⟩ :=
    h.exists_change (P := fun now => lesson ∈ now.lessons) List.not_mem_nil hlesson
  refine ⟨t, by simp, ?_⟩
  rcases Booking.exec_cases (h.exec_eq (t := t) (by simp)) with
    ⟨hpasses, hanswer, hbooked⟩ | ⟨-, -, hsame⟩
  · rw [hbooked, Booking.booked, List.mem_append, List.mem_singleton] at hafter
    obtain rfl := hafter.resolve_left hbefore
    rw [hbooked]
    exact ⟨rfl, hanswer, hpasses.ahead⟩
  · rw [hsame] at hafter
    exact absurd hafter hbefore

/-- **When no tutor is double-booked.** In every run of bookings no tutor has two lessons at one
time exactly if each booking that passes the checks meets no lesson of its tutor. In any case
each lesson lasts and was booked before its start, and a refused booking changes nothing. -/
theorem notDoubleBooked_iff (h : Linked bookings {} steps s') :
    (NotDoubleBooked s'.lessons ↔ ∀ t ∈ steps, t.entry.op.Passes t.before.lessons →
        t.entry.op.MeetsNobody t.before.lessons) ∧
      (∀ lesson ∈ s'.lessons, 0 < lesson.duration ∧
        ∃ t ∈ steps, t.after.lessons = t.before.lessons ++ [lesson] ∧
          t.entry.answer = .ok lesson.id ∧ t.entry.op.now < lesson.startsAt) ∧
      ∀ t ∈ steps, ∀ fault, t.entry.answer = .error fault → t.after = t.before := by
  refine ⟨⟨fun hapart t ht => ?_, fun hmeets => ?_⟩, fun lesson hlesson => ?_, fun t ht => ?_⟩
  · obtain ⟨early, late, rfl⟩ := List.append_of_mem ht
    have hnow := hapart.of_grown (lessons_grow h.split.2.2)
    exact ((notDoubleBooked_step (h.exec_eq ht)).1 hnow).2
  · refine h.keeps (P := fun now => NotDoubleBooked now.lessons) (fun t ht hbefore => ?_) .nil
    exact (notDoubleBooked_step (h.exec_eq ht)).2 ⟨hbefore, hmeets t ht⟩
  · exact ⟨lesson.lasts, exists_booking h hlesson⟩
  · intro fault hfault
    rcases Booking.exec_cases (h.exec_eq ht) with ⟨-, hanswer, -⟩ | ⟨-, -, hafter⟩
    · rw [hanswer] at hfault
      cases hfault
    · exact hafter

end Runs

/-! ### Two lessons at one time -/

/-- A lesson of an hour that starts at the given minute, booked at moment 0. -/
def bookedFor (start : Int) : Booking where
  request := ⟨⟨.replicate 16 1⟩, ⟨.replicate 16 2⟩, ⟨.replicate 16 3⟩, ⟨.replicate 16 2⟩,
    start * minute, 60⟩
  allowed := true
  now := 0
  id := ⟨.replicate 16 start.toNat.toUInt8⟩

/-- A lesson at minute 90, and then one at the given minute. -/
def twoBookings (start : Int) : List BookingTurn × Schedule :=
  turns bookings [bookedFor 90, bookedFor start] {}

/-- The hour before the lesson is free. -/
theorem hour_before_is_free : NotDoubleBooked (twoBookings 30).2.lessons := by
  refine (notDoubleBooked_iff (turns_linked bookings [bookedFor 90, bookedFor 30] {})).1.2 ?_
  rintro t (- | ⟨-, - | ⟨-, ⟨⟩⟩⟩) - lesson hlesson - -
  · cases hlesson
  · obtain rfl : lesson = (bookedFor 90).lesson (by decide) := List.mem_singleton.1 hlesson
    rintro moment ⟨hstarted, -⟩ ⟨-, hending⟩
    have hbefore : 90 * minute < 30 * minute + 60 * minute := Int.lt_of_le_of_lt hstarted hending
    exact absurd hbefore (by decide)

/-- **A tutor is booked twice.** The second lesson starts half an hour before the first and ends
half an hour after its start; it is saved and published. -/
theorem tutor_booked_twice :
    Linked bookings {} (twoBookings 60).1 (twoBookings 60).2 ∧
      (twoBookings 60).2.published.length = 2 ∧ ¬ NotDoubleBooked (twoBookings 60).2.lessons := by
  refine ⟨turns_linked _ _ _, rfl, fun hapart => ?_⟩
  have hlessons : (twoBookings 60).2.lessons =
      [(bookedFor 90).lesson (by decide), (bookedFor 60).lesson (by decide)] := rfl
  rw [hlessons] at hapart
  refine List.rel_of_pairwise_cons hapart List.mem_cons_self ⟨rfl, rfl⟩ _ (Lesson.takes_startsAt _)
    ⟨?_, ?_⟩ <;> decide

end Pdr.Scheduling
