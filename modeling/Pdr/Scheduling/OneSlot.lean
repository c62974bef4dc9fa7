import Pdr.Scheduling.BookLesson
import Pdr.StoreProgram.CheckThenAct

/-!
# One slot and several students

Students ask for one moment of one tutor at the same time. Each booking asks whether the slot
is free by one call and saves its lesson by a later one. Bookings that ask before any of them
has saved are all told that it is free, and all of them succeed.

## Main definitions

* `Pdr.Scheduling.bookingPool`: executions of `BookLesson`.
* `Pdr.Scheduling.Slot`: a moment of a tutor's time; `Pdr.Scheduling.Slot.IsTaken`.
* `Pdr.Scheduling.Booking.CanBeScheduled`: `Lesson::Schedule` accepts the lesson.
* `Pdr.Scheduling.NobodyAsksInBetween`: between the question and the save of a booking no other
  one that can be scheduled asks.
* `Pdr.Scheduling.GoesToOne`: at most one booking succeeded, and at most one was published.

## Main results

* `Pdr.Scheduling.follows_bookLesson`: what an execution has done so far.
* `Pdr.Scheduling.slot_goes_to_one_iff`: exactly when a slot goes to one student.
* `Pdr.Scheduling.slot_goes_to_two`: two students who are both told that it is free.
-/

namespace Pdr.Scheduling

open StoreProgram Program

/-! ### What an execution does -/

/-- `Lesson::Schedule` accepts the lesson that is asked for. -/
def Booking.CanBeScheduled (booking : Booking) : Prop :=
  0 < booking.request.duration ∧ booking.now < booking.request.startsAt

instance decidableCanBeScheduled (booking : Booking) : Decidable booking.CanBeScheduled :=
  inferInstanceAs (Decidable (_ ∧ _))

/-- The call is answered as the schedule answers it. -/
def AnsweredBySchedule (entry : Entry ScheduleCall.Answer Fault) : Prop :=
  ∃ s, entry.answer = (schedule.exec entry.op s).1

namespace Booking

/-- The question about the slot, with its answer. -/
def question (booking : Booking) (found : Option Lesson) : Entry ScheduleCall.Answer Fault :=
  ⟨.findAtSlot booking.request.tenant booking.request.tutor booking.request.startsAt, .ok found⟩

/-- The calls of a booking that is told that the slot is free. -/
def finish (booking : Booking) : List (Entry ScheduleCall.Answer Fault) :=
  ⟨.now booking.now, .ok booking.now⟩ :: ⟨.next booking.id, .ok booking.id⟩ ::
    if h : booking.CanBeScheduled then
      [⟨.save (booking.lesson h.1), .ok ()⟩, ⟨.publish booking.event, .ok ()⟩]
    else []

/-- All the calls of a booking, by the answer to its question. -/
def script (booking : Booking) (found : Option Lesson) : List (Entry ScheduleCall.Answer Fault) :=
  ⟨.mayActFor booking.request.tenant booking.request.actor booking.request.student
      booking.allowed, .ok booking.allowed⟩ ::
    if booking.allowed then
      booking.question found :: if found.isSome then [] else booking.finish
    else []

end Booking

/-- A program stands somewhere in a script: it has made some of its calls, in their order; when
it is over, all of them; and it has a value only if it may. -/
structure StandsIn (script : List (Entry ScheduleCall.Answer Fault)) (may : Prop)
    (history : List (Entry ScheduleCall.Answer Fault))
    (program : Program ScheduleCall.Answer Fault LessonId) : Prop where
  part : history <+: script
  whole : program.isOver = true → history = script
  value : program.value?.isSome = true → may

section Script

variable {script history : List (Entry ScheduleCall.Answer Fault)} {may : Prop}
  {program : Program ScheduleCall.Answer Fault LessonId} {call : ScheduleCall}
  {rest : Except Fault call.Answer → Program ScheduleCall.Answer Fault LessonId}

theorem standsIn_nil : StandsIn script may [] (Program.call call rest) :=
  ⟨List.nil_prefix, nofun, nofun⟩

theorem StandsIn.cons (h : StandsIn script may history program)
    (entry : Entry ScheduleCall.Answer Fault) :
    StandsIn (entry :: script) may (entry :: history) program :=
  ⟨List.cons_prefix_cons.2 ⟨rfl, h.part⟩, fun hover => congrArg _ (h.whole hover), h.value⟩

/-- A call whose answer is the same in each state is the next of its script. -/
theorem standsIn_call {answer : Except Fault call.Answer}
    (hfixed : ∀ s, (schedule.exec call s).1 = answer)
    (h : (Program.call call rest).Follows history program)
    (hanswered : ∀ entry ∈ history, AnsweredBySchedule entry)
    (hrest : ∀ later, (rest answer).Follows later program →
      (∀ entry ∈ later, AnsweredBySchedule entry) → StandsIn script may later program) :
    StandsIn (⟨call, answer⟩ :: script) may history program := by
  rcases follows_call h with ⟨rfl, rfl⟩ | ⟨given, later, rfl, hlater⟩
  · exact standsIn_nil
  obtain ⟨s, hs⟩ := hanswered _ List.mem_cons_self
  obtain rfl : given = answer := hs.trans (hfixed s)
  have hrest := hrest later hlater fun entry hentry =>
    hanswered entry (List.mem_cons_of_mem _ hentry)
  exact hrest.cons _

theorem standsIn_raise {error : Fault} (h : (Program.raise error).Follows history program) :
    StandsIn [] may history program := by
  cases h
  exact ⟨List.prefix_refl _, fun _ => rfl, nofun⟩

theorem standsIn_done {id : LessonId} (hmay : may)
    (h : (Program.done id).Follows history program) : StandsIn [] may history program := by
  cases h
  exact ⟨List.prefix_refl _, fun _ => rfl, fun _ => hmay⟩

end Script

/-- What is left of a booking that was told that the slot is free. -/
theorem follows_finish {booking : Booking} {history : List (Entry ScheduleCall.Answer Fault)}
    {program : Program ScheduleCall.Answer Fault LessonId}
    (h : Follows (do
      let now ← askSchedule (.now booking.now)
      let id ← askSchedule (.next booking.id)
      let lesson ← ofExcept (Lesson.schedule id booking.request.tenant booking.request.tutor
        booking.request.student booking.request.startsAt booking.request.duration now).orRefuse
      askSchedule (.save lesson)
      askSchedule (.publish ⟨booking.request.tenant, now, lesson.id, booking.request.tutor,
        booking.request.student, booking.request.startsAt⟩)
      return lesson.id) history program)
    (hanswered : ∀ entry ∈ history, AnsweredBySchedule entry) :
    StandsIn booking.finish booking.CanBeScheduled history program := by
  refine standsIn_call (fun _ => rfl) h hanswered fun afterNow hnow hanswered => ?_
  refine standsIn_call (fun _ => rfl) hnow hanswered fun afterNext hnext hanswered => ?_
  simp only [ofExcept_ok, Program.bind] at hnext
  rcases Lesson.schedule_cases booking.id booking.request.tenant booking.request.tutor
    booking.request.student booking.request.startsAt booking.request.duration booking.now with
    ⟨hlasts, hahead, hlesson⟩ | ⟨hrefused, error, herror⟩
  · have hcan : booking.CanBeScheduled := ⟨hlasts, hahead⟩
    rw [hlesson] at hnext
    rw [dif_pos hcan]
    refine standsIn_call (fun _ => rfl) hnext hanswered fun afterSave hsave hanswered => ?_
    refine standsIn_call (fun _ => rfl) hsave hanswered fun afterPublish hpublish _ => ?_
    exact standsIn_done hcan hpublish
  · rw [herror] at hnext
    have hcannot : ¬ booking.CanBeScheduled := hrefused
    rw [dif_neg hcannot]
    exact standsIn_raise hnext

/-- **What an execution has done so far.** It has made some of the calls of its script, in
their order; when it is over, all of them; and it succeeds only if it was told that the slot is
free and its lesson can be scheduled. -/
theorem follows_bookLesson {booking : Booking} {history : List (Entry ScheduleCall.Answer Fault)}
    {program : Program ScheduleCall.Answer Fault LessonId}
    (h : (bookLesson booking).Follows history program)
    (hanswered : ∀ entry ∈ history, AnsweredBySchedule entry) :
    ∃ found, StandsIn (booking.script found)
      (booking.allowed = true ∧ found = none ∧ booking.CanBeScheduled) history program := by
  by_cases hallowed : booking.allowed = true
  · rcases follows_call h with ⟨rfl, rfl⟩ | ⟨given, asked, rfl, hasked⟩
    · exact ⟨none, standsIn_nil⟩
    obtain ⟨s, hs⟩ := hanswered _ List.mem_cons_self
    obtain rfl : given = .ok booking.allowed := hs
    simp only [ofExcept_ok, Program.bind, hallowed, Bool.not_true, Bool.false_eq_true,
      if_false] at hasked
    rcases follows_call hasked with ⟨rfl, rfl⟩ | ⟨answer, later, rfl, hlater⟩
    · exact ⟨none, standsIn_nil.cons _⟩
    obtain ⟨s', hs'⟩ := hanswered ⟨_, answer⟩ (by simp)
    obtain ⟨found, rfl⟩ : ∃ found, answer = .ok found := ⟨_, hs'⟩
    have hrest : ∀ entry ∈ later, AnsweredBySchedule entry := fun entry hentry =>
      hanswered entry (by simp [hentry])
    refine ⟨found, StandsIn.cons ?_ _⟩
    rw [if_pos hallowed]
    refine StandsIn.cons ?_ _
    cases found with
    | some lesson => exact standsIn_raise hlater
    | none =>
      have hfinish := follows_finish hlater hrest
      exact ⟨hfinish.part, hfinish.whole, fun hvalue => ⟨hallowed, rfl, hfinish.value hvalue⟩⟩
  · refine ⟨none, standsIn_call (fun _ => rfl) h hanswered fun later hlater _ => ?_⟩
    rw [if_neg hallowed]
    simp only [ofExcept_ok, Program.bind, hallowed] at hlater
    exact standsIn_raise hlater

/-! ### The script of a booking -/

/-- The call asks whether a slot is free. -/
def isQuestion : Entry ScheduleCall.Answer Fault → Bool
  | ⟨.findAtSlot .., _⟩ => true
  | _ => false

/-- The call saves a lesson. -/
def isSave : Entry ScheduleCall.Answer Fault → Bool
  | ⟨.save _, _⟩ => true
  | _ => false

/-- The call publishes an event. -/
def isPublish : Entry ScheduleCall.Answer Fault → Bool
  | ⟨.publish _, _⟩ => true
  | _ => false

namespace Booking

variable (booking : Booking) (found : Option Lesson)

theorem isQuestion_of_mem_finish {entry : Entry ScheduleCall.Answer Fault}
    (hentry : entry ∈ booking.finish) : isQuestion entry = false := by
  unfold finish at hentry
  split_ifs at hentry <;> simp only [List.mem_cons, List.not_mem_nil, or_false] at hentry
  · rcases hentry with rfl | rfl | rfl | rfl <;> rfl
  · rcases hentry with rfl | rfl <;> rfl

/-- The only question of a booking. -/
theorem eq_question_of_mem {entry : Entry ScheduleCall.Answer Fault}
    (hentry : entry ∈ booking.script found) (hasks : isQuestion entry = true) :
    booking.allowed = true ∧ entry = booking.question found := by
  rw [script, List.mem_cons] at hentry
  rcases hentry with rfl | hentry
  · cases hasks
  split_ifs at hentry with hallowed hfound
  · exact ⟨hallowed, List.mem_singleton.1 hentry⟩
  · rcases List.mem_cons.1 hentry with rfl | hentry
    · exact ⟨hallowed, rfl⟩
    · rw [booking.isQuestion_of_mem_finish hentry] at hasks
      cases hasks
  · cases hentry

theorem countP_isQuestion_script : (booking.script found).countP isQuestion ≤ 1 := by
  have hnone : booking.finish.countP isQuestion = 0 :=
    List.countP_eq_zero.2 fun entry hentry =>
      Bool.eq_false_iff.1 (booking.isQuestion_of_mem_finish hentry)
  unfold script
  split_ifs <;> simp [List.countP_cons, isQuestion, question, hnone]

/-- The calls before the save of a booking that is told that the slot is free. -/
def opening : List (Entry ScheduleCall.Answer Fault) :=
  [⟨.mayActFor booking.request.tenant booking.request.actor booking.request.student
      booking.allowed, .ok booking.allowed⟩, booking.question none,
    ⟨.now booking.now, .ok booking.now⟩, ⟨.next booking.id, .ok booking.id⟩]

/-- A booking saves and publishes once, after it was told that the slot is free, or does
neither. -/
theorem script_cases :
    (∃ h : booking.CanBeScheduled, booking.allowed = true ∧ found = none ∧
        booking.script found = booking.opening ++
          [⟨.save (booking.lesson h.1), .ok ()⟩, ⟨.publish booking.event, .ok ()⟩]) ∨
      (¬ (booking.allowed = true ∧ found = none ∧ booking.CanBeScheduled) ∧
        ∀ entry ∈ booking.script found, isSave entry = false ∧ isPublish entry = false) := by
  by_cases hmay : booking.allowed = true ∧ found = none ∧ booking.CanBeScheduled
  · obtain ⟨hallowed, rfl, hcan⟩ := hmay
    refine Or.inl ⟨hcan, hallowed, rfl, ?_⟩
    rw [script, if_pos hallowed, finish, dif_pos hcan]
    rfl
  · refine Or.inr ⟨hmay, ?_⟩
    unfold script finish
    split_ifs with hallowed hfound hcan
    · simp [isSave, isPublish, question]
    · exact absurd ⟨hallowed, by simpa using hfound, hcan⟩ hmay
    · simp [isSave, isPublish, question]
    · simp [isSave, isPublish]

end Booking

/-! ### Executions among others -/

/-- A moment of a tutor's time. -/
structure Slot where
  tenant : TenantId
  tutor : PersonId
  startsAt : Int

/-- The tutor of a lesson and its moment. -/
def Lesson.slot (lesson : Lesson) : Slot := ⟨lesson.tenant, lesson.tutor, lesson.startsAt⟩

/-- The tutor and the moment that are asked for. -/
def Booking.slot (booking : Booking) : Slot :=
  ⟨booking.request.tenant, booking.request.tutor, booking.request.startsAt⟩

/-- A lesson starts at the slot. -/
def Slot.IsTaken (slot : Slot) (s : Schedule) : Prop := ∃ lesson ∈ s.lessons, lesson.slot = slot

/-- Executions of `BookLesson`. -/
def bookingPool {ι : Type} (booking : ι → Booking) (i : ι) :
    Program ScheduleCall.Answer Fault LessonId :=
  bookLesson (booking i)

/-- A step of executions that overlap. -/
abbrev BookingStep (ι : Type) : Type := Step ι ScheduleCall.Answer Fault Schedule

/-- A booking asks whether its slot is free, and its lesson can be scheduled. -/
def asksInEarnest {ι : Type} (booking : ι → Booking) (t : BookingStep ι) : Bool :=
  isQuestion t.entry && decide (booking t.thread).CanBeScheduled

/-- Between the question and the save of a booking no other that can be scheduled asks. -/
def NobodyAsksInBetween {ι : Type} (booking : ι → Booking) (steps : List (BookingStep ι)) : Prop :=
  Unraced (asksInEarnest booking) (fun t => isSave t.entry) steps

/-- At most one booking succeeded, and at most one was published. -/
structure GoesToOne {ι : Type} (pool' : ι → Program ScheduleCall.Answer Fault LessonId)
    (s s' : Schedule) : Prop where
  one : ∀ i j, (pool' i).value?.isSome = true → (pool' j).value?.isSome = true → i = j
  told : s'.published.length ≤ s.published.length + 1

section Answers

variable {ι : Type} {t : BookingStep ι}

theorem lessons_of_other (hexec : schedule.exec t.entry.op t.before = (t.entry.answer, t.after))
    (ht : isSave t.entry = false) : t.after.lessons = t.before.lessons := by
  obtain ⟨thread, ⟨call, answer⟩, before, after⟩ := t
  obtain rfl : (schedule.exec call before).2 = after := congrArg Prod.snd hexec
  cases call with
  | save lesson => cases ht
  | _ => rfl

/-- Only an event that is published adds to the events. -/
theorem published_of_step
    (hexec : schedule.exec t.entry.op t.before = (t.entry.answer, t.after)) :
    t.after.published.length =
      t.before.published.length + if isPublish t.entry then 1 else 0 := by
  obtain ⟨thread, ⟨call, answer⟩, before, after⟩ := t
  obtain rfl : (schedule.exec call before).2 = after := congrArg Prod.snd hexec
  cases call with
  | publish event => simp [schedule, ScheduleCall.exec, isPublish]
  | _ => rfl

theorem free_of_question {booking : Booking} {found : Option Lesson}
    (hexec : schedule.exec t.entry.op t.before = (t.entry.answer, t.after))
    (hentry : t.entry = booking.question found) :
    found = none ↔ ¬ booking.slot.IsTaken t.before := by
  rw [hentry] at hexec
  have hfound := Except.ok.inj (congrArg Prod.fst hexec)
  rw [← hfound, List.find?_eq_none]
  simp [Slot.IsTaken, Lesson.slot, Booking.slot, and_assoc]

end Answers

section Runs

variable {ι : Type} [DecidableEq ι] {booking : ι → Booking} {slot : Slot} {s s' : Schedule}
  {steps early late : List (BookingStep ι)} {t u : BookingStep ι}
  {pool' : ι → Program ScheduleCall.Answer Fault LessonId}

theorem standsIn_of_run (hrun : Runs schedule (bookingPool booking) s steps pool' s') (i : ι) :
    ∃ found, StandsIn ((booking i).script found)
      ((booking i).allowed = true ∧ found = none ∧ (booking i).CanBeScheduled)
      (historyOf i steps) (pool' i) := by
  refine follows_bookLesson (hrun.follows i) fun entry hentry => ?_
  obtain ⟨t, ht, -, rfl⟩ := Runs.exists_step hentry
  exact ⟨t.before, (congrArg Prod.fst (hrun.exec_eq ht)).symm⟩

/-- Each execution asks, saves and publishes once at most. -/
theorem booking_counts (hrun : Runs schedule (bookingPool booking) s steps pool' s') (i : ι) :
    (historyOf i steps).countP isQuestion ≤ 1 ∧ (historyOf i steps).countP isSave ≤ 1 ∧
      (historyOf i steps).countP isPublish ≤ 1 := by
  obtain ⟨found, hstands⟩ := standsIn_of_run hrun i
  have hpart := hstands.part.sublist
  refine ⟨Nat.le_trans hpart.countP_le ((booking i).countP_isQuestion_script found), ?_⟩
  rcases (booking i).script_cases found with ⟨hcan, -, -, hscript⟩ | ⟨-, hnone⟩
  · rw [hscript] at hpart
    exact ⟨hpart.countP_le, hpart.countP_le⟩
  · refine ⟨Nat.le_trans hpart.countP_le ?_, Nat.le_trans hpart.countP_le ?_⟩
    · rw [List.countP_eq_zero.2 fun entry hentry => Bool.eq_false_iff.1 (hnone entry hentry).1]
      exact Nat.zero_le 1
    · rw [List.countP_eq_zero.2 fun entry hentry => Bool.eq_false_iff.1 (hnone entry hentry).2]
      exact Nat.zero_le 1

/-- A booking that saves was told before that its slot is free. -/
theorem opening_of_save
    (hrun : Runs schedule (bookingPool booking) s (early ++ u :: late) pool' s')
    (hu : isSave u.entry = true) :
    ∃ h : (booking u.thread).CanBeScheduled,
      historyOf u.thread early = (booking u.thread).opening ∧
        u.entry = ⟨.save ((booking u.thread).lesson h.1), .ok ()⟩ := by
  obtain ⟨found, hstands⟩ := standsIn_of_run hrun u.thread
  have hpart := hstands.part
  rw [historyOf_append, historyOf_cons_self] at hpart
  rcases (booking u.thread).script_cases found with ⟨hcan, -, -, hscript⟩ | ⟨-, hnone⟩
  · rw [hscript] at hpart
    have hopening := eq_of_append_cons_prefix hpart hu (by simp [Booking.opening, isSave,
      Booking.question]) (by simp [isSave])
    rw [hopening, List.prefix_append_right_inj, List.cons_prefix_cons] at hpart
    exact ⟨hcan, hopening, hpart.1⟩
  · have hnot := (hnone u.entry (hpart.subset (by simp))).1
    rw [hu] at hnot
    cases hnot

/-- A booking that publishes has saved. -/
theorem save_of_publish (hrun : Runs schedule (bookingPool booking) s steps pool' s')
    (ht : t ∈ steps) (hpublishes : isPublish t.entry = true) :
    ∃ u ∈ steps, u.thread = t.thread ∧ isSave u.entry = true := by
  obtain ⟨found, hstands⟩ := standsIn_of_run hrun t.thread
  have hpart := hstands.part
  obtain ⟨before, after, hsplit⟩ := List.append_of_mem (Runs.mem_historyOf ht)
  rw [hsplit] at hpart
  rcases (booking t.thread).script_cases found with ⟨hcan, -, -, hscript⟩ | ⟨-, hnone⟩
  · have hshape : (booking t.thread).script found = ((booking t.thread).opening ++
        [⟨.save ((booking t.thread).lesson hcan.1), .ok ()⟩]) ++
          ⟨.publish (booking t.thread).event, .ok ()⟩ :: [] := by
      rw [hscript]
      simp
    rw [hshape] at hpart
    have hbefore := eq_of_append_cons_prefix hpart hpublishes (by simp [Booking.opening, isPublish,
      Booking.question]) (by simp)
    have hsave : (⟨.save ((booking t.thread).lesson hcan.1), .ok ()⟩ :
        Entry ScheduleCall.Answer Fault) ∈ historyOf t.thread steps := by
      rw [hsplit, hbefore]
      simp
    obtain ⟨u, hu, hthread, hentry⟩ := Runs.exists_step hsave
    refine ⟨u, hu, hthread, ?_⟩
    rw [hentry]
    rfl
  · have hnot := (hnone t.entry (hpart.subset (by simp))).2
    rw [hpublishes] at hnot
    cases hnot

/-- An execution that is over and was told that its slot is free has saved and published, if its
lesson can be scheduled. -/
theorem saved_of_over (hrun : Runs schedule (bookingPool booking) s steps pool' s') {i : ι}
    (hover : (pool' i).isOver = true) (hcan : (booking i).CanBeScheduled) {found : Option Lesson}
    (hasked : (booking i).question found ∈ historyOf i steps) (hfree : found = none) :
    (∃ u ∈ steps, u.thread = i ∧ isSave u.entry = true) ∧
      ∃ u ∈ steps, u.thread = i ∧ isPublish u.entry = true := by
  obtain ⟨answer, hstands⟩ := standsIn_of_run hrun i
  have hhistory := hstands.whole hover
  rw [hhistory] at hasked
  obtain ⟨hallowed, hsame⟩ := (booking i).eq_question_of_mem answer hasked rfl
  have hnone : answer = none := by
    rw [← hfree]
    exact (Except.ok.inj (eq_of_heq (Entry.mk.inj hsame).2)).symm
  rcases (booking i).script_cases answer with ⟨hcan, -, -, hscript⟩ | ⟨hnot, -⟩
  · rw [hscript] at hhistory
    have hsave : (⟨.save ((booking i).lesson hcan.1), .ok ()⟩ : Entry ScheduleCall.Answer Fault) ∈
        historyOf i steps := by
      rw [hhistory]
      simp
    have hpublish : (⟨.publish (booking i).event, .ok ()⟩ : Entry ScheduleCall.Answer Fault) ∈
        historyOf i steps := by
      rw [hhistory]
      simp
    obtain ⟨u, hu, hthread, hentry⟩ := Runs.exists_step hsave
    obtain ⟨v, hv, hvthread, hventry⟩ := Runs.exists_step hpublish
    refine ⟨⟨u, hu, hthread, ?_⟩, v, hv, hvthread, ?_⟩
    · rw [hentry]
      rfl
    · rw [hventry]
      rfl
  · exact absurd ⟨hallowed, hnone, hcan⟩ hnot

theorem published_of_run (hrun : Runs schedule (bookingPool booking) s steps pool' s') :
    s'.published.length = s.published.length + steps.countP fun t => isPublish t.entry := by
  refine hrun.linked.history (H := fun seen now => now.published.length =
    s.published.length + seen.countP fun t => isPublish t.entry) rfl ?_
  intro seen t ht hexec hbefore
  rw [published_of_step hexec, hbefore, List.countP_append, List.countP_singleton]
  omega

/-- **Who saves asked before, and found the slot free.** -/
theorem checksFirst_of_run (hslot : ∀ i, (booking i).slot = slot)
    (hrun : Runs schedule (bookingPool booking) s steps pool' s') :
    ChecksFirst slot.IsTaken (asksInEarnest booking) (fun t => isSave t.entry) steps where
  stays t ht := by
    rintro ⟨lesson, hlesson, hstarts⟩
    refine ⟨lesson, ?_, hstarts⟩
    cases hsaves : isSave t.entry with
    | false =>
      rw [lessons_of_other (hrun.exec_eq ht) hsaves]
      exact hlesson
    | true =>
      obtain ⟨early, late, rfl⟩ := List.append_of_mem ht
      obtain ⟨hcan, -, hentry⟩ := opening_of_save hrun hsaves
      have hexec := hrun.exec_eq ht
      rw [hentry] at hexec
      rw [← congrArg (fun p => p.2.lessons) hexec]
      exact List.mem_append_left _ hlesson
  takes t ht hsaves := by
    obtain ⟨early, late, rfl⟩ := List.append_of_mem ht
    obtain ⟨hcan, -, hentry⟩ := opening_of_save hrun hsaves
    have hexec := hrun.exec_eq ht
    rw [hentry] at hexec
    refine ⟨(booking t.thread).lesson hcan.1, ?_, hslot t.thread⟩
    rw [← congrArg (fun p => p.2.lessons) hexec]
    exact List.mem_append_right _ (List.mem_singleton_self _)
  only t ht htaken hfree := by
    by_contra hother
    obtain ⟨lesson, hlesson, hstarts⟩ := htaken
    rw [lessons_of_other (hrun.exec_eq ht) (Bool.eq_false_iff.2 hother)] at hlesson
    exact hfree ⟨lesson, hlesson, hstarts⟩
  checked := by
    rintro early u late rfl hsaves
    obtain ⟨hcan, hopening, -⟩ := opening_of_save hrun hsaves
    have hasked : (booking u.thread).question none ∈ historyOf u.thread early := by
      rw [hopening]
      simp [Booking.opening]
    obtain ⟨t, ht, hthread, hentry⟩ := Runs.exists_step hasked
    refine ⟨t, ht, hthread, ?_, ?_⟩
    · rw [asksInEarnest, hentry, hthread, decide_eq_true hcan]
      rfl
    · rw [← hslot u.thread]
      exact (free_of_question (hrun.exec_eq (List.mem_append_left _ ht)) hentry).1 rfl
  once := by
    rintro early t middle u late rfl ht hu
    exact threads_ne_of_countP_le_one (booking_counts hrun t.thread).2.1 ht hu

/-- A booking whose question is answered that the slot is free saves its lesson. -/
theorem saves_of_free (hslot : ∀ i, (booking i).slot = slot)
    (hrun : Runs schedule (bookingPool booking) s steps pool' s')
    (hover : ∀ t ∈ steps, (pool' t.thread).isOver = true) (ht : t ∈ steps)
    (hasks : asksInEarnest booking t = true) (hfree : ¬ slot.IsTaken t.before) :
    ∃ u ∈ steps, u.thread = t.thread ∧ isSave u.entry = true := by
  obtain ⟨hquestion, hcan⟩ := Bool.and_eq_true_iff.1 hasks
  obtain ⟨found, hstands⟩ := standsIn_of_run hrun t.thread
  have hmem := Runs.mem_historyOf ht
  obtain ⟨-, hentry⟩ :=
    (booking t.thread).eq_question_of_mem found (hstands.part.subset hmem) hquestion
  rw [← hslot t.thread] at hfree
  have hnone := (free_of_question (hrun.exec_eq ht) hentry).2 hfree
  rw [hentry] at hmem
  exact (saved_of_over hrun (hover t ht) (of_decide_eq_true hcan) hmem hnone).1

/-- An execution that succeeded has saved. -/
theorem saved_of_value (hrun : Runs schedule (bookingPool booking) s steps pool' s') {i : ι}
    (hvalue : (pool' i).value?.isSome = true) :
    ∃ u ∈ steps, u.thread = i ∧ isSave u.entry = true := by
  obtain ⟨found, hstands⟩ := standsIn_of_run hrun i
  obtain ⟨hallowed, rfl, hcan⟩ := hstands.value hvalue
  have hover : (pool' i).isOver = true := by
    obtain ⟨id, hid⟩ := Option.isSome_iff_exists.1 hvalue
    rw [value?_eq_some.1 hid]
    rfl
  refine (saved_of_over hrun hover hcan ?_ rfl).1
  rw [hstands.whole hover, Booking.script, if_pos hallowed]
  simp

/-- **One save is one student.** -/
theorem goesToOne_of_save (hrun : Runs schedule (bookingPool booking) s steps pool' s')
    (hone : (steps.countP fun t => isSave t.entry) ≤ 1) : GoesToOne pool' s s' := by
  have hsame : ∀ t ∈ steps, ∀ u ∈ steps, isSave t.entry = true → isSave u.entry = true →
      t.thread = u.thread := by
    intro t ht u hu htsaves husaves
    by_contra hthread
    have hne : t ≠ u := fun h => hthread (congrArg Step.thread h)
    exact Nat.not_lt.2 hone (one_lt_countP_of_mem ht hu hne htsaves husaves)
  constructor
  · intro i j hi hj
    obtain ⟨t, ht, rfl, htsaves⟩ := saved_of_value hrun hi
    obtain ⟨u, hu, rfl, husaves⟩ := saved_of_value hrun hj
    exact hsame t ht u hu htsaves husaves
  · rw [published_of_run hrun]
    refine Nat.add_le_add_left (Nat.le_of_not_lt fun hmore => ?_) _
    obtain ⟨early, t, middle, u, late, rfl, ht, hu⟩ := exists_two hmore
    have hthreads : t.thread ≠ u.thread :=
      threads_ne_of_countP_le_one (booking_counts hrun t.thread).2.2 ht hu
    obtain ⟨v, hv, hvthread, hvsaves⟩ := save_of_publish hrun (t := t) (by simp) ht
    obtain ⟨w, hw, hwthread, hwsaves⟩ := save_of_publish hrun (t := u) (by simp) hu
    exact hthreads (hvthread.symm.trans ((hsame v hv w hw hvsaves hwsaves).trans hwthread))

theorem publish_of_save (hrun : Runs schedule (bookingPool booking) s steps pool' s')
    (ht : t ∈ steps) (hover : (pool' t.thread).isOver = true) (hsaves : isSave t.entry = true) :
    ∃ u ∈ steps, u.thread = t.thread ∧ isPublish u.entry = true := by
  obtain ⟨early, late, rfl⟩ := List.append_of_mem ht
  obtain ⟨hcan, hopening, -⟩ := opening_of_save hrun hsaves
  refine (saved_of_over hrun hover hcan ?_ rfl).2
  rw [historyOf_append, hopening]
  simp [Booking.opening]

/-- Two saves are two events, when all are over. -/
theorem save_of_goesToOne (hrun : Runs schedule (bookingPool booking) s steps pool' s')
    (hover : ∀ t ∈ steps, (pool' t.thread).isOver = true) (hone : GoesToOne pool' s s') :
    (steps.countP fun t => isSave t.entry) ≤ 1 := by
  refine Nat.le_of_not_lt fun hmore => ?_
  obtain ⟨early, t, middle, u, late, rfl, ht, hu⟩ := exists_two hmore
  have hthreads : t.thread ≠ u.thread :=
    threads_ne_of_countP_le_one (booking_counts hrun t.thread).2.1 ht hu
  obtain ⟨v, hv, hvthread, hvpublishes⟩ :=
    publish_of_save hrun (t := t) (by simp) (hover t (by simp)) ht
  obtain ⟨w, hw, hwthread, hwpublishes⟩ :=
    publish_of_save hrun (t := u) (by simp) (hover u (by simp)) hu
  have hne : v ≠ w := by
    rintro rfl
    exact hthreads (hvthread.symm.trans hwthread)
  have htold := hone.told
  rw [published_of_run hrun] at htold
  exact Nat.not_lt.2 (Nat.le_of_add_le_add_left htold)
    (one_lt_countP_of_mem hv hw hne hvpublishes hwpublishes)

/-- **When a slot goes to one student.** Any number of bookings of one slot, in any interleaving
of their calls: if between the question and the save of a booking no other that can be scheduled
asks, then at most one succeeds and at most one is published; and if all that began are over,
only then. -/
theorem slot_goes_to_one_iff (hslot : ∀ i, (booking i).slot = slot)
    (hrun : Runs schedule (bookingPool booking) s steps pool' s') :
    (NobodyAsksInBetween booking steps → GoesToOne pool' s s') ∧
      ((∀ t ∈ steps, (pool' t.thread).isOver = true) →
        (GoesToOne pool' s s' ↔ NobodyAsksInBetween booking steps)) := by
  have hfirst := checksFirst_of_run hslot hrun
  refine ⟨fun hapart => goesToOne_of_save hrun (hfirst.countP_le_one hrun.linked hapart),
    fun hover => ?_⟩
  have hone : GoesToOne pool' s s' ↔ (steps.countP fun t => isSave t.entry) ≤ 1 :=
    ⟨save_of_goesToOne hrun hover, goesToOne_of_save hrun⟩
  rw [hone]
  refine hfirst.countP_le_one_iff hrun.linked ?_ fun t ht => saves_of_free hslot hrun hover ht
  rintro early t middle u late rfl ht hu
  exact threads_ne_of_countP_le_one (booking_counts hrun t.thread).1
    (Bool.and_eq_true_iff.1 ht).1 (Bool.and_eq_true_iff.1 hu).1

end Runs

/-! ### Two students -/

/-- A student books for himself an hour that starts at minute 60, at moment 0. -/
def bookedBy (student : Bool) : Booking where
  request := ⟨⟨.replicate 16 1⟩, ⟨.replicate 16 (cond student 4 3)⟩, ⟨.replicate 16 2⟩,
    ⟨.replicate 16 (cond student 4 3)⟩, 60 * minute, 60⟩
  allowed := true
  now := 0
  id := ⟨.replicate 16 (cond student 6 5)⟩

/-- One student books, and then the other. -/
def inTurn : List (BookingStep Bool) × (Bool → Program ScheduleCall.Answer Fault LessonId) ×
    Schedule :=
  play schedule [false, false, false, false, false, false, true, true] (bookingPool bookedBy) {}

/-- Both ask whether the slot is free, and then both save. -/
def atOnce : List (BookingStep Bool) × (Bool → Program ScheduleCall.Answer Fault LessonId) ×
    Schedule :=
  play schedule [false, true, false, true, false, true, false, true, false, true, false, true]
    (bookingPool bookedBy) {}

/-- The second of two students is told that the slot is taken. -/
theorem slot_in_turn :
    GoesToOne inTurn.2.1 {} inTurn.2.2 ∧ NobodyAsksInBetween bookedBy inTurn.1 := by
  have hrun : Runs schedule (bookingPool bookedBy) {} inTurn.1 inTurn.2.1 inTurn.2.2 :=
    play_runs schedule _ (bookingPool bookedBy) {}
  have hone : GoesToOne inTurn.2.1 {} inTurn.2.2 := by
    refine ⟨?_, Nat.le_refl 1⟩
    rintro (- | -) (- | -) hi hj
    · rfl
    · cases hj
    · cases hi
    · rfl
  have hslot : ∀ i, (bookedBy i).slot = (bookedBy false).slot := fun _ => rfl
  refine ⟨hone, ((slot_goes_to_one_iff hslot hrun).2 ?_).1 hone⟩
  intro t ht
  cases t.thread <;> rfl

/-- **A slot goes to two students.** Both are told that it is free; both lessons are saved and
published. -/
theorem slot_goes_to_two :
    Runs schedule (bookingPool bookedBy) {} atOnce.1 atOnce.2.1 atOnce.2.2 ∧
      (∀ i, (bookedBy i).slot = (bookedBy false).slot) ∧
      (bookedBy false).request.student ≠ (bookedBy true).request.student ∧
      (∀ i, (atOnce.2.1 i).value? = some (bookedBy i).id) ∧
      atOnce.2.2.published.length = 2 ∧ ¬ GoesToOne atOnce.2.1 {} atOnce.2.2 := by
  refine ⟨play_runs schedule _ (bookingPool bookedBy) {}, fun _ => rfl, by decide, ?_, rfl, ?_⟩
  · intro i
    cases i <;> rfl
  · intro h
    exact absurd h.told (by decide)

end Pdr.Scheduling
