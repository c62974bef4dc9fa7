import Pdr.Jobs.Journal
import Pdr.StoreProgram.TwoRuns

/-!
# The entry that a run closes

A run opens an entry in the journal when it begins and closes it with its record when it ends. The
record is composed of the first and the last reading of the clock, and a record that ends before
it starts is refused; the run asks for the value of the refusal, which is an error of the code. So
the entry is closed exactly if the last reading is not before the first, and the work that was done
in the meantime has no record otherwise.

## Main definitions

* `Pdr.Jobs.endReading`: how often the clock is read before the last time.
* `Pdr.Jobs.Answers`: the calls of a run return.

## Main results

* `Pdr.Jobs.returns_performPlan`: the loop ends in front of that reading, and writes nothing.
* `Pdr.Jobs.entry_is_closed_iff`: when a run closes its entry.
* `Pdr.Jobs.set_back_leaves_it_open`: a clock that is set back.
-/

namespace Pdr.Jobs

open StoreProgram Program Identity

/-! ### The last reading -/

/-- How often the clock is read before the last time, when so many rounds are over and so many
pieces of work are left. The loop ends when the lock is lost, when the time is over, or after the
last piece. -/
def endReading (env : RunEnvironment) (settings : JobSettings) : Nat → Nat → Nat
  | rounds, 0 => rounds + 1
  | rounds, left + 1 =>
    if !env.held rounds then rounds + 1
    else if settings.attempt ≤ env.clock (rounds + 1) - env.clock 0 then rounds + 2
    else endReading env settings (rounds + 1) left

/-- What a run writes into the journal. -/
def JobCall.written? : JobCall → Option JournalCall
  | .journal entry => some entry
  | _ => none

/-! ### Calls that return -/

/-- The calls of a run of the job return: the clock, the lock, the plan and the work as the
environment has it, the ledger with some answer, and the journal. -/
structure Answers {σ : Type} (machine : Machine JobCall.Answer Fault σ) (job : JobName)
    (items : List WorkItem) : Prop where
  now : ∀ moment s, ∃ s', machine.exec (.now moment) s = (.ok moment, s')
  isHeld : ∀ held s, ∃ s', machine.exec (.isHeld held) s = (.ok held, s')
  plan : ∀ at_ planned s, ∃ s', machine.exec (.plan at_ planned) s = (planned, s')
  perform : ∀ item ended s, ∃ s', machine.exec (.perform job item ended) s = (ended, s')
  claim : ∀ item ∈ items, ∀ s, ∃ isNew s',
    machine.exec (.claim item.tenant job item.key) s = (.ok isNew, s')
  started : ∀ at_ s, ∃ s', machine.exec (.journal (.started job at_)) s = (.ok (), s')
  finished : ∀ record s, ∃ s', machine.exec (.journal (.finished job record)) s = (.ok (), s')

/-- A claim whose key is not blank is answered. -/
theorem exists_claimEffect {effect : Effect} (h : notBlank effect.key = true)
    (ledger : Table Effect) :
    ∃ isNew ledger', claimEffect effect ledger = (.ok isNew, ledger') := by
  unfold claimEffect Table.insertUnless
  by_cases hknown : ledger.rows.any (· = effect) = true
  · rw [if_pos hknown]
    exact ⟨false, ledger, rfl⟩
  · have hapart : ∀ stored ∈ ledger.rows, Schema.clash stored effect = false := by
      intro stored hstored
      refine Bool.eq_false_iff.2 fun hsame => hknown (List.any_eq_true.2 ⟨stored, hstored, ?_⟩)
      exact hsame
    obtain ⟨ledger', hinsert⟩ := Table.exists_insert h hapart
    rw [if_neg hknown, hinsert]
    exact ⟨true, ledger', rfl⟩

/-- The stores answer where no key is blank. -/
theorem answers_cluster {job : JobName} {items : List WorkItem}
    (h : ∀ item ∈ items, notBlank item.key = true) : Answers cluster job items where
  now _ s := ⟨s, rfl⟩
  isHeld _ s := ⟨s, rfl⟩
  plan _ _ s := ⟨s, rfl⟩
  perform _ _ s := ⟨_, rfl⟩
  claim item hitem s := by
    obtain ⟨isNew, ledger', hclaim⟩ :=
      @exists_claimEffect ⟨item.tenant, job, item.key⟩ (h item hitem) s.ledger
    exact ⟨isNew, { s with ledger := ledger' }, by simp only [cluster, JobCall.exec, hclaim]⟩
  started at_ s := by
    obtain ⟨table, hupsert⟩ := exists_started job at_ s.journal
    refine ⟨{ s with journal := table }, ?_⟩
    simp only [cluster, JobCall.exec, JournalCall.exec, hupsert, commit]
  finished record s := by
    obtain ⟨table, hupdate⟩ := exists_finished job record s.journal
    refine ⟨{ s with journal := table }, ?_⟩
    simp only [cluster, JobCall.exec, JournalCall.exec, hupdate, commit]

section Run

variable {σ : Type} {machine : Machine JobCall.Answer Fault σ} {env : RunEnvironment}
  {job : JobName} {settings : JobSettings} {items : List WorkItem} {s : σ}

theorem Answers.tail {item : WorkItem} (h : Answers machine job (item :: items)) :
    Answers machine job items :=
  { h with claim := fun other hother => h.claim other (List.mem_cons_of_mem item hother) }

/-- The program returns such a value and writes nothing into the journal. -/
def Returns {α : Type} (machine : Machine JobCall.Answer Fault σ) (good : α → Prop)
    (program : JobProgram α) (s : σ) : Prop :=
  (∃ value s', program.run machine s = (.ok value, s') ∧ good value) ∧
    (program.calls machine s).filterMap JobCall.written? = []

theorem returns_done {α : Type} {good : α → Prop} {value : α} (h : good value) :
    Returns machine good (done value) s := ⟨⟨value, s, rfl, h⟩, rfl⟩

/-- A call that returns and does not write, and then the rest. -/
theorem returns_request_bind {α : Type} {good : α → Prop} {op : JobCall} {answer : op.Answer}
    {next : op.Answer → JobProgram α} (hquiet : op.written? = none)
    (hanswer : ∃ s', machine.exec op s = (.ok answer, s'))
    (hnext : ∀ s', Returns machine good (next answer) s') :
    Returns machine good (request op >>= next) s := by
  obtain ⟨s', hexec⟩ := hanswer
  obtain ⟨hvalue, hcalls⟩ := hnext s'
  refine ⟨?_, ?_⟩
  · rwa [run_bind, run_perform, hexec]
  · rw [calls_bind, calls_perform, run_perform, hexec, List.filterMap_append, hcalls,
      List.append_nil, List.filterMap_cons_none hquiet, List.filterMap_nil]

/-- **The loop** returns in front of the last reading, and writes nothing into the journal. -/
theorem returns_performPlan (h : Answers machine job items) (hwork : ∀ n, env.work n = .ok ())
    {progress : Progress} (hreadings : progress.readings = progress.asked + 1) (s : σ) :
    Returns machine
      (fun ended => ended.2.readings = endReading env settings progress.asked items.length)
      (performPlan env job settings (env.clock 0) items progress) s := by
  induction items generalizing progress s with
  | nil => exact returns_done hreadings
  | cons item items ih =>
    rw [performPlan, List.length_cons, endReading]
    refine returns_request_bind rfl (h.isHeld _ s) fun s => ?_
    by_cases hheld : (!env.held progress.asked) = true
    · rw [if_pos hheld]
      simp only [if_pos hheld]
      exact returns_done hreadings
    simp only [if_neg hheld]
    refine returns_request_bind rfl (h.now _ s) fun s => ?_
    rw [hreadings]
    by_cases hlate : settings.attempt ≤ env.clock (progress.asked + 1) - env.clock 0
    · simp only [if_pos hlate]
      exact returns_done rfl
    simp only [if_neg hlate]
    obtain ⟨isNew, hclaim⟩ := h.claim item List.mem_cons_self s
    refine returns_request_bind rfl hclaim fun s => ?_
    cases isNew with
    | false => exact ih h.tail rfl s
    | true =>
      obtain ⟨s', hperform⟩ := h.perform item (env.work progress.produced) s
      have hended : machine.exec (.perform job item (env.work progress.produced)) s =
          (.ok (), s') := by rw [hperform, hwork]
      exact returns_request_bind rfl ⟨s', hended⟩ fun s => ih h.tail rfl s

/-- What follows a call that returns. -/
theorem run_request_bind {α : Type} {op : JobCall} {answer : op.Answer}
    {next : op.Answer → JobProgram α} {s s' : σ} (hexec : machine.exec op s = (.ok answer, s')) :
    ((request op >>= next).run machine s).1 = ((next answer).run machine s').1 ∧
      ((request op >>= next).calls machine s).filterMap JobCall.written? =
        op.written?.toList ++ ((next answer).calls machine s').filterMap JobCall.written? := by
  constructor
  · rw [run_bind, run_perform, hexec]
  · rw [calls_bind, calls_perform, run_perform, hexec, List.filterMap_append]
    cases hwritten : op.written? <;> simp [hwritten]

theorem compose_of_le {first last : Int} (hle : first ≤ last) (outcome : Outcome)
    (produced repeated : Nat) :
    ∃ record, RunRecord.compose first last outcome produced repeated = .ok record := by
  rw [RunRecord.compose, dif_pos hle, dif_pos ⟨Int.natCast_nonneg _, Int.natCast_nonneg _⟩]
  exact ⟨_, rfl⟩

/-- The error of the code that a run ends with if its record is refused. -/
def askedForValue : Fault :=
  .thrown (.runtime ("Result::Value() у результата с ошибкой: " ++ "job_run_ends_before_it_starts"))

theorem valueOf_compose_of_lt {first last : Int} (hlt : last < first) (outcome : Outcome)
    (produced repeated : Int) :
    valueOf (RunRecord.compose first last outcome produced repeated) = .error askedForValue := by
  rw [RunRecord.compose, dif_neg (not_le.2 hlt)]
  rfl

/-- What is left of a run after its loop. -/
def endOfRun (env : RunEnvironment) (job : JobName) (outcome : Outcome) (progress : Progress) :
    JobProgram RunRecord := do
  let finishedAt ← request (.now (env.clock progress.readings))
  let record ← ofExcept (valueOf (RunRecord.compose (env.clock 0) finishedAt outcome
    progress.produced progress.repeated))
  request (.journal (.finished job record))
  return record

theorem run_endOfRun (h : Answers machine job items) (outcome : Outcome) (progress : Progress)
    (s : σ) :
    (env.clock 0 ≤ env.clock progress.readings → ∃ record,
      ((endOfRun env job outcome progress).run machine s).1 = .ok record ∧
        ((endOfRun env job outcome progress).calls machine s).filterMap JobCall.written? =
          [.finished job record]) ∧
    (env.clock progress.readings < env.clock 0 →
      ((endOfRun env job outcome progress).run machine s).1 = .error askedForValue ∧
        ((endOfRun env job outcome progress).calls machine s).filterMap JobCall.written? = []) := by
  obtain ⟨s', hnow⟩ := h.now (env.clock progress.readings) s
  rw [endOfRun, (run_request_bind hnow).1, (run_request_bind hnow).2]
  constructor
  · intro hle
    obtain ⟨record, hrecord⟩ := compose_of_le hle outcome progress.produced progress.repeated
    obtain ⟨s'', hfinished⟩ := h.finished record s'
    have hvalue : valueOf (RunRecord.compose (env.clock 0) (env.clock progress.readings) outcome
        progress.produced progress.repeated) = .ok record := by rw [hrecord]; rfl
    rw [hvalue, ofExcept_ok, done_bind, (run_request_bind hfinished).1,
      (run_request_bind hfinished).2]
    exact ⟨record, rfl, rfl⟩
  · intro hlt
    rw [valueOf_compose_of_lt hlt, ofExcept_error, raise_bind]
    exact ⟨rfl, rfl⟩

/-- **When a run closes its entry.** It returns a record and writes that record after the beginning
of the run, exactly if the last reading of the clock is not before the first; else it ends with an
error of the code, and only its beginning is written. -/
theorem entry_is_closed_iff (h : Answers machine job items) (hwork : ∀ n, env.work n = .ok ())
    (hplan : env.plan (env.clock 0) = .ok items) (settings : JobSettings) (s : σ) :
    ((∃ record, ((runPeriodicJob env job settings).run machine s).1 = .ok record ∧
        ((runPeriodicJob env job settings).calls machine s).filterMap JobCall.written? =
          [.started job (env.clock 0), .finished job record]) ↔
      env.clock 0 ≤ env.clock (endReading env settings 0 items.length)) ∧
    (env.clock (endReading env settings 0 items.length) < env.clock 0 →
      ((runPeriodicJob env job settings).run machine s).1 = .error askedForValue ∧
      ((runPeriodicJob env job settings).calls machine s).filterMap JobCall.written? =
        [.started job (env.clock 0)]) := by
  obtain ⟨s₁, hbegan⟩ := h.now (env.clock 0) s
  obtain ⟨s₂, hstarted⟩ := h.started (env.clock 0) s₁
  obtain ⟨s₃, hplanned⟩ := h.plan (env.clock 0) (env.plan (env.clock 0)) s₂
  rw [hplan] at hplanned
  obtain ⟨⟨⟨outcome, progress⟩, s₄, hloop, hreadings⟩, hquiet⟩ :=
    @returns_performPlan σ machine env job settings items h hwork ⟨1, 0, 0, 0⟩ rfl s₃
  obtain ⟨hcloses, hfails⟩ := @run_endOfRun σ machine env job items h outcome progress s₄
  have hrun : ((runPeriodicJob env job settings).run machine s).1 =
      ((endOfRun env job outcome progress).run machine s₄).1 := by
    rw [runPeriodicJob, (run_request_bind hbegan).1, (run_request_bind hstarted).1, hplan,
      (run_request_bind hplanned).1, run_bind, hloop]
    rfl
  have hwritten : ((runPeriodicJob env job settings).calls machine s).filterMap
      JobCall.written? = .started job (env.clock 0) ::
        ((endOfRun env job outcome progress).calls machine s₄).filterMap JobCall.written? := by
    rw [runPeriodicJob, (run_request_bind hbegan).2, (run_request_bind hstarted).2, hplan,
      (run_request_bind hplanned).2, calls_bind, List.filterMap_append, hquiet, hloop]
    rfl
  rw [hrun, hwritten, ← show progress.readings = endReading env settings 0 items.length
    from hreadings]
  refine ⟨⟨?_, fun hle => ?_⟩, fun hlt => ?_⟩
  · rintro ⟨record, hrecord, -⟩
    by_contra hlt
    rw [(hfails (not_le.1 hlt)).1] at hrecord
    cases hrecord
  · obtain ⟨record, hrecord, hclosed⟩ := hcloses hle
    exact ⟨record, hrecord, by rw [hclosed]⟩
  · obtain ⟨herror, hnothing⟩ := hfails hlt
    exact ⟨herror, by rw [hnothing]⟩

end Run

/-! ### A clock that is set back -/

/-- The clock stands at 10 when the run begins, and at 5 ever after. -/
def setBack : RunEnvironment where
  clock reading := if reading = 0 then 10 else 5
  held _ := true
  plan _ := .ok [⟨remindersTenant, ascii "a"⟩]
  work _ := .ok ()

/-- **A clock that is set back leaves the entry open.** The work is claimed and done; the run ends
with an error of the code, and only its beginning is in the journal. -/
theorem set_back_leaves_it_open :
    ((runPeriodicJob setBack reminders remindersSettings).run cluster {}).1 =
        .error askedForValue ∧
      ((runPeriodicJob setBack reminders remindersSettings).calls cluster {}).filterMap
        JobCall.written? = [.started reminders 10] ∧
      ((runPeriodicJob setBack reminders remindersSettings).run cluster {}).2.performed =
        [⟨remindersTenant, reminders, ascii "a"⟩] :=
  ⟨by rfl, by rfl, by rfl⟩

/-- A run whose clock goes forward closes its entry. -/
theorem entry_is_closed_of_reminders :
    ∃ record, ((runPeriodicJob remindersAround reminders remindersSettings).run cluster {}).1 =
        .ok record ∧
      ((runPeriodicJob remindersAround reminders remindersSettings).calls cluster {}).filterMap
        JobCall.written? = [.started reminders 10, .finished reminders record] :=
  (entry_is_closed_iff (answers_cluster (by decide +kernel)) (fun _ => rfl) rfl remindersSettings
    {}).1.2 le_rfl

end Pdr.Jobs
