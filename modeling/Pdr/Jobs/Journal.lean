import Pdr.Jobs.RunPeriodicJob
import Pdr.StoreProgram.Sequence

/-!
# What the journal remembers

The row of a job tells of the attempt that began last and of the run that ended last. Most
columns belong to one of the two; the outcome belongs to both. When an attempt begins, the
outcome becomes that of a job at work, and a row with this outcome is not read as a run. So the
journal knows the last run only until the next attempt begins, and a job that is at work or
died at it looks like a job that never ran, although its last run is still in the row.

## Main definitions

* `Pdr.Jobs.JournalEvent`, `Pdr.Jobs.eventsOf`: what a record of calls writes about a job.
* `Pdr.Jobs.rowAfter`: the row that the events leave.
* `Pdr.Jobs.EndsWithRun`: no attempt began since the last run ended.

## Main results

* `Pdr.Jobs.rowOf_of_linked`: after any calls the row of a job is that of its events.
* `Pdr.Jobs.journal_of_cluster`: the journal of any runs of jobs is that of their calls to it.
* `Pdr.Jobs.last_is_latest_iff`: exactly when the journal knows the last run.
* `Pdr.Jobs.running_job_never_ran`: a job at work is reported silent.
-/

namespace Pdr.Jobs

open StoreProgram Identity

/-! ### The events of a job -/

/-- What is written about a job. -/
inductive JournalEvent where
  | began (at_ : Int)
  | ended (record : RunRecord)

/-- What a call writes about a job. -/
def JournalCall.event (job : JobName) : JournalCall → Option JournalEvent
  | .started other at_ => if other = job then some (.began at_) else none
  | .finished other record => if other = job then some (.ended record) else none
  | .last _ => none

/-- What a record of calls writes about a job, in order. -/
def eventsOf {ι : Type} (job : JobName)
    (steps : List (Step ι JournalCall.Answer Fault (Table JobRunRow))) : List JournalEvent :=
  steps.filterMap fun t => t.entry.op.event job

/-- The record that ends a run. -/
def JournalEvent.record : JournalEvent → Option RunRecord
  | .began _ => none
  | .ended record => some record

/-- The run that ended last. -/
def latestRun (events : List JournalEvent) : Option RunRecord :=
  (events.filterMap JournalEvent.record).getLast?

/-- The last thing written is the end of a run, and an attempt began before. -/
def EndsWithRun (events : List JournalEvent) : Prop :=
  ∃ earlier record at_, events = earlier ++ [.ended record] ∧ JournalEvent.began at_ ∈ earlier

/-- What an event makes of the row of a job. The end of a run changes a row that is there. -/
def written (job : JobName) (row : Option JobRunRow) : JournalEvent → Option JobRunRow
  | .began at_ =>
    some ((row.map (JournalCall.withAttempt at_)).getD
      ⟨job, at_, none, none, none, .running, 0, 0, 1⟩)
  | .ended record => row.map (JournalCall.withRecord record)

/-- The row that the events leave. -/
def rowAfter (job : JobName) (events : List JournalEvent) : Option JobRunRow :=
  events.foldl (written job) none

/-! ### What is read of the row that events leave -/

section Events

variable {job : JobName} {events : List JournalEvent} {record : RunRecord} {at_ : Int}

theorem rowAfter_concat (event : JournalEvent) :
    rowAfter job (events ++ [event]) = written job (rowAfter job events) event := by
  rw [rowAfter, List.foldl_concat, ← rowAfter]

/-- There is a row as soon as an attempt began. -/
theorem isSome_rowAfter :
    (rowAfter job events).isSome = true ↔ ∃ at_, JournalEvent.began at_ ∈ events := by
  induction events using List.reverseRecOn with
  | nil => simp [rowAfter]
  | append_singleton events event ih =>
    rw [rowAfter_concat]
    cases event with
    | began at_ => exact iff_of_true rfl ⟨at_, by simp⟩
    | ended record => simpa [written] using ih

theorem recordOf_began :
    (rowAfter job (events ++ [.began at_])).bind JournalCall.recordOf = none := by
  rw [rowAfter_concat, written, Option.bind_some]
  cases rowAfter job events with
  | none => rfl
  | some row =>
    rw [Option.map_some, Option.getD_some, JournalCall.recordOf, JournalCall.withAttempt]
    split <;> rfl

/-- A run that ended is read back as it was, if there is a row for it. -/
theorem recordOf_ended :
    (rowAfter job (events ++ [.ended record])).bind JournalCall.recordOf =
      (rowAfter job events).map fun _ => record := by
  rw [rowAfter_concat, written]
  cases rowAfter job events with
  | none => rfl
  | some row =>
    simp only [Option.map_some, Option.bind_some, JournalCall.recordOf, JournalCall.withRecord,
      outcomeFrom_stored, RunRecord.compose_self]
    rfl

/-- What is read is the run that ended last, exactly when nothing began since; else nothing. -/
theorem recordOf_rowAfter (job : JobName) (hlatest : latestRun events = some record) :
    ((rowAfter job events).bind JournalCall.recordOf = some record ∧ EndsWithRun events) ∨
      ((rowAfter job events).bind JournalCall.recordOf = none ∧ ¬ EndsWithRun events) := by
  rcases List.eq_nil_or_concat events with rfl | ⟨earlier, event, rfl⟩
  · cases hlatest
  rw [List.concat_eq_append] at hlatest ⊢
  cases event with
  | began at_ =>
    refine Or.inr ⟨recordOf_began, ?_⟩
    rintro ⟨others, other, _, hsame, -⟩
    cases (List.append_inj' hsame rfl).2
  | ended last =>
    obtain rfl : last = record := by
      simpa [latestRun, JournalEvent.record] using hlatest
    rw [recordOf_ended]
    by_cases hbegan : ∃ at_, JournalEvent.began at_ ∈ earlier
    · obtain ⟨row, hrow⟩ := Option.isSome_iff_exists.1 (isSome_rowAfter.2 hbegan)
      obtain ⟨at_, hmem⟩ := hbegan
      exact Or.inl ⟨by rw [hrow, Option.map_some], earlier, last, at_, rfl, hmem⟩
    · have hrow : rowAfter job earlier = none :=
        Option.not_isSome_iff_eq_none.1 fun hsome => hbegan (isSome_rowAfter.1 hsome)
      refine Or.inr ⟨by rw [hrow, Option.map_none], ?_⟩
      rintro ⟨others, other, at_, hsame, hmem⟩
      obtain ⟨rfl, -⟩ := List.append_inj' hsame rfl
      exact hbegan ⟨at_, hmem⟩

end Events

/-! ### The row that calls leave -/

/-- The row of a job. -/
def rowOf (job : JobName) (table : Table JobRunRow) : Option JobRunRow :=
  table.find? fun row => row.job = job

section Calls

variable {job : JobName} {table table' : Table JobRunRow}

theorem job_of_rowOf {row : JobRunRow} (h : rowOf job table = some row) : row.job = job := by
  have hwanted := Table.wanted_of_find? h
  exact of_decide_eq_true hwanted

theorem clash_of_job {a b : JobRunRow} (ha : decide (a.job = job) = true)
    (hb : decide (b.job = job) = true) : Schema.clash a b = true :=
  decide_eq_true ((of_decide_eq_true ha).trans (of_decide_eq_true hb).symm)

/-- What is read is read of the row of the job. -/
theorem lastRun_eq :
    JournalCall.lastRun job table = (rowOf job table).bind JournalCall.recordOf := by
  rw [JournalCall.lastRun]
  cases hrow : rowOf job table with
  | none =>
    have hnone : table.find? (fun row => row.job = job && row.finishedAt.isSome) = none := by
      refine List.find?_eq_none.2 fun row hmem hwanted => ?_
      exact List.find?_eq_none.1 hrow row hmem (Bool.and_eq_true_iff.1 hwanted).1
    rw [hnone, Option.bind_none]
  | some row =>
    obtain ⟨hmem, hjob⟩ := (Table.find?_eq_some_iff fun a b => clash_of_job).1 hrow
    by_cases hfinished : row.finishedAt.isSome = true
    · have hfound : table.find? (fun row => row.job = job && row.finishedAt.isSome) = some row := by
        refine (Table.find?_eq_some_iff fun a b ha hb => ?_).2 ⟨hmem, by rw [hjob, hfinished]; rfl⟩
        exact clash_of_job (Bool.and_eq_true_iff.1 ha).1 (Bool.and_eq_true_iff.1 hb).1
      rw [hfound]
    · have hnone : table.find? (fun row => row.job = job && row.finishedAt.isSome) = none := by
        refine List.find?_eq_none.2 fun other hother hwanted => ?_
        obtain ⟨hsame, hended⟩ := Bool.and_eq_true_iff.1 hwanted
        obtain rfl := table.eq_of_clash hother hmem (clash_of_job hsame hjob)
        exact hfinished hended
      rw [hnone, Option.bind_some, JournalCall.recordOf,
        Option.not_isSome_iff_eq_none.1 hfinished]
      cases row.startedAt <;> rfl

theorem check_withAttempt {row : JobRunRow} (at_ : Int) (h : Schema.check row = true) :
    Schema.check (JournalCall.withAttempt at_ row) = true := by
  simp only [Schema.check, Bool.and_eq_true, decide_eq_true_eq] at h
  obtain ⟨hwhole, ⟨hproduced, hrepeated⟩, hruns⟩ := h
  have hmore : 0 ≤ row.runs + 1 := by omega
  simp only [Schema.check, Bool.and_eq_true]
  exact ⟨hwhole, ⟨decide_eq_true hproduced, decide_eq_true hrepeated⟩, decide_eq_true hmore⟩

theorem check_withRecord {row : JobRunRow} (record : RunRecord) (h : Schema.check row = true) :
    Schema.check (JournalCall.withRecord record row) = true := by
  have htook : 0 ≤ record.took := by
    rw [RunRecord.took]
    exact Int.sub_nonneg_of_le record.inOrder
  have hcounted := record.counted
  have horder := record.inOrder
  simp only [Schema.check, JournalCall.withRecord, Bool.and_eq_true, decide_eq_true_eq] at h ⊢
  simp [horder, hcounted, Int.ediv_nonneg htook, h.2.2]

/-- A change that leaves the job as it is makes no two rows share one. -/
theorem clash_of_change {chosen : JobRunRow → Bool} {change : JobRunRow → JobRunRow}
    (hjob : ∀ row, (change row).job = row.job) (a b : JobRunRow)
    (h : Schema.clash (if chosen a then change a else a)
      (if chosen b then change b else b) = true) : Schema.clash a b = true := by
  have hsame : ∀ row : JobRunRow, (if chosen row then change row else row).job = row.job := by
    intro row
    split
    · exact hjob row
    · rfl
  have hclash := of_decide_eq_true h
  rw [hsame, hsame] at hclash
  exact decide_eq_true hclash

/-- What a change of one job's row makes of the rows of all jobs. -/
theorem rowOf_updateWhere {other : JobName} {change : JobRunRow → JobRunRow}
    (hjob : ∀ row, (change row).job = row.job)
    (h : table.updateWhere (fun row => row.job = other) change = some table') :
    rowOf job table' = if other = job then (rowOf job table).map change else rowOf job table := by
  rw [rowOf, Table.find?_updateWhere h fun row _ => by rw [hjob], ← rowOf]
  cases hrow : rowOf job table with
  | none => simp
  | some row =>
    have hmine := job_of_rowOf hrow
    simp only [Option.map_some, decide_eq_true_eq, hmine, eq_comm (a := job)]
    split <;> rfl

theorem check_newRow (job : JobName) (at_ : Int) :
    Schema.check (⟨job, at_, none, none, none, .running, 0, 0, 1⟩ : JobRunRow) = true := rfl

theorem exists_started (job : JobName) (at_ : Int) (table : Table JobRunRow) :
    ∃ table', table.upsert (fun row => row.job = job) (JournalCall.withAttempt at_)
      ⟨job, at_, none, none, none, .running, 0, 0, 1⟩ = some table' :=
  Table.exists_upsert (fun row hrow _ => check_withAttempt at_ (table.checked row hrow))
    (clash_of_change fun _ => rfl) fun hnone => ⟨check_newRow job at_, hnone⟩

theorem exists_finished (job : JobName) (record : RunRecord) (table : Table JobRunRow) :
    ∃ table', table.updateWhere (fun row => row.job = job) (JournalCall.withRecord record) =
      some table' :=
  Table.exists_updateWhere (fun row hrow _ => check_withRecord record (table.checked row hrow))
    (clash_of_change fun _ => rfl)

/-- **What a call makes of the row of a job** is what its event makes of it. -/
theorem rowOf_exec (call : JournalCall) :
    rowOf job (call.exec table).2 =
      (call.event job).elim (rowOf job table) (written job (rowOf job table)) := by
  cases call with
  | started other at_ =>
    obtain ⟨table', hupsert⟩ := exists_started other at_ table
    have hexec : (JournalCall.exec (.started other at_) table).2 = table' := by
      rw [JournalCall.exec, hupsert]
      rfl
    rw [hexec, JournalCall.event]
    by_cases hsame : other = job
    · subst hsame
      rw [if_pos rfl]
      exact Table.find?_upsert_self hupsert (decide_eq_true rfl) fun row hrow => hrow
    · rw [if_neg hsame]
      refine Table.find?_upsert_other hupsert (decide_eq_false hsame) fun row hrow => ?_
      have hother : row.job ≠ job := fun hjob => hsame ((of_decide_eq_true hrow).symm.trans hjob)
      exact ⟨decide_eq_false hother, decide_eq_false hother⟩
  | finished other record =>
    obtain ⟨table', hupdate⟩ := exists_finished other record table
    have hexec : (JournalCall.exec (.finished other record) table).2 = table' := by
      rw [JournalCall.exec, hupdate]
      rfl
    have hjob : ∀ row, (JournalCall.withRecord record row).job = row.job := fun row => rfl
    rw [hexec, rowOf_updateWhere hjob hupdate, JournalCall.event]
    split <;> rfl
  | last other => rfl

end Calls

/-- After any calls the row of a job is that of its events. -/
theorem rowOf_of_linked {ι : Type} {job : JobName}
    {steps : List (Step ι JournalCall.Answer Fault (Table JobRunRow))} {table' : Table JobRunRow}
    (h : Linked journal .empty steps table') :
    rowOf job table' = rowAfter job (eventsOf job steps) := by
  refine h.history (H := fun seen now => rowOf job now = rowAfter job (eventsOf job seen)) rfl ?_
  intro seen t _ hexec hbefore
  have hafter : rowOf job t.after = (t.entry.op.event job).elim (rowOf job t.before)
      (written job (rowOf job t.before)) := by
    rw [← show (t.entry.op.exec t.before).2 = t.after from (Prod.mk.inj hexec).2]
    exact rowOf_exec t.entry.op
  rw [hafter, hbefore, eventsOf, eventsOf, List.filterMap_append]
  cases hevent : t.entry.op.event job with
  | none => simp [hevent]
  | some event => simp [hevent, rowAfter_concat]

/-- The part of a step that is a call to the journal. -/
def journalStep {ι : Type} : Step ι JobCall.Answer Fault Cluster →
    Option (Step ι JournalCall.Answer Fault (Table JobRunRow))
  | ⟨i, ⟨.journal call, answer⟩, before, after⟩ =>
    some ⟨i, ⟨call, answer⟩, before.journal, after.journal⟩
  | _ => none

/-- The journal of any runs of jobs is that of their calls to it. -/
theorem journal_of_cluster {ι : Type} {steps : List (Step ι JobCall.Answer Fault Cluster)}
    {s s' : Cluster} (h : Linked cluster s steps s') :
    Linked journal s.journal (steps.filterMap journalStep) s'.journal := by
  induction steps generalizing s with
  | nil => exact congrArg Cluster.journal h
  | cons t steps ih =>
    obtain ⟨rfl, hexec, hlater⟩ := h
    obtain ⟨i, ⟨op, answer⟩, before, after⟩ := t
    have hlast := ih hlater
    cases op with
    | journal call =>
      have hanswer := congrArg Prod.fst hexec
      have hjournal := congrArg (·.2.journal) hexec
      exact ⟨rfl, Prod.ext hanswer hjournal, hlast⟩
    | _ =>
      have hsame : before.journal = after.journal := congrArg (·.2.journal) hexec
      rw [List.filterMap_cons_none rfl, hsame]
      exact hlast

/-! ### When the last run is known -/

/-- **When the journal knows the last run.** What it answers is the run that ended last, exactly
when the last thing written about the job is the end of a run (of which there is a row as soon
as an attempt began); and exactly then whether the job has fallen silent depends on that run
alone. -/
theorem last_is_latest_iff {ι : Type} {job : JobName}
    {steps : List (Step ι JournalCall.Answer Fault (Table JobRunRow))} {table' : Table JobRunRow}
    {record : RunRecord} (h : Linked journal .empty steps table')
    (hlatest : latestRun (eventsOf job steps) = some record) :
    (JournalCall.lastRun job table' = some record ↔ EndsWithRun (eventsOf job steps)) ∧
      ((∀ now (settings : JobSettings),
          hasFallenSilent (JournalCall.lastRun job table') now settings.silenceAllowed =
            hasFallenSilent (some record) now settings.silenceAllowed) ↔
        EndsWithRun (eventsOf job steps)) := by
  rw [lastRun_eq, rowOf_of_linked h]
  rcases recordOf_rowAfter job hlatest with ⟨hknown, hends⟩ | ⟨hnothing, hbegan⟩
  · rw [hknown]
    exact ⟨iff_of_true rfl hends, iff_of_true (fun _ _ => rfl) hends⟩
  · rw [hnothing]
    refine ⟨iff_of_false (Option.some_ne_none record).symm hbegan,
      iff_of_false (fun hsilent => ?_) hbegan⟩
    have hnever := hsilent record.finishedAt
      ⟨job, 1, 1, 1, true, by decide, by decide, le_rfl, le_rfl⟩
    rw [not_hasFallenSilent_at_end record Int.one_nonneg] at hnever
    cases hnever

/-! ### A job at work -/

/-- A run with nothing to do that takes ten moments. -/
def idleRun (startedAt : Int) : JobProgram RunRecord :=
  runPeriodicJob
    { clock := fun reading => startedAt + 10 * reading
      held := fun _ => true
      plan := fun _ => .ok []
      work := fun _ => .ok () }
    reminders remindersSettings

/-- One run has ended; where `again`, the next has begun. -/
def idleRuns (again : Bool) : List (Step Bool JobCall.Answer Fault Cluster) ×
    (Bool → JobProgram RunRecord) × Cluster :=
  play cluster ([false, false, false, false, false] ++ if again then [true, true] else [])
    (fun later => idleRun (if later then 20 else 0)) {}

/-- The run of the first worker. -/
def firstIdleRun : RunRecord := ⟨0, 10, .done, 0, 0, by decide, by decide⟩

/-- A run that has ended is known until the next begins. -/
theorem ended_run_is_known :
    JournalCall.lastRun reminders (idleRuns false).2.2.journal = some firstIdleRun := by
  have hrun : Runs cluster (fun later => idleRun (if later then 20 else 0)) {}
      (idleRuns false).1 (idleRuns false).2.1 (idleRuns false).2.2 := play_runs _ _ _ _
  refine (last_is_latest_iff (journal_of_cluster hrun.linked) rfl).1.2 ?_
  exact ⟨[.began 0], firstIdleRun, 0, rfl, List.mem_singleton_self _⟩

/-- **A job at work has never run.** The first run has ended at moment 10, the second begins at
moment 20, and at moment 21 the job is silent, and would not be if the first run were known. -/
theorem running_job_never_ran :
    Runs cluster (fun later => idleRun (if later then 20 else 0)) {}
        (idleRuns true).1 (idleRuns true).2.1 (idleRuns true).2.2 ∧
      latestRun (eventsOf reminders ((idleRuns true).1.filterMap journalStep)) =
        some firstIdleRun ∧
      JournalCall.lastRun reminders (idleRuns true).2.2.journal = none ∧
      hasFallenSilent none 21 remindersSettings.silenceAllowed = true ∧
      hasFallenSilent (some firstIdleRun) 21 remindersSettings.silenceAllowed = false :=
  ⟨play_runs _ _ _ _, rfl, rfl, rfl, rfl⟩

end Pdr.Jobs
