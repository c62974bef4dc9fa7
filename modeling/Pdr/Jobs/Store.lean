import Pdr.Identity.Store.Laws
import Pdr.Jobs.Core

/-!
# What jobs share

Runs of jobs share the ledger of effects, in which an effect is claimed before it is made, and
the journal of runs, with one row for a job. What a run asks of its lock, its clock and its
work is answered from outside, and the answer is part of the call: any answers can be given. A
worker that dies, or whose call the database refuses, makes no further calls.

## Main definitions

* `Pdr.Jobs.Effect`: what a job does once.
* `Pdr.Jobs.JobRunRow`: the row of a job in the journal.
* `Pdr.Jobs.JournalCall`, `Pdr.Jobs.journal`: the calls of the journal, and what they do.
* `Pdr.Jobs.JobCall`, `Pdr.Jobs.cluster`: all calls of a run, and what they do.
-/

namespace Pdr.Jobs

open StoreProgram Identity

/-! ### The ledger -/

/-- One piece of a job's work: whose it is, and the key it is known by. -/
structure WorkItem where
  tenant : TenantId
  key : Text
deriving DecidableEq

/-- A row of `jobs_effect`. -/
structure Effect where
  tenant : TenantId
  job : JobName
  key : Text
deriving DecidableEq

/-- `jobs_effect`: an effect is claimed once. -/
instance schemaEffect : Schema Effect where
  check row := notBlank row.key
  clash a b := a = b
  clash_symm a b h := by simpa only [eq_comm] using h

/-- The effect of a piece of work. -/
def WorkItem.effect (item : WorkItem) (job : JobName) : Effect := ⟨item.tenant, job, item.key⟩

/-- `kClaimEffect`: whether the row is new. -/
def claimEffect (effect : Effect) (ledger : Table Effect) : Except Fault Bool × Table Effect :=
  match ledger.insertUnless (· = effect) effect with
  | none => (.error (.thrown (.schemaViolation "jobs_effect")), ledger)
  | some (isNew, ledger') => (.ok isNew, ledger')

/-! ### The journal -/

/-- What the column `outcome` of a run can say. -/
inductive StoredOutcome where
  | running
  | done
  | lockLost
  | timedOut
deriving DecidableEq, Repr

/-- What `Name` writes into the column. -/
def Outcome.stored : Outcome → StoredOutcome
  | .done => .done
  | .lockLost => .lockLost
  | .timedOut => .timedOut

/-- `OutcomeFrom`. -/
def outcomeFrom : StoredOutcome → Option Outcome
  | .done => some .done
  | .lockLost => some .lockLost
  | .timedOut => some .timedOut
  | .running => none

@[simp] theorem outcomeFrom_stored (outcome : Outcome) :
    outcomeFrom outcome.stored = some outcome := by
  cases outcome <;> rfl

/-- A row of `jobs_run`: when the last attempt began, and the last run that came to its end. -/
structure JobRunRow where
  job : JobName
  attemptAt : Int
  startedAt : Option Int
  finishedAt : Option Int
  durationMs : Option Int
  outcome : StoredOutcome
  produced : Int
  repeated : Int
  runs : Int
deriving DecidableEq

/-- `jobs_run`: one row for a job, and a run is described whole or not at all. -/
instance schemaJobRun : Schema JobRunRow where
  check row :=
    (row.finishedAt.isNone == row.startedAt.isNone) &&
      (row.finishedAt.isNone == row.durationMs.isNone) && row.durationMs.all (0 ≤ ·) &&
      row.finishedAt.all (fun finished => row.startedAt.all (· ≤ finished)) &&
      (0 ≤ row.produced && 0 ≤ row.repeated && 0 ≤ row.runs)
  clash a b := a.job = b.job
  clash_symm a b h := by simpa only [eq_comm] using h

/-- The calls of `JobJournal`. -/
inductive JournalCall where
  | started (job : JobName) (at_ : Int)
  | finished (job : JobName) (record : RunRecord)
  | last (job : JobName)

namespace JournalCall

/-- What each call answers. -/
@[reducible] def Answer : JournalCall → Type
  | started .. => Unit
  | finished .. => Unit
  | last _ => Option RunRecord

/-- The row of a job after an attempt began. -/
def withAttempt (at_ : Int) (row : JobRunRow) : JobRunRow :=
  { row with attemptAt := at_, outcome := .running, runs := row.runs + 1 }

/-- The row of a job after a run came to its end. -/
def withRecord (record : RunRecord) (row : JobRunRow) : JobRunRow :=
  { row with
    startedAt := some record.startedAt
    finishedAt := some record.finishedAt
    durationMs := some (record.took / 1000)
    outcome := record.outcome.stored
    produced := record.produced
    repeated := record.repeated }

/-- What `Last` makes of the row it has found: nothing where the outcome is not that of a run. -/
def recordOf (row : JobRunRow) : Option RunRecord :=
  match row.startedAt, row.finishedAt with
  | some startedAt, some finishedAt =>
    (outcomeFrom row.outcome).bind fun outcome =>
      (RunRecord.compose startedAt finishedAt outcome row.produced row.repeated).toOption
  | _, _ => none

/-- `kLast` and `PostgresJobJournal::Last`. -/
def lastRun (job : JobName) (table : Table JobRunRow) : Option RunRecord :=
  (table.find? fun row => row.job = job && row.finishedAt.isSome).bind recordOf

/-- The queries of `PostgresJobJournal`. -/
def exec : (call : JournalCall) → Table JobRunRow → Except Fault call.Answer × Table JobRunRow
  | started job at_, table => commit "jobs_run" table <|
    table.upsert (·.job = job) (withAttempt at_)
      ⟨job, at_, none, none, none, .running, 0, 0, 1⟩
  | finished job record, table => commit "jobs_run" table <|
    table.updateWhere (·.job = job) (withRecord record)
  | last job, table => (.ok (lastRun job table), table)

end JournalCall

/-- The journal on its own. -/
def journal : Machine JournalCall.Answer Fault (Table JobRunRow) where
  exec := JournalCall.exec

/-! ### All calls of a run -/

/-- The ledger, the journal, and the work that was done, in order. -/
structure Cluster where
  ledger : Table Effect := .empty
  journal : Table JobRunRow := .empty
  performed : List Effect := []

/-- The calls of a run. What the clock, the lock, the plan and the work answer is given. -/
inductive JobCall where
  | now (moment : Int)
  | isHeld (held : Bool)
  | plan (at_ : Int) (planned : Except Fault (List WorkItem))
  | perform (job : JobName) (item : WorkItem) (ended : Except Fault Unit)
  | claim (tenant : TenantId) (job : JobName) (key : Text)
  | journal (call : JournalCall)

namespace JobCall

/-- What each call answers. -/
@[reducible] def Answer : JobCall → Type
  | now _ => Int
  | isHeld _ => Bool
  | plan .. => List WorkItem
  | perform .. => Unit
  | claim .. => Bool
  | journal call => call.Answer

/-- What the calls do to what the workers share. -/
def exec : (call : JobCall) → Cluster → Except Fault call.Answer × Cluster
  | now moment, s => (.ok moment, s)
  | isHeld held, s => (.ok held, s)
  | plan _ planned, s => (planned, s)
  | perform job item ended, s => (ended, { s with performed := s.performed ++ [item.effect job] })
  | claim tenant job key, s =>
    let claimed := claimEffect ⟨tenant, job, key⟩ s.ledger
    (claimed.1, { s with ledger := claimed.2 })
  | journal call, s =>
    let done := call.exec s.journal
    (done.1, { s with journal := done.2 })

end JobCall

/-- What the runs of all workers share. -/
def cluster : Machine JobCall.Answer Fault Cluster where
  exec := JobCall.exec

end Pdr.Jobs
