import Pdr.Core.Types

/-!
# Periodic jobs

A periodic job has a name, settings and, after each run that came to its end, a record: when
it began and ended, how, and how much it did. A job has fallen silent if its last record is
older than it may be, or if there is none.

## Main definitions

* `Pdr.Jobs.JobName`, made by `JobName.parse`
* `Pdr.Jobs.JobSettings`, made by `JobSettings.compose`
* `Pdr.Jobs.RunRecord`, made by `RunRecord.compose`
* `Pdr.Jobs.silenceFor`, `Pdr.Jobs.hasFallenSilent`
-/

namespace Pdr.Jobs

/-! ### Names and settings -/

/-- The letters of a name. -/
def isLowerLetter (symbol : UInt8) : Bool := 97 ≤ symbol && symbol ≤ 122

/-- The digits. -/
def isDigit (symbol : UInt8) : Bool := 48 ≤ symbol && symbol ≤ 57

/-- What parts the words of a name. -/
def isSeparator (symbol : UInt8) : Bool := symbol = 46 || symbol = 45 || symbol = 95

/-- `kMaxLength`. -/
def maxNameLength : Nat := 64

/-- The form of a job's name: letters, digits and separators, a letter at the front, no
separator at the back. -/
def isJobName (name : Text) : Bool :=
  name.length ≤ maxNameLength && name.head?.any isLowerLetter &&
    name.getLast?.any (fun symbol => isLowerLetter symbol || isDigit symbol) &&
    name.all fun symbol => isLowerLetter symbol || isDigit symbol || isSeparator symbol

/-- A name that is the name of a job, of its lock and of its metric. -/
structure JobName where
  value : Text
  wellFormed : isJobName value = true
deriving DecidableEq

/-- `JobName::Parse`. -/
def JobName.parse (name : Text) : Option JobName :=
  if h : isJobName name = true then some ⟨name, h⟩ else none

/-- What is configured for one job. -/
structure JobSettings where
  lock : JobName
  period : Int
  attempt : Int
  silenceAllowed : Int
  enabled : Bool
  wakesUp : 0 < period
  works : 0 < attempt
  attemptInPeriod : attempt ≤ period
  periodInSilence : period ≤ silenceAllowed

/-- `JobSettings::Compose`. -/
def JobSettings.compose (lock : JobName) (period attempt silenceAllowed : Int) (enabled : Bool) :
    Result JobSettings :=
  if hperiod : 0 < period then
    if hattempt : 0 < attempt then
      if hover : attempt ≤ period then
        if hsilence : period ≤ silenceAllowed then
          .ok ⟨lock, period, attempt, silenceAllowed, enabled, hperiod, hattempt, hover, hsilence⟩
        else .error ⟨.validation, "job_silence_under_period",
          "молчание короче периода: тревога сработает на каждом прогоне"⟩
      else .error ⟨.validation, "job_attempt_over_period",
        "прогону отведено больше, чем период: прогоны наедут друг на друга"⟩
    else .error ⟨.validation, "job_attempt_not_positive",
      "время на прогон должно быть положительным"⟩
  else .error ⟨.validation, "job_period_not_positive",
    "период задания должен быть положительным"⟩

/-! ### Records of runs -/

/-- How a run came to its end. -/
inductive Outcome where
  | done
  | lockLost
  | timedOut
deriving DecidableEq, Repr

/-- A run that came to its end. -/
structure RunRecord where
  startedAt : Int
  finishedAt : Int
  outcome : Outcome
  produced : Int
  repeated : Int
  inOrder : startedAt ≤ finishedAt
  counted : 0 ≤ produced ∧ 0 ≤ repeated

namespace RunRecord

instance : DecidableEq RunRecord := fun a b =>
  decidable_of_iff
    (a.startedAt = b.startedAt ∧ a.finishedAt = b.finishedAt ∧ a.outcome = b.outcome ∧
      a.produced = b.produced ∧ a.repeated = b.repeated) (by
      cases a
      cases b
      simp)

/-- `RunRecord::Compose`. -/
def compose (startedAt finishedAt : Int) (outcome : Outcome) (produced repeated : Int) :
    Result RunRecord :=
  if horder : startedAt ≤ finishedAt then
    if hcounted : 0 ≤ produced ∧ 0 ≤ repeated then
      .ok ⟨startedAt, finishedAt, outcome, produced, repeated, horder, hcounted⟩
    else .error ⟨.validation, "job_run_counter_negative",
      "счётчик действий не бывает отрицательным"⟩
  else .error ⟨.validation, "job_run_ends_before_it_starts",
    "прогон закончился раньше, чем начался"⟩

/-- `Took`. -/
def took (record : RunRecord) : Int := record.finishedAt - record.startedAt

theorem compose_self (record : RunRecord) :
    compose record.startedAt record.finishedAt record.outcome record.produced record.repeated =
      .ok record := by
  rw [compose, dif_pos record.inOrder, dif_pos record.counted]

/-- A record that was composed has the parts it was composed of. -/
theorem parts_of_compose {startedAt finishedAt : Int} {outcome : Outcome} {produced repeated : Int}
    {record : RunRecord} (h : compose startedAt finishedAt outcome produced repeated = .ok record) :
    record.outcome = outcome ∧ record.produced = produced ∧ record.repeated = repeated := by
  unfold compose at h
  split at h
  · split at h
    · cases h
      exact ⟨rfl, rfl, rfl⟩
    · cases h
  · cases h

end RunRecord

/-- `SilenceFor`: how long the job has been silent since its last run ended. -/
def silenceFor (last : RunRecord) (now : Int) : Int :=
  if now ≤ last.finishedAt then 0 else now - last.finishedAt

/-- `HasFallenSilent`. A job that never ran has. -/
def hasFallenSilent (last : Option RunRecord) (now silenceAllowed : Int) : Bool :=
  match last with
  | none => true
  | some record => silenceAllowed < silenceFor record now

theorem not_hasFallenSilent_at_end (record : RunRecord) {silenceAllowed : Int}
    (h : 0 ≤ silenceAllowed) :
    hasFallenSilent (some record) record.finishedAt silenceAllowed = false := by
  simp [hasFallenSilent, silenceFor, h]

end Pdr.Jobs
