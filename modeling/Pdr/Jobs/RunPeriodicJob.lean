import Pdr.Jobs.Store
import Pdr.StoreProgram.Automaton

/-!
# One run of a periodic job

A run goes through its plan. Each piece of work is claimed in the ledger first and done only
if the claim was new, so that it does not matter how many workers believe that they hold the
lock: who has not claimed does not do. Between the claim and the work a worker may die, and
then the work is never done.

What a run may do next is told by one fact: whether it has claimed a piece of work that it has
not begun. The invariant ties this fact of all runs to the ledger and to what was done.

## Main definitions

* `Pdr.Jobs.runPeriodicJob`
* `Pdr.Jobs.RunStage`, `Pdr.Jobs.runAutomaton`: what a run has asked for and what it owes.
* `Pdr.Jobs.ClaimedFirst`: the invariant.

## Main results

* `Pdr.Jobs.conforms_runPeriodicJob`: a run does only what it has just claimed.
* `Pdr.Jobs.preserves_claimedFirst`: every call keeps the invariant.
* `Pdr.Jobs.every_effect_once`: no effect twice, none skipped, all counted.
-/

namespace Pdr.Jobs

open StoreProgram Program Identity

/-! ### The run -/

/-- What one run is answered from outside: by its clock and its lock, each asked many times, by
its plan, and by its work. -/
structure RunEnvironment where
  clock : Nat → Int
  held : Nat → Bool
  plan : Int → Except Fault (List WorkItem)
  work : Nat → Except Fault Unit

/-- How far a run has come: how often it has asked the clock and the lock, and its counters. -/
structure Progress where
  readings : Nat
  asked : Nat
  produced : Nat
  repeated : Nat
deriving DecidableEq

/-- A part of a run. -/
abbrev JobProgram (α : Type) : Type := Program JobCall.Answer Fault α

/-- Make a call. -/
abbrev request (call : JobCall) : JobProgram call.Answer := perform call

/-- `Value` of a result: asking for the value of a refusal is an error of the code. -/
def valueOf {α : Type} (result : Result α) : Except Fault α :=
  result.mapError fun error =>
    .thrown (.runtime ("Result::Value() у результата с ошибкой: " ++ error.code))

/-- The loop of `RunPeriodicJob::Execute` over the plan. -/
def performPlan (env : RunEnvironment) (job : JobName) (settings : JobSettings) (startedAt : Int) :
    List WorkItem → Progress → JobProgram (Outcome × Progress)
  | [], progress => done (.done, progress)
  | item :: items, progress => do
    let held ← request (.isHeld (env.held progress.asked))
    if !held then
      return (.lockLost, { progress with asked := progress.asked + 1 })
    else
      let now ← request (.now (env.clock progress.readings))
      let asked : Progress :=
        { progress with asked := progress.asked + 1, readings := progress.readings + 1 }
      if settings.attempt ≤ now - startedAt then
        return (.timedOut, asked)
      else
        let claimed ← request (.claim item.tenant job item.key)
        if !claimed then
          performPlan env job settings startedAt items { asked with repeated := asked.repeated + 1 }
        else
          request (.perform job item (env.work asked.produced))
          performPlan env job settings startedAt items { asked with produced := asked.produced + 1 }

/-- `RunPeriodicJob::Execute`. -/
def runPeriodicJob (env : RunEnvironment) (job : JobName) (settings : JobSettings) :
    JobProgram RunRecord := do
  let startedAt ← request (.now (env.clock 0))
  request (.journal (.started job startedAt))
  let items ← request (.plan startedAt (env.plan startedAt))
  let (outcome, progress) ← performPlan env job settings startedAt items ⟨1, 0, 0, 0⟩
  let finishedAt ← request (.now (env.clock progress.readings))
  let record ← ofExcept (valueOf
    (RunRecord.compose startedAt finishedAt outcome progress.produced progress.repeated))
  request (.journal (.finished job record))
  return record

/-! ### What a run may do next -/

/-- What a run has done so far: its plan, the effects that it has asked the ledger about, the
one it has claimed and not begun, and how much it did and left. -/
structure RunStage where
  planned : List WorkItem := []
  asked : List Effect := []
  owed : Option Effect := none
  produced : Nat := 0
  repeated : Nat := 0

/-- A run does only what it has just claimed, and nothing else until then. -/
def runAutomaton : Automaton JobCall.Answer Fault RunStage where
  allows stage
    | .perform job item _ => stage.owed = some (item.effect job)
    | _ => stage.owed = none
  next stage
    | .plan .., .ok items => { stage with owed := none, planned := items ++ stage.planned }
    | .claim tenant job key, .ok true =>
      { stage with
        owed := some ⟨tenant, job, key⟩
        asked := ⟨tenant, job, key⟩ :: stage.asked }
    | .claim tenant job key, .ok false =>
      { stage with
        owed := none
        asked := ⟨tenant, job, key⟩ :: stage.asked
        repeated := stage.repeated + 1 }
    | .perform .., _ => { stage with owed := none, produced := stage.produced + 1 }
    | _, _ => { stage with owed := none }

/-- The record of a run tells what it did; a run that is done has asked about all of its plan. -/
def runEnds (job : JobName) (stage : RunStage) : Except Fault RunRecord → Prop
  | .ok record => record.produced = stage.produced ∧ record.repeated = stage.repeated ∧
      (record.outcome = .done → ∀ item ∈ stage.planned, item.effect job ∈ stage.asked)
  | .error _ => True

section Conforms

variable {env : RunEnvironment} {job : JobName} {settings : JobSettings} {startedAt : Int}

/-- What is left of a run after its loop: the record, and its place in the journal. -/
theorem conforms_end {stage : RunStage} {outcome : Outcome} {progress : Progress}
    (howed : stage.owed = none) (hproduced : progress.produced = stage.produced)
    (hrepeated : progress.repeated = stage.repeated)
    (hasked : outcome = .done → ∀ item ∈ stage.planned, item.effect job ∈ stage.asked) :
    runAutomaton.Conforms (runEnds job) stage (do
      let finishedAt ← request (.now (env.clock progress.readings))
      let record ← ofExcept (valueOf
        (RunRecord.compose startedAt finishedAt outcome progress.produced progress.repeated))
      request (.journal (.finished job record))
      return record) := by
  refine Automaton.conforms_perform_bind howed (fun _ => trivial) fun finishedAt => ?_
  cases hrecord : RunRecord.compose startedAt finishedAt outcome progress.produced
      progress.repeated with
  | error error => exact trivial
  | ok record =>
    obtain ⟨houtcome, hmade, hleft⟩ := RunRecord.parts_of_compose hrecord
    refine Automaton.conforms_perform_bind rfl (fun _ => trivial) fun _ => ⟨?_, ?_, ?_⟩
    · rw [hmade, hproduced]
      rfl
    · rw [hleft, hrepeated]
      rfl
    · exact fun hdone => hasked (houtcome.symm.trans hdone)

/-- The loop keeps the counters, and unless it breaks off asks about the whole plan; what comes
after it may rely on that. -/
theorem conforms_performPlan {items : List WorkItem} {stage : RunStage} {progress : Progress}
    {next : Outcome × Progress → JobProgram RunRecord} (howed : stage.owed = none)
    (hproduced : progress.produced = stage.produced)
    (hrepeated : progress.repeated = stage.repeated)
    (hasked : ∀ item ∈ stage.planned, item ∈ items ∨ item.effect job ∈ stage.asked)
    (hnext : ∀ outcome (progress : Progress) (stage : RunStage), stage.owed = none →
      progress.produced = stage.produced → progress.repeated = stage.repeated →
      (outcome = .done → ∀ item ∈ stage.planned, item.effect job ∈ stage.asked) →
        runAutomaton.Conforms (runEnds job) stage (next (outcome, progress))) :
    runAutomaton.Conforms (runEnds job) stage
      (performPlan env job settings startedAt items progress >>= next) := by
  induction items generalizing stage progress with
  | nil =>
    refine hnext _ _ _ howed hproduced hrepeated fun _ item hitem => ?_
    exact (hasked item hitem).resolve_left List.not_mem_nil
  | cons item items ih =>
    have hlater : ∀ other ∈ stage.planned,
        other ∈ items ∨ other.effect job ∈ item.effect job :: stage.asked := by
      intro other hother
      rcases hasked other hother with hitems | hbefore
      · rcases List.mem_cons.1 hitems with rfl | hitems
        · exact Or.inr List.mem_cons_self
        · exact Or.inl hitems
      · exact Or.inr (List.mem_cons_of_mem _ hbefore)
    rw [performPlan, bind_bind]
    refine Automaton.conforms_perform_bind howed (fun _ => trivial) fun held => ?_
    cases held with
    | false => exact hnext _ _ _ rfl hproduced hrepeated fun hdone => by cases hdone
    | true =>
      simp only [Bool.not_true, Bool.false_eq_true, if_false, bind_bind]
      refine Automaton.conforms_perform_bind rfl (fun _ => trivial) fun now => ?_
      by_cases hlate : settings.attempt ≤ now - startedAt
      · rw [if_pos hlate]
        exact hnext _ _ _ rfl hproduced hrepeated fun hdone => by cases hdone
      rw [if_neg hlate, bind_bind]
      refine Automaton.conforms_perform_bind rfl (fun _ => trivial) fun claimed => ?_
      cases claimed with
      | false => exact ih rfl hproduced (congrArg (· + 1) hrepeated) hlater
      | true =>
        simp only [Bool.not_true, Bool.false_eq_true, if_false, bind_bind]
        refine Automaton.conforms_perform_bind rfl (fun _ => trivial) fun _ => ?_
        exact ih rfl (congrArg (· + 1) hproduced) hrepeated hlater

/-- **A run does only what it has just claimed**, and tells in its record what it did. -/
theorem conforms_runPeriodicJob (env : RunEnvironment) (job : JobName) (settings : JobSettings) :
    runAutomaton.Conforms (runEnds job) {} (runPeriodicJob env job settings) := by
  refine Automaton.conforms_perform_bind rfl (fun _ => trivial) fun startedAt => ?_
  refine Automaton.conforms_perform_bind rfl (fun _ => trivial) fun _ => ?_
  refine Automaton.conforms_perform_bind rfl (fun _ => trivial) fun items => ?_
  refine conforms_performPlan rfl rfl rfl (fun item hitem => Or.inl ?_) ?_
  · exact (List.mem_append.1 hitem).resolve_right List.not_mem_nil
  intro outcome progress stage howed hproduced hrepeated hasked
  exact conforms_end howed hproduced hrepeated hasked

end Conforms

/-! ### What all runs keep -/

/-- What was done was claimed, and once; what was claimed was done, or is owed by the run that
claimed it; what a run has asked about is claimed. -/
structure ClaimedFirst {ι : Type} (stages : ι → RunStage) (s : Cluster) : Prop where
  once : s.performed.Nodup
  claimed : ∀ effect ∈ s.performed, effect ∈ s.ledger.rows
  settled : ∀ effect ∈ s.ledger.rows,
    effect ∈ s.performed ∨ ∃ i, (stages i).owed = some effect
  owed : ∀ i effect, (stages i).owed = some effect →
    effect ∈ s.ledger.rows ∧ effect ∉ s.performed
  apart : ∀ i j effect, (stages i).owed = some effect → (stages j).owed = some effect → i = j
  asked : ∀ i, ∀ effect ∈ (stages i).asked, effect ∈ s.ledger.rows

/-- What a claim finds, and what it leaves. -/
theorem claimEffect_cases {effect : Effect} {ledger ledger' : Table Effect}
    {answer : Except Fault Bool} (h : claimEffect effect ledger = (answer, ledger')) :
    (answer = .ok true ∧ effect ∉ ledger.rows ∧
        ∀ row, row ∈ ledger'.rows ↔ row ∈ ledger.rows ∨ row = effect) ∨
      (answer = .ok false ∧ effect ∈ ledger.rows ∧ ledger' = ledger) ∨
      ((∃ fault, answer = .error fault) ∧ ledger' = ledger) := by
  unfold claimEffect at h
  cases hinsert : ledger.insertUnless (· = effect) effect with
  | none =>
    rw [hinsert] at h
    obtain ⟨rfl, rfl⟩ := Prod.mk.inj h
    exact Or.inr (Or.inr ⟨⟨_, rfl⟩, rfl⟩)
  | some result =>
    obtain ⟨isNew, given⟩ := result
    rw [hinsert] at h
    obtain ⟨rfl, rfl⟩ := Prod.mk.inj h
    rcases Table.insertUnless_cases hinsert with ⟨rfl, ⟨stored, hstored, hsame⟩, rfl⟩ | hnew
    · obtain rfl := of_decide_eq_true hsame
      exact Or.inr (Or.inl ⟨rfl, hstored, rfl⟩)
    · obtain ⟨rfl, habsent, hinserted⟩ := hnew
      refine Or.inl ⟨rfl, fun hstored => ?_, Table.mem_insert hinserted⟩
      simpa using habsent effect hstored

section Keeps

variable {ι : Type} [DecidableEq ι] {stages : ι → RunStage} {s s' : Cluster} {i : ι}
  {stage : RunStage}

/-- A call that leaves the ledger and the work alone, of a run that owes nothing before and
after it. -/
theorem ClaimedFirst.quiet (h : ClaimedFirst stages s) (hbefore : (stages i).owed = none)
    (hafter : stage.owed = none) (hasked : ∀ effect ∈ stage.asked, effect ∈ s.ledger.rows)
    (hledger : s'.ledger = s.ledger) (hperformed : s'.performed = s.performed) :
    ClaimedFirst (Function.update stages i stage) s' := by
  have howed : ∀ j, (Function.update stages i stage j).owed = (stages j).owed := by
    intro j
    by_cases hj : j = i
    · subst hj
      rw [Function.update_self, hafter, hbefore]
    · rw [Function.update_of_ne hj]
  refine ⟨?_, ?_, ?_, ?_, ?_, ?_⟩
  · rw [hperformed]
    exact h.once
  · rw [hperformed, hledger]
    exact h.claimed
  · simpa only [hperformed, hledger, howed] using h.settled
  · simpa only [hperformed, hledger, howed] using h.owed
  · simpa only [howed] using h.apart
  · intro j effect heffect
    rw [hledger]
    by_cases hj : j = i
    · subst hj
      rw [Function.update_self] at heffect
      exact hasked effect heffect
    · rw [Function.update_of_ne hj] at heffect
      exact h.asked j effect heffect

/-- A run that does what it has claimed owes nothing any more. -/
theorem ClaimedFirst.performs (h : ClaimedFirst stages s) {effect : Effect}
    (hbefore : (stages i).owed = some effect) (hafter : stage.owed = none)
    (hasked : stage.asked = (stages i).asked) :
    ClaimedFirst (Function.update stages i stage)
      { s with performed := s.performed ++ [effect] } := by
  obtain ⟨hclaimed, hfresh⟩ := h.owed i effect hbefore
  have howed : ∀ j other, (Function.update stages i stage j).owed = some other →
      j ≠ i ∧ (stages j).owed = some other := by
    intro j other hother
    by_cases hj : j = i
    · subst hj
      rw [Function.update_self, hafter] at hother
      cases hother
    · rw [Function.update_of_ne hj] at hother
      exact ⟨hj, hother⟩
  refine ⟨?_, ?_, ?_, ?_, ?_, ?_⟩
  · refine List.nodup_append.2 ⟨h.once, List.nodup_singleton effect, ?_⟩
    rintro other hother _ hnew rfl
    exact hfresh (List.mem_singleton.1 hnew ▸ hother)
  · intro other hother
    rcases List.mem_append.1 hother with hbefore | hnew
    · exact h.claimed other hbefore
    · exact List.mem_singleton.1 hnew ▸ hclaimed
  · intro other hother
    rcases h.settled other hother with hdone | ⟨j, hj⟩
    · exact Or.inl (List.mem_append_left _ hdone)
    · by_cases hij : j = i
      · subst hij
        obtain rfl := Option.some.inj (hbefore.symm.trans hj)
        exact Or.inl (List.mem_append_right _ List.mem_cons_self)
      · refine Or.inr ⟨j, ?_⟩
        rw [Function.update_of_ne hij]
        exact hj
  · intro j other hj
    obtain ⟨hne, hbeforeJ⟩ := howed j other hj
    obtain ⟨hmem, hundone⟩ := h.owed j other hbeforeJ
    refine ⟨hmem, fun hdone => ?_⟩
    rcases List.mem_append.1 hdone with hdone | hnew
    · exact hundone hdone
    · obtain rfl := List.mem_singleton.1 hnew
      exact hne (h.apart j i other hbeforeJ hbefore)
  · intro j k other hj hk
    exact h.apart j k other (howed j other hj).2 (howed k other hk).2
  · intro j other hother
    by_cases hj : j = i
    · subst hj
      rw [Function.update_self, hasked] at hother
      exact h.asked j other hother
    · rw [Function.update_of_ne hj] at hother
      exact h.asked j other hother

/-- A run whose claim was new owes what it has claimed. -/
theorem ClaimedFirst.claims (h : ClaimedFirst stages s) {effect : Effect} {ledger : Table Effect}
    (hbefore : (stages i).owed = none) (habsent : effect ∉ s.ledger.rows)
    (hledger : ∀ row, row ∈ ledger.rows ↔ row ∈ s.ledger.rows ∨ row = effect)
    (hafter : stage.owed = some effect) (hasked : stage.asked = effect :: (stages i).asked) :
    ClaimedFirst (Function.update stages i stage) { s with ledger := ledger } := by
  have hundone : effect ∉ s.performed := fun hdone => habsent (h.claimed effect hdone)
  have howed : ∀ j other, (Function.update stages i stage j).owed = some other →
      (j = i ∧ other = effect) ∨ (j ≠ i ∧ (stages j).owed = some other) := by
    intro j other hother
    by_cases hj : j = i
    · subst hj
      rw [Function.update_self, hafter] at hother
      exact Or.inl ⟨rfl, (Option.some.inj hother).symm⟩
    · rw [Function.update_of_ne hj] at hother
      exact Or.inr ⟨hj, hother⟩
  refine ⟨h.once, ?_, ?_, ?_, ?_, ?_⟩
  · exact fun other hother => (hledger other).2 (Or.inl (h.claimed other hother))
  · intro other hother
    rcases (hledger other).1 hother with hstored | rfl
    · rcases h.settled other hstored with hdone | ⟨j, hj⟩
      · exact Or.inl hdone
      · have hne : j ≠ i := fun hij => by
          rw [hij, hbefore] at hj
          cases hj
        refine Or.inr ⟨j, ?_⟩
        rw [Function.update_of_ne hne]
        exact hj
    · refine Or.inr ⟨i, ?_⟩
      rw [Function.update_self]
      exact hafter
  · intro j other hj
    rcases howed j other hj with ⟨-, rfl⟩ | ⟨-, hbeforeJ⟩
    · exact ⟨(hledger other).2 (Or.inr rfl), hundone⟩
    · obtain ⟨hmem, hundoneJ⟩ := h.owed j other hbeforeJ
      exact ⟨(hledger other).2 (Or.inl hmem), hundoneJ⟩
  · intro j k other hj hk
    rcases howed j other hj with ⟨rfl, rfl⟩ | ⟨-, hbeforeJ⟩
    · rcases howed k other hk with ⟨rfl, -⟩ | ⟨-, hbeforeK⟩
      · rfl
      · exact absurd (h.owed k other hbeforeK).1 habsent
    · rcases howed k other hk with ⟨-, rfl⟩ | ⟨-, hbeforeK⟩
      · exact absurd (h.owed j other hbeforeJ).1 habsent
      · exact h.apart j k other hbeforeJ hbeforeK
  · intro j other hother
    rw [hledger]
    by_cases hj : j = i
    · subst hj
      rw [Function.update_self, hasked] at hother
      rcases List.mem_cons.1 hother with rfl | hearlier
      · exact Or.inr rfl
      · exact Or.inl (h.asked j other hearlier)
    · rw [Function.update_of_ne hj] at hother
      exact Or.inl (h.asked j other hother)

/-- Every call of a run keeps what all runs keep. -/
theorem preserves_claimedFirst :
    Automaton.Preserves (fun _ : ι => runAutomaton) cluster ClaimedFirst := by
  intro stages s i op h hallows _
  cases op with
  | now moment => exact h.quiet hallows rfl (h.asked i) rfl rfl
  | isHeld held => exact h.quiet hallows rfl (h.asked i) rfl rfl
  | plan at_ planned => cases planned <;> exact h.quiet hallows rfl (h.asked i) rfl rfl
  | perform job item ended => exact h.performs hallows rfl rfl
  | journal call => exact h.quiet hallows rfl (h.asked i) rfl rfl
  | claim tenant job key =>
    rcases hclaim : claimEffect ⟨tenant, job, key⟩ s.ledger with ⟨answer, ledger'⟩
    have hexec : cluster.exec (.claim tenant job key) s =
        (answer, { s with ledger := ledger' }) := by
      simp only [cluster, JobCall.exec, hclaim]
    rw [hexec]
    rcases claimEffect_cases hclaim with
      ⟨rfl, habsent, hrows⟩ | ⟨rfl, hstored, rfl⟩ | ⟨⟨fault, rfl⟩, rfl⟩
    · exact h.claims hallows habsent hrows rfl rfl
    · refine h.quiet hallows rfl (fun effect heffect => ?_) rfl rfl
      rcases List.mem_cons.1 heffect with rfl | hearlier
      · exact hstored
      · exact h.asked i effect hearlier
    · exact h.quiet hallows rfl (h.asked i) rfl rfl

end Keeps

theorem claimedFirst_start {ι : Type} : ClaimedFirst (fun _ : ι => ({} : RunStage)) {} := by
  refine ⟨List.nodup_nil, ?_, ?_, ?_, ?_, ?_⟩
  · exact fun effect heffect => absurd heffect List.not_mem_nil
  · exact fun effect heffect => absurd heffect List.not_mem_nil
  · exact fun i effect howed => by cases howed
  · exact fun i j effect howed => by cases howed
  · exact fun i effect heffect => absurd heffect List.not_mem_nil

/-! ### What the record of a run shows -/

/-- A piece of work is done. -/
def isPerform (entry : Entry JobCall.Answer Fault) : Bool :=
  match entry.op with
  | .perform .. => true
  | _ => false

/-- A claim is refused. -/
def isRefusal : Entry JobCall.Answer Fault → Bool
  | ⟨.claim .., .ok false⟩ => true
  | _ => false

/-- What a run has planned. -/
def itemsOf : Entry JobCall.Answer Fault → List WorkItem
  | ⟨.plan .., .ok items⟩ => items
  | _ => []

/-- The effect that a call makes. -/
def performedBy : JobCall → Option Effect
  | .perform job item _ => some (item.effect job)
  | _ => none

/-- The effects that were made in a run, in order. -/
def performedIn {ι : Type} (steps : List (Step ι JobCall.Answer Fault Cluster)) : List Effect :=
  steps.filterMap fun t => performedBy t.entry.op

/-- What a call adds to the two numbers of the record. -/
theorem next_counts (stage : RunStage) (entry : Entry JobCall.Answer Fault) :
    (runAutomaton.next stage entry.op entry.answer).produced =
        stage.produced + (if isPerform entry then 1 else 0) ∧
      (runAutomaton.next stage entry.op entry.answer).repeated =
        stage.repeated + (if isRefusal entry then 1 else 0) := by
  obtain ⟨op, answer⟩ := entry
  cases op with
  | claim tenant job key => rcases answer with _ | _ | _ <;> exact ⟨rfl, rfl⟩
  | plan at_ planned => cases answer <;> exact ⟨rfl, rfl⟩
  | _ => exact ⟨rfl, rfl⟩

theorem produced_after (stage : RunStage) (history : List (Entry JobCall.Answer Fault)) :
    (runAutomaton.after stage history).produced = stage.produced + history.countP isPerform :=
  Automaton.after_count RunStage.produced (fun stage entry => (next_counts stage entry).1) history

theorem repeated_after (stage : RunStage) (history : List (Entry JobCall.Answer Fault)) :
    (runAutomaton.after stage history).repeated = stage.repeated + history.countP isRefusal :=
  Automaton.after_count RunStage.repeated (fun stage entry => (next_counts stage entry).2) history

theorem planned_after {stage : RunStage} {history : List (Entry JobCall.Answer Fault)}
    {item : WorkItem} (h : item ∈ history.flatMap itemsOf) :
    item ∈ (runAutomaton.after stage history).planned := by
  refine Automaton.mem_after RunStage.planned ?_ (Or.inl h)
  rintro stage ⟨op, answer⟩ value hvalue
  cases op with
  | claim tenant job key =>
    have hkept := hvalue.resolve_left List.not_mem_nil
    rcases answer with _ | _ | _ <;> exact hkept
  | plan at_ planned =>
    cases answer with
    | error fault => exact hvalue.resolve_left List.not_mem_nil
    | ok items => exact List.mem_append.2 hvalue
  | _ => exact hvalue.resolve_left List.not_mem_nil

/-- A run owes an effect only between its claim and its next call. -/
theorem claims_of_owed {history : List (Entry JobCall.Answer Fault)} {effect : Effect}
    (h : (runAutomaton.after {} history).owed = some effect) :
    history.getLast? = some ⟨.claim effect.tenant effect.job effect.key, .ok true⟩ := by
  rcases List.eq_nil_or_concat history with rfl | ⟨earlier, ⟨op, answer⟩, rfl⟩
  · cases h
  · rw [List.concat_eq_append, Automaton.after_concat] at h
    rw [List.concat_eq_append, List.getLast?_concat]
    cases op with
    | claim tenant job key =>
      rcases answer with fault | _ | _
      · cases h
      · cases h
      · obtain rfl := Option.some.inj h
        rfl
    | plan at_ planned => cases answer <;> cases h
    | _ => cases h

/-- The cluster keeps what was done in a run, in order. -/
theorem performed_of_linked {ι : Type} {steps : List (Step ι JobCall.Answer Fault Cluster)}
    {s s' : Cluster} (h : Linked cluster s steps s') :
    s'.performed = s.performed ++ performedIn steps := by
  induction steps generalizing s with
  | nil =>
    rw [show s = s' from h, performedIn, List.filterMap_nil, List.append_nil]
  | cons t steps ih =>
    obtain ⟨rfl, hexec, hlater⟩ := h
    have hstep : t.after.performed = t.before.performed ++ (performedBy t.entry.op).toList := by
      rw [← (Prod.mk.inj hexec).2]
      cases t.entry.op with
      | perform job item ended => rfl
      | _ => exact (List.append_nil _).symm
    rw [ih hlater, hstep, List.append_assoc, performedIn, performedIn, List.filterMap_cons]
    cases performedBy t.entry.op <;> rfl

/-! ### All runs -/

/-- **No effect twice, none skipped, all counted.** Whatever the locks, the clocks and the plans
say and however the runs interleave: no effect is made twice; the record of a run counts what it
made and what it was refused; and of a run that is done, every piece of the plan is claimed, and
made unless its claimer made no call since. -/
theorem every_effect_once {ι : Type} [DecidableEq ι] {env : ι → RunEnvironment} {job : ι → JobName}
    {settings : ι → JobSettings} {steps : List (Step ι JobCall.Answer Fault Cluster)}
    {pool' : ι → JobProgram RunRecord} {s' : Cluster}
    (hrun : Runs cluster (fun i => runPeriodicJob (env i) (job i) (settings i)) {} steps pool' s') :
    (performedIn steps).Nodup ∧
      ∀ i record, pool' i = .done record →
        record.produced = (historyOf i steps).countP isPerform ∧
        record.repeated = (historyOf i steps).countP isRefusal ∧
        (record.outcome = .done → ∀ item ∈ (historyOf i steps).flatMap itemsOf,
          item.effect (job i) ∈ s'.ledger.rows ∧
          (item.effect (job i) ∈ performedIn steps ∨
            ∃ j, (historyOf j steps).getLast? =
              some ⟨.claim item.tenant (job i) item.key, .ok true⟩)) := by
  have hconforms : ∀ i, runAutomaton.Conforms (runEnds (job i)) {}
      (runPeriodicJob (env i) (job i) (settings i)) := fun i =>
    conforms_runPeriodicJob (env i) (job i) (settings i)
  have hkept : ClaimedFirst (fun i => runAutomaton.after {} (historyOf i steps)) s' :=
    hrun.preserves hconforms preserves_claimedFirst claimedFirst_start
  have hperformed : s'.performed = performedIn steps := performed_of_linked hrun.linked
  refine ⟨hperformed ▸ hkept.once, fun i record hdone => ?_⟩
  have hends : runAutomaton.Conforms (runEnds (job i)) (runAutomaton.after {} (historyOf i steps))
      (pool' i) := (hconforms i).follows (hrun.follows i)
  rw [hdone, Automaton.conforms_done] at hends
  obtain ⟨hproduced, hrepeated, hasked⟩ := hends
  refine ⟨?_, ?_, fun houtcome item hitem => ?_⟩
  · rw [hproduced, produced_after, Nat.zero_add]
  · rw [hrepeated, repeated_after, Nat.zero_add]
  have hclaimed := hkept.asked i _ (hasked houtcome item (planned_after hitem))
  refine ⟨hclaimed, ?_⟩
  rw [← hperformed]
  exact (hkept.settled _ hclaimed).imp_right fun ⟨j, hj⟩ => ⟨j, claims_of_owed hj⟩

/-! ### A worker that dies -/

/-- A job and its settings: every minute, for half a minute. -/
def reminders : JobName := ⟨ascii "reminders", by decide⟩

/-- The settings of the reminders. -/
def remindersSettings : JobSettings :=
  ⟨reminders, 60000, 30000, 180000, true, by decide, by decide, by decide, by decide⟩

/-- Where all of its work is. -/
def remindersTenant : TenantId := ⟨Vector.replicate 16 7⟩

/-- Its work names one lesson twice, and every worker believes that it holds the lock. -/
def remindersAround : RunEnvironment where
  clock _ := 10
  held _ := true
  plan _ := .ok [⟨remindersTenant, ascii "a"⟩, ⟨remindersTenant, ascii "a"⟩,
    ⟨remindersTenant, ascii "b"⟩]
  work _ := .ok ()

/-- The first worker dies after its first claim; the second goes through the plan. -/
def oneDies : List (Step Bool JobCall.Answer Fault Cluster) × (Bool → JobProgram RunRecord) ×
    Cluster :=
  play cluster
    [false, false, false, false, false, false, true, true, true, true, true, true, true, true,
      true, true, true, true, true, true, true]
    (fun _ => runPeriodicJob remindersAround reminders remindersSettings) {}

/-- The second worker is done: it made one effect and was refused twice, and what it did not
make is owed by the first. -/
theorem one_dies_and_owes :
    (performedIn oneDies.1).Nodup ∧ (historyOf true oneDies.1).countP isRefusal = 2 ∧
      (historyOf false oneDies.1).getLast? =
        some ⟨.claim remindersTenant reminders (ascii "a"), .ok true⟩ := by
  have hrun : Runs cluster (fun _ => runPeriodicJob remindersAround reminders remindersSettings) {}
      oneDies.1 oneDies.2.1 oneDies.2.2 := play_runs _ _ _ _
  obtain ⟨honce, hrecords⟩ := every_effect_once hrun
  obtain ⟨-, hrepeated, -⟩ := hrecords true ⟨10, 10, .done, 1, 2, by decide, by decide⟩ rfl
  exact ⟨honce, Int.ofNat.inj hrepeated.symm, rfl⟩

end Pdr.Jobs
