import Pdr.StoreProgram.Interleaving

/-!
# Programs that follow an automaton

What a program of many branches does to a shared state is often told by a short automaton:
each stage allows some calls, and the answer to a call leads to the next stage. A program
that follows its automaton makes allowed calls only, whatever the answers are. An invariant
that ties the stages of all programs to the shared state is then proved over the automata,
one stage at a time, and holds in every run of the programs.

## Main definitions

* `StoreProgram.Automaton`: the calls that each stage allows, and where the answers lead.
* `StoreProgram.Automaton.Conforms`: a program that makes only allowed calls.
* `StoreProgram.Automaton.after`: the stage after a history.
* `StoreProgram.Automaton.Preserves`: one step of any program keeps an invariant.

## Main results

* `StoreProgram.Automaton.Conforms.run`: what the calls of a program alone keep.
* `StoreProgram.Runs.conforms`: in a run each program stays with its automaton.
* `StoreProgram.Runs.preserves`: what every step keeps holds after a run.
* `StoreProgram.Runs.preserves_at`: and before each of its steps, where the call that is
  made is allowed.
-/

namespace StoreProgram

variable {ι Op : Type} {Answer : Op → Type} {ε α σ γ : Type}

/-- The calls that each stage allows, and the stage to which the answer to a call leads. -/
structure Automaton {Op : Type} (Answer : Op → Type) (ε γ : Type) where
  allows : γ → Op → Prop
  next : γ → (op : Op) → Except ε (Answer op) → γ

namespace Automaton

variable (A : Automaton Answer ε γ)

/-- From the stage on, the program makes allowed calls only and ends as it may. -/
def Conforms (ends : γ → Except ε α → Prop) : γ → Program Answer ε α → Prop
  | stage, .done value => ends stage (.ok value)
  | stage, .raise error => ends stage (.error error)
  | stage, .call op rest =>
    A.allows stage op ∧ ∀ answer, Conforms ends (A.next stage op answer) (rest answer)

/-- The stage after the calls of a history. -/
def after (stage : γ) (history : List (Entry Answer ε)) : γ :=
  history.foldl (fun stage entry => A.next stage entry.op entry.answer) stage

variable {A} {ends : γ → Except ε α → Prop} {stage : γ}

@[simp] theorem conforms_done (value : α) :
    A.Conforms ends stage (.done value) ↔ ends stage (.ok value) := Iff.rfl

@[simp] theorem conforms_raise (error : ε) :
    A.Conforms ends stage (.raise error) ↔ ends stage (.error error) := Iff.rfl

/-- What each call of some kind adds one to counts the calls of that kind. -/
theorem after_count (measure : γ → ℕ) {wanted : Entry Answer ε → Bool}
    (h : ∀ stage entry, measure (A.next stage entry.op entry.answer) =
      measure stage + if wanted entry then 1 else 0) (history : List (Entry Answer ε)) :
    measure (A.after stage history) = measure stage + history.countP wanted := by
  induction history generalizing stage with
  | nil => rfl
  | cons entry history ih =>
    rw [after, List.foldl_cons, ← after, ih, h, List.countP_cons]
    omega

/-- What a stage has kept since the start or since a call that gave it. -/
theorem mem_after {β : Type} (kept : γ → List β) {given : Entry Answer ε → List β}
    (h : ∀ stage entry value, value ∈ given entry ∨ value ∈ kept stage →
      value ∈ kept (A.next stage entry.op entry.answer)) {history : List (Entry Answer ε)}
    {value : β} (hvalue : value ∈ history.flatMap given ∨ value ∈ kept stage) :
    value ∈ kept (A.after stage history) := by
  induction history generalizing stage with
  | nil => exact hvalue.resolve_left List.not_mem_nil
  | cons entry history ih =>
    rw [after, List.foldl_cons, ← after]
    rw [List.flatMap_cons, List.mem_append, or_assoc] at hvalue
    rcases hvalue with hnow | hlater | hbefore
    · exact ih (Or.inr (h stage entry value (Or.inl hnow)))
    · exact ih (Or.inl hlater)
    · exact ih (Or.inr (h stage entry value (Or.inr hbefore)))

theorem after_concat (history : List (Entry Answer ε)) (entry : Entry Answer ε) :
    A.after stage (history ++ [entry]) =
      A.next (A.after stage history) entry.op entry.answer := by
  rw [after, List.foldl_append, List.foldl_cons, List.foldl_nil, ← after]

/-- A sequence that begins with an allowed call, whose error may end the program. -/
theorem conforms_perform_bind {op : Op} {next : Answer op → Program Answer ε α}
    (first : A.allows stage op)
    (fails : ∀ error, ends (A.next stage op (.error error)) (.error error))
    (goesOn : ∀ value, A.Conforms ends (A.next stage op (.ok value)) (next value)) :
    A.Conforms ends stage (Program.perform op >>= next) := by
  refine ⟨first, fun answer => ?_⟩
  cases answer with
  | error error => exact fails error
  | ok value => exact goesOn value

theorem Conforms.follows {program program' : Program Answer ε α} {history : List (Entry Answer ε)}
    (hprogram : A.Conforms ends stage program) (h : program.Follows history program') :
    A.Conforms ends (A.after stage history) program' := by
  induction h generalizing stage with
  | stay program => exact hprogram
  | step h ih => exact ih (hprogram.2 _)

/-- A program alone, whose allowed calls keep a fact about its stage and the state: the fact
holds at the end, in a stage in which the program may end as it did. -/
theorem Conforms.run {M : Machine Answer ε σ} {I : γ → σ → Prop}
    (kept : ∀ stage s op, I stage s → A.allows stage op →
      I (A.next stage op (M.exec op s).1) (M.exec op s).2)
    {program : Program Answer ε α} (hprogram : A.Conforms ends stage program) {s : σ}
    (start : I stage s) :
    ∃ stage', ends stage' (program.run M s).1 ∧ I stage' (program.run M s).2 := by
  induction program generalizing stage s with
  | done value => exact ⟨stage, hprogram, start⟩
  | raise error => exact ⟨stage, hprogram, start⟩
  | call op rest ih => exact ih _ (hprogram.2 _) (kept stage s op start hprogram.1)

/-- One call of program `i` takes its stage, and no other, to the next. -/
def advance [DecidableEq ι] (automata : ι → Automaton Answer ε γ) (stages : ι → γ) (i : ι) (op : Op)
    (answer : Except ε (Answer op)) : ι → γ :=
  Function.update stages i ((automata i).next (stages i) op answer)

/-- A call that is allowed and can be made keeps the invariant. -/
def Preserves [DecidableEq ι] (automata : ι → Automaton Answer ε γ) (M : Machine Answer ε σ)
    (I : (ι → γ) → σ → Prop) : Prop :=
  ∀ stages s i op, I stages s → (automata i).allows (stages i) op → M.ready op s = true →
    I (advance automata stages i op (M.exec op s).1) (M.exec op s).2

end Automaton

namespace Runs

variable [DecidableEq ι] {M : Machine Answer ε σ} {pool pool' : ι → Program Answer ε α} {s s' : σ}
  {steps : List (Step ι Answer ε σ)} {automata : ι → Automaton Answer ε γ}
  {ends : ι → γ → Except ε α → Prop} {stages : ι → γ}

/-- In a run each program stays with its automaton. -/
theorem conforms (h : Runs M pool s steps pool' s')
    (hpool : ∀ i, (automata i).Conforms (ends i) (stages i) (pool i)) (i : ι) :
    (automata i).Conforms (ends i) ((automata i).after (stages i) (historyOf i steps)) (pool' i) :=
  (hpool i).follows (h.follows i)

/-- The stages after a step are those after it alone and then after the rest. -/
theorem after_historyOf_cons (t : Step ι Answer ε σ) (steps : List (Step ι Answer ε σ)) :
    (fun i => (automata i).after (stages i) (historyOf i (t :: steps))) =
      fun i => (automata i).after
        (Automaton.advance automata stages t.thread t.entry.op t.entry.answer i)
        (historyOf i steps) := by
  funext i
  by_cases hi : t.thread = i
  · subst hi
    simp [historyOf, Automaton.after, Automaton.advance]
  · have hne : i ≠ t.thread := Ne.symm hi
    simp [historyOf, Automaton.advance, hi, hne]

/-- What every step keeps holds after a run, of the stages that the programs are in. -/
theorem preserves (h : Runs M pool s steps pool' s')
    (hpool : ∀ i, (automata i).Conforms (ends i) (stages i) (pool i)) {I : (ι → γ) → σ → Prop}
    (kept : Automaton.Preserves automata M I) (start : I stages s) :
    I (fun i => (automata i).after (stages i) (historyOf i steps)) s' := by
  induction h generalizing stages with
  | stop pool s => exact start
  | @step pool pool' s s' steps i op rest next ready later ih =>
    have hcall := hpool i
    rw [next] at hcall
    rw [after_historyOf_cons]
    refine ih (fun j => ?_) (kept stages s i op start hcall.1 ready)
    by_cases hij : j = i
    · subst hij
      rw [Function.update_self, Automaton.advance, Function.update_self]
      exact hcall.2 _
    · rw [Function.update_of_ne hij, Automaton.advance, Function.update_of_ne hij]
      exact hpool j

/-- Before each step of a run the invariant holds, and the call that is made is allowed. -/
theorem preserves_at {early late : List (Step ι Answer ε σ)} {t : Step ι Answer ε σ}
    (h : Runs M pool s (early ++ t :: late) pool' s')
    (hpool : ∀ i, (automata i).Conforms (ends i) (stages i) (pool i)) {I : (ι → γ) → σ → Prop}
    (kept : Automaton.Preserves automata M I) (start : I stages s) :
    I (fun i => (automata i).after (stages i) (historyOf i early)) t.before ∧
      (automata t.thread).allows
        ((automata t.thread).after (stages t.thread) (historyOf t.thread early)) t.entry.op ∧
      M.ready t.entry.op t.before = true := by
  obtain ⟨between, s₁, hearly, hlate⟩ := h.split
  have hI := hearly.preserves hpool kept start
  have hpool' := fun i => hearly.conforms hpool i
  cases hlate with
  | step i next ready later =>
    have hcall := hpool' i
    rw [next] at hcall
    exact ⟨hI, hcall.1, ready⟩

end Runs

end StoreProgram
