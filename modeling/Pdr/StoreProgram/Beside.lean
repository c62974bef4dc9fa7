import Mathlib.Data.List.Induction
import Pdr.StoreProgram.Automaton

/-!
# Programs beside others of another kind

Two machines over one state answer calls of different kinds. A program that makes calls of
one kind runs on both of them together as it does on its own machine, and follows the
automaton it followed. So what is known of a family of programs can be used where programs
of another kind take part in the runs.

## Main definitions

* `StoreProgram.Both`: the answers to calls of two kinds.
* `StoreProgram.Machine.beside`: two machines over one state.
* `StoreProgram.Program.beside`, `StoreProgram.Automaton.beside`: a program and its automaton
  among calls of another kind.

## Main results

* `StoreProgram.Automaton.Conforms.beside`: a program goes on to follow its automaton.
* `StoreProgram.Linked.last_change`: the step since which a reading of the state has not
  changed.
-/

namespace StoreProgram

variable {Op Op' : Type} {Answer : Op → Type} {Answer' : Op' → Type} {ε α β γ σ ι : Type}

/-- The answers to calls of two kinds. -/
abbrev Both (Answer : Op → Type) (Answer' : Op' → Type) : Op ⊕ Op' → Type
  | .inl op => Answer op
  | .inr op => Answer' op

/-- Two machines over one state. -/
def Machine.beside (M : Machine Answer ε σ) (N : Machine Answer' ε σ) :
    Machine (Both Answer Answer') ε σ where
  exec
    | .inl op => M.exec op
    | .inr op => N.exec op
  ready
    | .inl op => M.ready op
    | .inr op => N.ready op

/-- A program among calls of another kind; what it returns is told by `tell`. -/
def Program.beside (tell : α → β) : Program Answer ε α → Program (Both Answer Answer') ε β
  | .done value => .done (tell value)
  | .raise error => .raise error
  | .call op rest => .call (.inl op) fun answer => (rest answer).beside tell

namespace Automaton

/-- The automaton of a program among calls of another kind, which it does not make. -/
def beside (A : Automaton Answer ε γ) : Automaton (Both Answer Answer') ε γ where
  allows
    | stage, .inl op => A.allows stage op
    | _, .inr _ => False
  next
    | stage, .inl op, answer => A.next stage op answer
    | stage, .inr _, _ => stage

/-- A program follows its automaton among other calls too. -/
theorem Conforms.beside {A : Automaton Answer ε γ} {ends : γ → Except ε α → Prop} {stage : γ}
    {program : Program Answer ε α} (h : A.Conforms ends stage program) (tell : α → β) :
    (A.beside : Automaton (Both Answer Answer') ε γ).Conforms
      (fun stage outcome => ∃ own, outcome = own.map tell ∧ ends stage own) stage
      (program.beside tell) := by
  induction program generalizing stage with
  | done value => exact ⟨.ok value, rfl, h⟩
  | raise error => exact ⟨.error error, rfl, h⟩
  | call op rest ih => exact ⟨h.1, fun answer => ih answer (h.2 answer)⟩

end Automaton

/-! ### Single steps -/

theorem Runs.after_eq [DecidableEq ι] {M : Machine Answer ε σ} {pool pool' : ι → Program Answer ε α}
    {s s' : σ} {steps : List (Step ι Answer ε σ)} (h : Runs M pool s steps pool' s')
    {t : Step ι Answer ε σ} (ht : t ∈ steps) {op : Op} (hop : t.entry.op = op) :
    t.after = (M.exec op t.before).2 := by
  subst hop
  rw [h.exec_eq ht]

/-- What holds at the end and did not at the start has come with some step, and has held
since. -/
theorem Linked.last_change {M : Machine Answer ε σ} {s s' : σ} {steps : List (Step ι Answer ε σ)}
    (h : Linked M s steps s') {P : σ → Prop} (start : ¬ P s) (last : P s') :
    ∃ early t late, steps = early ++ t :: late ∧ ¬ P t.before ∧ P t.after ∧
      ∀ u ∈ late, P u.before ∧ P u.after := by
  induction steps using List.reverseRecOn generalizing s' with
  | nil =>
    obtain rfl : s = s' := h
    exact absurd last start
  | append_singleton steps t ih =>
    obtain ⟨between, hsteps, hbefore, -, hafter⟩ := Linked.append.1 h
    obtain rfl : t.after = s' := hafter
    by_cases held : P t.before
    · obtain ⟨early, u, late, rfl, hu, hu', hlate⟩ := ih hsteps (hbefore ▸ held)
      refine ⟨early, u, late ++ [t], by simp, hu, hu', fun v hv => ?_⟩
      rcases List.mem_append.1 hv with hv | hv
      · exact hlate v hv
      · exact List.mem_singleton.1 hv ▸ ⟨held, last⟩
    · exact ⟨steps, t, [], rfl, held, last, nofun⟩

end StoreProgram
