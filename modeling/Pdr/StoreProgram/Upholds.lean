import Pdr.StoreProgram.Program

/-!
# What holds all the way through

Between two calls of a program anybody may look at the store, so it is not enough that a
program ends well. `Upholds P Q` says that every state the run passes satisfies `P`, the first
and the last included, and that the outcome and the last state satisfy `Q`. The rules follow
the text of the program.

## Main definitions

* `StoreProgram.Program.Upholds`: the statement about a run.

## Main results

* `StoreProgram.Program.Upholds.bind`, `StoreProgram.Program.Upholds.tryCatch`: the rules for
  sequences and for handlers.
* `StoreProgram.Program.Upholds.of_run`: what a run that is known has reached.
-/

namespace StoreProgram.Program

variable {Op : Type} {Answer : Op → Type} {ε α β σ : Type}

/-- Every state that the run from this state passes satisfies `P`, and the outcome and the
last state satisfy `Q`. -/
def Upholds (M : Machine Answer ε σ) (P : σ → Prop) (Q : Except ε α → σ → Prop) :
    Program Answer ε α → σ → Prop
  | done value, s => P s ∧ Q (.ok value) s
  | raise error, s => P s ∧ Q (.error error) s
  | call op rest, s => P s ∧ Upholds M P Q (rest (M.exec op s).1) (M.exec op s).2

variable {M : Machine Answer ε σ} {P P' : σ → Prop} {s s' : σ}

@[simp] theorem upholds_done {Q : Except ε α → σ → Prop} {value : α} :
    (done value : Program Answer ε α).Upholds M P Q s ↔ P s ∧ Q (.ok value) s := Iff.rfl

@[simp] theorem upholds_raise {Q : Except ε α → σ → Prop} {error : ε} :
    (raise error : Program Answer ε α).Upholds M P Q s ↔ P s ∧ Q (.error error) s := Iff.rfl

@[simp] theorem upholds_ofExcept {Q : Except ε α → σ → Prop} {outcome : Except ε α} :
    (ofExcept outcome : Program Answer ε α).Upholds M P Q s ↔ P s ∧ Q outcome s := by
  cases outcome <;> rfl

@[simp] theorem upholds_perform {op : Op} {Q : Except ε (Answer op) → σ → Prop} :
    (perform op : Program Answer ε _).Upholds M P Q s ↔
      P s ∧ P (M.exec op s).2 ∧ Q (M.exec op s).1 (M.exec op s).2 := by
  simp [perform, Upholds]

variable {program : Program Answer ε α} {next : α → Program Answer ε β}

theorem Upholds.start {Q : Except ε α → σ → Prop} (h : program.Upholds M P Q s) : P s := by
  cases program with
  | done value => exact h.1
  | raise error => exact h.1
  | call op rest => exact h.1

/-- The second part takes over where the first part ends with a value. -/
theorem Upholds.bind {Q : Except ε α → σ → Prop} {R : Except ε β → σ → Prop}
    (first : program.Upholds M P Q s)
    (failed : ∀ error s', P s' → Q (.error error) s' → R (.error error) s')
    (second : ∀ value s', P s' → Q (.ok value) s' → (next value).Upholds M P R s') :
    (program >>= next).Upholds M P R s := by
  induction program generalizing s with
  | done value => exact second value s first.1 first.2
  | raise error => exact ⟨first.1, failed error s first.1 first.2⟩
  | call op rest ih => exact ⟨first.1, ih (M.exec op s).1 first.2⟩

/-- A handler takes over where the program ends with an error. -/
theorem Upholds.tryCatch {Q R : Except ε α → σ → Prop} {handler : ε → Program Answer ε α}
    (first : program.Upholds M P Q s)
    (returned : ∀ value s', P s' → Q (.ok value) s' → R (.ok value) s')
    (handled : ∀ error s', P s' → Q (.error error) s' → (handler error).Upholds M P R s') :
    (program.tryCatch handler).Upholds M P R s := by
  induction program generalizing s with
  | done value => exact ⟨first.1, returned value s first.1 first.2⟩
  | raise error => exact handled error s first.1 first.2
  | call op rest ih => exact ⟨first.1, ih (M.exec op s).1 first.2⟩

theorem Upholds.mono {Q R : Except ε α → σ → Prop} (h : program.Upholds M P Q s)
    (hP : ∀ s, P s → P' s) (hQ : ∀ outcome s, P s → Q outcome s → R outcome s) :
    program.Upholds M P' R s := by
  induction program generalizing s with
  | done value => exact ⟨hP s h.1, hQ _ s h.1 h.2⟩
  | raise error => exact ⟨hP s h.1, hQ _ s h.1 h.2⟩
  | call op rest ih => exact ⟨hP s h.1, ih _ h.2⟩

/-- What a run that is known has reached. -/
theorem Upholds.of_run {Q : Except ε α → σ → Prop} {outcome : Except ε α}
    (h : program.Upholds M P Q s) (hrun : program.run M s = (outcome, s')) :
    P s' ∧ Q outcome s' := by
  induction program generalizing s with
  | done value =>
    cases hrun
    exact h
  | raise error =>
    cases hrun
    exact h
  | call op rest ih => exact ih _ h.2 hrun

end StoreProgram.Program
