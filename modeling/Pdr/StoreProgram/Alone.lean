import Pdr.StoreProgram.Program

/-!
# A program that runs alone

Laws about a run of one program, proved part by part: what it keeps whatever its outcome is,
which errors it does not end with, and what it spares when it ends with one. Each law has a
rule for a sequence, so that the law for a program follows its text.

## Main definitions

* `StoreProgram.Program.Maintains`: a predicate holds after the program if it held before.
* `StoreProgram.Program.Avoids`: the program does not end with errors of some kind.
* `StoreProgram.Program.Spares`: where it ends with one, a part of the state is as before.
* `StoreProgram.Program.Along`: each call of the run is made in a state that suits it.
* `StoreProgram.Program.RaisesOnly`: the errors a program raises by itself.
* `StoreProgram.Program.Yields`: what the outcome and the state after a run satisfy.

## Main results

* `StoreProgram.Program.Maintains.bind`, `StoreProgram.Program.Avoids.bind`,
  `StoreProgram.Program.Spares.bind`: the rules for sequences.
* `StoreProgram.Program.maintains_of_only`: what the calls keep, the program keeps.
* `StoreProgram.Program.Along.bind`: the rule for the calls of a sequence.
* `StoreProgram.Program.Along.error`: where every call is answered, the error is the program's own.
-/

namespace StoreProgram.Program

variable {Op : Type} {Answer : Op → Type} {ε α β σ τ : Type} {M : Machine Answer ε σ}
  {program : Program Answer ε α} {next : α → Program Answer ε β}

/-! ### What is kept -/

/-- Run from a state with `P` the program ends in one, whatever its outcome is. -/
def Maintains (M : Machine Answer ε σ) (P : σ → Prop) (program : Program Answer ε α) : Prop :=
  ∀ s, P s → P (program.run M s).2

section Maintains

variable {P : σ → Prop}

@[simp] theorem maintains_done (value : α) :
    (done value : Program Answer ε α).Maintains M P := fun _ start => start

@[simp] theorem maintains_raise (error : ε) :
    (raise error : Program Answer ε α).Maintains M P := fun _ start => start

@[simp] theorem maintains_ofExcept (outcome : Except ε α) :
    (ofExcept outcome : Program Answer ε α).Maintains M P := by
  intro s start
  rwa [run_ofExcept]

theorem maintains_perform {op : Op} :
    (perform op : Program Answer ε _).Maintains M P ↔ ∀ s, P s → P (M.exec op s).2 := by
  simp only [Maintains, run_perform]

theorem Maintains.bind (first : program.Maintains M P)
    (second : ∀ value, (next value).Maintains M P) : (program >>= next).Maintains M P := by
  intro s start
  have hfirst := first s start
  rw [run_bind]
  rcases hrun : program.run M s with ⟨outcome, between⟩
  rw [hrun] at hfirst
  cases outcome with
  | ok value => exact second value between hfirst
  | error error => exact hfirst

theorem maintains_ofExcept_bind {outcome : Except ε α}
    (second : ∀ value, outcome = .ok value → (next value).Maintains M P) :
    (ofExcept outcome >>= next).Maintains M P := by
  cases outcome with
  | ok value => exact second value rfl
  | error error => exact maintains_raise error

/-- What every allowed call keeps, a program of allowed calls keeps. -/
theorem maintains_of_only {allowed : Op → Prop}
    (kept : ∀ op, allowed op → ∀ s, P s → P (M.exec op s).2) (hallowed : Only allowed program) :
    program.Maintains M P := fun _ start => run_keeps_of_only kept hallowed start

end Maintains

/-! ### Which errors it ends with -/

/-- The program does not end with an error of the kind `bad`. -/
def Avoids (M : Machine Answer ε σ) (bad : ε → Prop) (program : Program Answer ε α) : Prop :=
  ∀ s error s', program.run M s = (.error error, s') → ¬ bad error

/-- Where the program ends with an error of the kind `bad`, what is seen by `view` is as
before. -/
def Spares (M : Machine Answer ε σ) (bad : ε → Prop) (view : σ → τ) (program : Program Answer ε α) :
    Prop :=
  ∀ s error s', program.run M s = (.error error, s') → bad error → view s' = view s

section Errors

variable {bad : ε → Prop} {view : σ → τ}

@[simp] theorem avoids_done (value : α) : (done value : Program Answer ε α).Avoids M bad := by
  intro s error s' h
  cases h

theorem avoids_perform (good : ∀ op s error, (M.exec op s).1 = .error error → ¬ bad error)
    (op : Op) : (perform op : Program Answer ε _).Avoids M bad := by
  intro s error s' h
  rw [run_perform] at h
  exact good op s error (congrArg Prod.fst h)

theorem Avoids.bind (first : program.Avoids M bad) (second : ∀ value, (next value).Avoids M bad) :
    (program >>= next).Avoids M bad := by
  intro s error s' h
  rcases (run_bind_eq_error M).1 h with hfirst | ⟨middle, between, -, hnext⟩
  · exact first s error s' hfirst
  · exact second middle between error s' hnext

theorem Avoids.spares (h : program.Avoids M bad) : program.Spares M bad view :=
  fun s error s' hrun hbad => absurd hbad (h s error s' hrun)

@[simp] theorem spares_done (value : α) : (done value : Program Answer ε α).Spares M bad view :=
  (avoids_done value).spares

@[simp] theorem spares_raise (error : ε) :
    (raise error : Program Answer ε α).Spares M bad view := by
  intro s error' s' h _
  cases h
  rfl

/-- What is seen stays as it is in the first part, and the second part spares it. -/
theorem Spares.bind (first : ∀ seen, program.Maintains M fun s => view s = seen)
    (second : ∀ value, (next value).Spares M bad view) : (program >>= next).Spares M bad view := by
  intro s error s' h hbad
  have hfirst := first (view s) s rfl
  rcases (run_bind_eq_error M).1 h with hrun | ⟨middle, between, hrun, hnext⟩
  · rwa [hrun] at hfirst
  · rw [hrun] at hfirst
    rw [second middle between error s' hnext hbad, hfirst]

end Errors

/-! ### The calls of a run -/

/-- Each call that the run from this state makes suits the state it is made in. -/
def Along (M : Machine Answer ε σ) (suits : Op → σ → Prop) : Program Answer ε α → σ → Prop
  | done _, _ => True
  | raise _, _ => True
  | call op rest, s => suits op s ∧ Along M suits (rest (M.exec op s).1) (M.exec op s).2

/-- As long as its calls are answered, the program raises errors of this kind only. -/
def RaisesOnly (own : ε → Prop) : Program Answer ε α → Prop
  | done _ => True
  | raise error => own error
  | call _ rest => ∀ value, RaisesOnly own (rest (.ok value))

section Along

variable {suits suits' : Op → σ → Prop} {s : σ}

@[simp] theorem along_ofExcept (outcome : Except ε α) :
    (ofExcept outcome : Program Answer ε α).Along M suits s := by
  cases outcome <;> trivial

@[simp] theorem along_perform (op : Op) :
    (perform op : Program Answer ε _).Along M suits s ↔ suits op s := by
  simp [perform, Along]

theorem Along.bind (first : program.Along M suits s)
    (second : ∀ value s', program.run M s = (.ok value, s') → (next value).Along M suits s') :
    (program >>= next).Along M suits s := by
  induction program generalizing s with
  | done value => exact second value s rfl
  | raise error => trivial
  | call op rest ih => exact ⟨first.1, ih (M.exec op s).1 first.2 second⟩

theorem along_ofExcept_bind {outcome : Except ε α}
    (second : ∀ value, outcome = .ok value → (next value).Along M suits s) :
    (ofExcept outcome >>= next).Along M suits s := by
  cases outcome with
  | ok value => exact second value rfl
  | error error => trivial

theorem along_perform_bind {op : Op} {next : Answer op → Program Answer ε β} (first : suits op s)
    (second : ∀ value s', M.exec op s = (.ok value, s') → (next value).Along M suits s') :
    (perform op >>= next).Along M suits s :=
  Along.bind ((along_perform op).2 first) fun value s' h =>
    second value s' (by rwa [run_perform] at h)

theorem along_of_only {allowed : Op → Prop} (h : ∀ op, allowed op → ∀ s, suits op s)
    (hallowed : Only allowed program) (s : σ) : program.Along M suits s := by
  induction program generalizing s with
  | done value => trivial
  | raise error => trivial
  | call op rest ih => exact ⟨h op hallowed.1 s, ih _ (hallowed.2 _ trivial) _⟩

theorem Along.mono (h : program.Along M suits s) (hle : ∀ op s, suits op s → suits' op s) :
    program.Along M suits' s := by
  induction program generalizing s with
  | done value => trivial
  | raise error => trivial
  | call op rest ih => exact ⟨hle op s h.1, ih _ h.2⟩

/-- Where every call of the run is answered, an error at the end is the program's own. -/
theorem Along.error {own : ε → Prop} {error : ε} {s' : σ}
    (h : program.Along M (fun op s => ∃ value, (M.exec op s).1 = .ok value) s)
    (hown : program.RaisesOnly own) (hrun : program.run M s = (.error error, s')) : own error := by
  induction program generalizing s with
  | done value => cases hrun
  | raise raised =>
    cases hrun
    exact hown
  | call op rest ih =>
    obtain ⟨⟨value, hvalue⟩, hrest⟩ := h
    rw [run_call] at hrun
    refine ih _ hrest ?_ hrun
    rw [hvalue]
    exact hown value

end Along

section RaisesOnly

variable {own : ε → Prop}

theorem raisesOnly_ofExcept {outcome : Except ε α}
    (h : ∀ error, outcome = .error error → own error) :
    (ofExcept outcome : Program Answer ε α).RaisesOnly own := by
  cases outcome with
  | ok value => trivial
  | error error => exact h error rfl

@[simp] theorem raisesOnly_perform (op : Op) :
    (perform op : Program Answer ε _).RaisesOnly own := fun _ => trivial

theorem RaisesOnly.bind (first : program.RaisesOnly own)
    (second : ∀ value, (next value).RaisesOnly own) : (program >>= next).RaisesOnly own := by
  induction program with
  | done value => exact second value
  | raise error => exact first
  | call op rest ih => exact fun value => ih (.ok value) (first value)

end RaisesOnly

/-! ### How a run ends -/

/-- The run from this state ends with an outcome and in a state that satisfy `Q`. -/
def Yields (M : Machine Answer ε σ) (Q : Except ε α → σ → Prop) (program : Program Answer ε α)
    (s : σ) : Prop :=
  Q (program.run M s).1 (program.run M s).2

section Yields

variable {Q : Except ε β → σ → Prop} {s : σ}

theorem Yields.of_run {Q : Except ε α → σ → Prop} (h : program.Yields M Q s)
    {outcome : Except ε α} {s' : σ} (hrun : program.run M s = (outcome, s')) : Q outcome s' := by
  rwa [Yields, hrun] at h

theorem Yields.bind
    (failed : ∀ error s', program.run M s = (.error error, s') → Q (.error error) s')
    (second : ∀ value s', program.run M s = (.ok value, s') → (next value).Yields M Q s') :
    (program >>= next).Yields M Q s := by
  rw [Yields, run_bind]
  rcases hrun : program.run M s with ⟨outcome, s'⟩
  cases outcome with
  | ok value => exact second value s' hrun
  | error error => exact failed error s' hrun

theorem yields_ofExcept_bind {outcome : Except ε α}
    (failed : ∀ error, outcome = .error error → Q (.error error) s)
    (second : ∀ value, outcome = .ok value → (next value).Yields M Q s) :
    (ofExcept outcome >>= next).Yields M Q s := by
  cases outcome with
  | ok value => exact second value rfl
  | error error => exact failed error rfl

theorem yields_perform_bind {op : Op} {next : Answer op → Program Answer ε β}
    (failed : ∀ error s', M.exec op s = (.error error, s') → Q (.error error) s')
    (second : ∀ value s', M.exec op s = (.ok value, s') → (next value).Yields M Q s') :
    (perform op >>= next).Yields M Q s :=
  Yields.bind (fun error s' h => failed error s' (by rwa [run_perform] at h))
    fun value s' h => second value s' (by rwa [run_perform] at h)

theorem Yields.and_then {P : σ → Prop} (first : program.Yields M (fun _ => P) s)
    (second : ∀ value s', P s' → (next value).Yields M (fun _ => P) s') :
    (program >>= next).Yields M (fun _ => P) s := by
  refine Yields.bind (fun error s' hrun => ?_) fun value s' hrun => second value s' ?_
  · rwa [Yields, hrun] at first
  · rwa [Yields, hrun] at first

theorem Maintains.yields {P : σ → Prop} (h : program.Maintains M P) (start : P s) :
    program.Yields M (fun _ => P) s :=
  h s start

end Yields

end StoreProgram.Program
