import Pdr.StoreProgram.Program

/-!
# Two runs side by side

What a program gives away is a matter of two of its runs: if they start in different states and
come to the same outcome by calls that look the same, nothing about the difference is given away.
Two programs are compared, since after an answer that differs the same program goes on in two ways.

## Main definitions

* `StoreProgram.Program.calls`: the calls a run makes.
* `StoreProgram.Program.Alike`: two runs with the same outcome and the same visible calls, that end
  in related states.

## Main results

* `StoreProgram.Program.calls_bind`: the calls of a sequence are those of its parts.
* `StoreProgram.Program.Alike.bind`: sequences are alike where their parts are.
-/

namespace StoreProgram

namespace Program

variable {Op : Type} {Answer : Op → Type} {ε α β σ : Type}

/-- The calls a run makes, in their order. -/
def calls (M : Machine Answer ε σ) : Program Answer ε α → σ → List Op
  | done _, _ => []
  | raise _, _ => []
  | call op rest, s => op :: (rest (M.exec op s).1).calls M (M.exec op s).2

section Calls

variable {M : Machine Answer ε σ}

@[simp] theorem calls_done (value : α) (s : σ) :
    (done value : Program Answer ε α).calls M s = [] := rfl

@[simp] theorem calls_raise (error : ε) (s : σ) :
    (raise error : Program Answer ε α).calls M s = [] := rfl

@[simp] theorem calls_call (op : Op) (rest : Except ε (Answer op) → Program Answer ε α) (s : σ) :
    (call op rest).calls M s = op :: (rest (M.exec op s).1).calls M (M.exec op s).2 := rfl

@[simp] theorem calls_ofExcept (outcome : Except ε α) (s : σ) :
    (ofExcept outcome : Program Answer ε α).calls M s = [] := by
  cases outcome <;> rfl

@[simp] theorem calls_perform (op : Op) (s : σ) :
    (perform op : Program Answer ε _).calls M s = [op] := by
  simp [perform]

/-- The calls of a sequence are those of its first part and, if there is a value, of the rest. -/
theorem calls_bind (program : Program Answer ε α) (next : α → Program Answer ε β) (s : σ) :
    (program >>= next).calls M s = program.calls M s ++ match program.run M s with
      | (.ok value, s') => (next value).calls M s'
      | (.error _, _) => [] := by
  induction program generalizing s with
  | done value => rfl
  | raise error => rfl
  | call op rest ih =>
    rw [call_bind, calls_call, calls_call, run_call, ih, List.cons_append]

end Calls

/-- Two runs, each on its machine, have the same outcome, make the same visible calls and end in
related states. -/
structure Alike {V : Type} (M N : Machine Answer ε σ) (related : σ → σ → Prop)
    (visible : Op → Option V) (program program' : Program Answer ε α) (s t : σ) : Prop where
  outcome : (program.run M s).1 = (program'.run N t).1
  states : related (program.run M s).2 (program'.run N t).2
  seen : (program.calls M s).filterMap visible = (program'.calls N t).filterMap visible

section Alike

variable {V : Type} {M N : Machine Answer ε σ} {related : σ → σ → Prop} {visible : Op → Option V}
  {program program' : Program Answer ε α} {s t : σ}

theorem alike_done (value : α) (h : related s t) :
    Alike M N related visible (done value) (done value) s t :=
  ⟨rfl, h, rfl⟩

theorem alike_raise (error : ε) (h : related s t) :
    Alike M N related visible (raise error : Program Answer ε α) (raise error) s t :=
  ⟨rfl, h, rfl⟩

theorem alike_ofExcept (outcome : Except ε α) (h : related s t) :
    Alike M N related visible (ofExcept outcome) (ofExcept outcome) s t := by
  cases outcome with
  | ok value => exact alike_done value h
  | error error => exact alike_raise error h

theorem alike_perform {op : Op} (hanswer : (M.exec op s).1 = (N.exec op t).1)
    (hstates : related (M.exec op s).2 (N.exec op t).2) :
    Alike M N related visible (perform op) (perform op) s t :=
  ⟨by simpa using hanswer, by simpa using hstates, by simp⟩

/-- After parts that are alike the rests have the same value to go on with. -/
theorem Alike.bind {next next' : α → Program Answer ε β}
    (first : Alike M N related visible program program' s t)
    (second : ∀ value s' t', (program.run M s).1 = .ok value → related s' t' →
      Alike M N related visible (next value) (next' value) s' t') :
    Alike M N related visible (program >>= next) (program' >>= next') s t := by
  obtain ⟨houtcome, hstates, hseen⟩ := first
  have hcalls := calls_bind (M := M) program next s
  have hcalls' := calls_bind (M := N) program' next' t
  have hrun := run_bind M program next s
  have hrun' := run_bind N program' next' t
  rcases hfirst : program.run M s with ⟨outcome, s'⟩
  rcases hfirst' : program'.run N t with ⟨outcome', t'⟩
  rw [hfirst] at hcalls hrun houtcome hstates
  rw [hfirst'] at hcalls' hrun' houtcome hstates
  obtain rfl : outcome = outcome' := houtcome
  cases outcome with
  | error error =>
    refine ⟨by rw [hrun, hrun'], by rw [hrun, hrun']; exact hstates, ?_⟩
    rw [hcalls, hcalls', List.filterMap_append, List.filterMap_append, hseen]
  | ok value =>
    have hrest := second value s' t' (by rw [hfirst]) hstates
    refine ⟨?_, ?_, ?_⟩
    · rw [hrun, hrun']
      exact hrest.outcome
    · rw [hrun, hrun']
      exact hrest.states
    · rw [hcalls, hcalls', List.filterMap_append, List.filterMap_append, hseen]
      exact congrArg _ hrest.seen

end Alike

end Program

end StoreProgram
