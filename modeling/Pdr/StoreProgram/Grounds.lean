import Mathlib.Data.List.Induction
import Pdr.StoreProgram.Interleaving

/-!
# Calls that have their grounds

A program makes a call because of what it was told before. `Grounded` says of every call of a
program on which earlier answers it rests, whatever the answers are. In a run among others the
same holds of every step: the part of the record that belongs to its program has the answers on
which the call rests. What a state holds at the end of a run is traced to the start, or to the
step that made it, and so to the grounds of that step.

## Main definitions

* `StoreProgram.Program.Grounded`: every call has its grounds in the answers before it.
* `StoreProgram.Lineage`: what the calls of a machine make, and what they pass on.

## Main results

* `StoreProgram.Program.Grounded.bind`, `StoreProgram.Program.grounded_perform_bind`: how the
  grounds of a sequence are put together.
* `StoreProgram.Runs.grounded`: every step of a run has its grounds.
* `StoreProgram.Runs.comes_from`: what is there was there, or a step with its grounds made it.
-/

namespace StoreProgram

variable {ι Op : Type} {Answer : Op → Type} {ε α β σ : Type}

namespace Program

/-- Every call has its grounds in what the program was told before, `told` to begin with. -/
def Grounded (grounds : List (Entry Answer ε) → Op → Prop) :
    List (Entry Answer ε) → Program Answer ε α → Prop
  | _, done _ => True
  | _, raise _ => True
  | told, call op rest =>
    grounds told op ∧ ∀ answer, Grounded grounds (told ++ [⟨op, answer⟩]) (rest answer)

variable {grounds : List (Entry Answer ε) → Op → Prop} {told : List (Entry Answer ε)}

@[simp] theorem grounded_done (value : α) :
    Grounded grounds told (done value : Program Answer ε α) := trivial

@[simp] theorem grounded_raise (error : ε) :
    Grounded grounds told (raise error : Program Answer ε α) := trivial

theorem grounded_ofExcept_bind {outcome : Except ε α} {next : α → Program Answer ε β}
    (h : ∀ value, outcome = .ok value → Grounded grounds told (next value)) :
    Grounded grounds told (ofExcept outcome >>= next) := by
  cases outcome with
  | ok value => exact h value rfl
  | error error => trivial

/-- After a call only its values matter. -/
theorem grounded_perform_bind {op : Op} {next : Answer op → Program Answer ε β}
    (first : grounds told op)
    (second : ∀ value, Grounded grounds (told ++ [⟨op, .ok value⟩]) (next value)) :
    Grounded grounds told (perform op >>= next) := by
  refine ⟨first, fun answer => ?_⟩
  cases answer with
  | ok value => exact second value
  | error error => trivial

theorem grounded_perform {op : Op} (h : grounds told op) :
    Grounded grounds told (perform op : Program Answer ε (Answer op)) := by
  refine ⟨h, fun answer => ?_⟩
  cases answer <;> trivial

/-- The second part of a sequence was told what the first part was. -/
theorem Grounded.bind {program : Program Answer ε α} {next : α → Program Answer ε β}
    (first : Grounded grounds told program)
    (second : ∀ history value, program.Returns history value →
      Grounded grounds (told ++ history) (next value)) :
    Grounded grounds told (program >>= next) := by
  induction program generalizing told with
  | done value => simpa using second [] value (.stay _)
  | raise error => trivial
  | call op rest ih =>
    refine ⟨first.1, fun answer => ih answer (first.2 answer) fun history value h => ?_⟩
    have hnext := second (⟨op, answer⟩ :: history) value (.step h)
    rwa [List.append_cons] at hnext

/-- Calls that need no grounds. -/
theorem Only.grounded {allowed : Op → Prop} {program : Program Answer ε α}
    (h : program.Only allowed) (hfree : ∀ told op, allowed op → grounds told op) :
    Grounded grounds told program := by
  induction program generalizing told with
  | done value => trivial
  | raise error => trivial
  | call op rest ih => exact ⟨hfree told op h.1, fun answer => ih answer (h.2 answer trivial)⟩

/-- Along a history what is left of the program goes on to have its grounds. -/
theorem Follows.grounded {program program' : Program Answer ε α} {history : List (Entry Answer ε)}
    (h : Follows program history program') (hprogram : Grounded grounds told program) :
    Grounded grounds (told ++ history) program' := by
  induction h generalizing told with
  | stay program => simpa using hprogram
  | @step op rest answer history program h ih =>
    have hrest := ih (hprogram.2 answer)
    rwa [← List.append_cons] at hrest

end Program

/-- **Every step of a run** has its grounds in what its program was told in the run before. -/
theorem Runs.grounded [DecidableEq ι] {M : Machine Answer ε σ}
    {pool pool' : ι → Program Answer ε α} {s s' : σ} {early late : List (Step ι Answer ε σ)}
    {t : Step ι Answer ε σ} (h : Runs M pool s (early ++ t :: late) pool' s')
    {grounds : ι → List (Entry Answer ε) → Op → Prop}
    (hpool : ∀ i, (pool i).Grounded (grounds i) []) :
    grounds t.thread (historyOf t.thread early) t.entry.op := by
  obtain ⟨between, s₁, hearly, hlate⟩ := h.split
  cases hlate with
  | step i next ready later =>
    have hgrounded := (hearly.follows i).grounded (hpool i)
    rw [next, List.nil_append] at hgrounded
    exact hgrounded.1

/-- What a program was told in a run, it was told by the machine. -/
theorem Runs.told [DecidableEq ι] {M : Machine Answer ε σ} {pool pool' : ι → Program Answer ε α}
    {s s' : σ} {early late : List (Step ι Answer ε σ)}
    (h : Runs M pool s (early ++ late) pool' s') {i : ι} {op : Op} {answer : Except ε (Answer op)}
    (htold : ⟨op, answer⟩ ∈ historyOf i early) :
    ∃ before u after, early = before ++ u :: after ∧ u.thread = i ∧ u.entry = ⟨op, answer⟩ ∧
      M.exec op u.before = (answer, u.after) := by
  obtain ⟨u, hu, hthread, hentry⟩ := Runs.exists_step htold
  obtain ⟨before, after, rfl⟩ := List.append_of_mem hu
  refine ⟨before, u, after, rfl, hthread, hentry, ?_⟩
  have hexec := h.exec_eq (List.mem_append_left late hu)
  rw [hentry] at hexec
  exact hexec

theorem Runs.linked_before [DecidableEq ι] {M : Machine Answer ε σ}
    {pool pool' : ι → Program Answer ε α} {s s' : σ} {early late : List (Step ι Answer ε σ)}
    {t : Step ι Answer ε σ} (h : Runs M pool s (early ++ t :: late) pool' s') :
    Linked M s early t.before := by
  obtain ⟨between, hearly, hbefore, -⟩ := Linked.append.1 h.linked
  exact hbefore ▸ hearly

/-! ### Ancestors -/

/-- Things that the states of a machine hold: a call passes them on, as descendants of what they
were, or makes them. -/
structure Lineage (M : Machine Answer ε σ) (ρ : Type) where
  holds : σ → ρ → Prop
  ancestor : ρ → ρ → Prop
  makes : σ → Op → ρ → Prop
  refl : ∀ thing, ancestor thing thing
  trans : ∀ {first second third}, ancestor first second → ancestor second third →
    ancestor first third
  step : ∀ op s thing, holds (M.exec op s).2 thing →
    (∃ was, holds s was ∧ ancestor was thing) ∨ makes s op thing

variable {ρ : Type} {M : Machine Answer ε σ}

/-- What is there at the end of a record descends from what was there at its start, or from what
one of its steps made. -/
theorem Linked.comes_from (L : Lineage M ρ) {s s' : σ} {steps : List (Step ι Answer ε σ)}
    (h : Linked M s steps s') {thing : ρ} (last : L.holds s' thing) :
    (∃ was, L.holds s was ∧ L.ancestor was thing) ∨
      ∃ early t late made, steps = early ++ t :: late ∧ L.makes t.before t.entry.op made ∧
        L.ancestor made thing := by
  induction steps using List.reverseRecOn generalizing s' thing with
  | nil =>
    obtain rfl : s = s' := h
    exact Or.inl ⟨thing, last, L.refl thing⟩
  | append_singleton steps t ih =>
    obtain ⟨between, hsteps, rfl, hexec, rfl⟩ := Linked.append.1 h
    have hlast : L.holds (M.exec t.entry.op t.before).2 thing := by rwa [hexec]
    rcases L.step t.entry.op t.before thing hlast with ⟨was, hwas, hancestor⟩ | hmade
    · rcases ih hsteps hwas with ⟨first, hfirst, hdescends⟩ | ⟨early, u, late, made, rfl, hmade,
        hdescends⟩
      · exact Or.inl ⟨first, hfirst, L.trans hdescends hancestor⟩
      · exact Or.inr ⟨early, u, late ++ [t], made, by simp, hmade, L.trans hdescends hancestor⟩
    · exact Or.inr ⟨steps, t, [], thing, rfl, hmade, L.refl thing⟩

/-- What holds at the start holds throughout, if each step keeps it given that it held all the
time before. -/
theorem Linked.keeps_looking_back {s s' : σ} {steps : List (Step ι Answer ε σ)}
    (h : Linked M s steps s') {P : σ → Prop} (start : P s)
    (kept : ∀ early t late, steps = early ++ t :: late → (∀ u ∈ early, P u.before) → P t.before →
      P t.after) : P s' ∧ ∀ u ∈ steps, P u.before := by
  induction steps using List.reverseRecOn generalizing s' with
  | nil =>
    obtain rfl : s = s' := h
    exact ⟨start, fun u hu => absurd hu List.not_mem_nil⟩
  | append_singleton steps t ih =>
    obtain ⟨between, hsteps, rfl, -, rfl⟩ := Linked.append.1 h
    obtain ⟨hbefore, hpast⟩ := ih hsteps fun early u late hcut =>
      kept early u (late ++ [t]) (by simp [hcut])
    refine ⟨kept steps t [] rfl hpast hbefore, fun u hu => ?_⟩
    rcases List.mem_append.1 hu with hu | hu
    · exact hpast u hu
    · exact List.mem_singleton.1 hu ▸ hbefore

section Grounds

variable [DecidableEq ι] (L : Lineage M ρ) {pool pool' : ι → Program Answer ε α} {s s' : σ}
  {grounds : ι → List (Entry Answer ε) → Op → Prop} {thing : ρ}

/-- **What a step finds** was there at the start, or an earlier step made it, on its grounds. -/
theorem Runs.comes_from {early late : List (Step ι Answer ε σ)} {t : Step ι Answer ε σ}
    (h : Runs M pool s (early ++ t :: late) pool' s')
    (hpool : ∀ i, (pool i).Grounded (grounds i) []) (found : L.holds t.before thing) :
    (∃ was, L.holds s was ∧ L.ancestor was thing) ∨
      ∃ before u after made, early = before ++ u :: after ∧ L.makes u.before u.entry.op made ∧
        L.ancestor made thing ∧ grounds u.thread (historyOf u.thread before) u.entry.op := by
  refine (h.linked_before.comes_from L found).imp_right ?_
  rintro ⟨before, u, after, made, rfl, hmade, hancestor⟩
  rw [List.append_assoc, List.cons_append] at h
  exact ⟨before, u, after, made, rfl, hmade, hancestor, h.grounded hpool⟩

/-- **What is there at the end of a run** was there at its start, or a step made it, on its
grounds. -/
theorem Runs.end_comes_from {steps : List (Step ι Answer ε σ)} (h : Runs M pool s steps pool' s')
    (hpool : ∀ i, (pool i).Grounded (grounds i) []) (last : L.holds s' thing) :
    (∃ was, L.holds s was ∧ L.ancestor was thing) ∨
      ∃ early t late made, steps = early ++ t :: late ∧ L.makes t.before t.entry.op made ∧
        L.ancestor made thing ∧ grounds t.thread (historyOf t.thread early) t.entry.op := by
  refine (h.linked.comes_from L last).imp_right ?_
  rintro ⟨early, t, late, made, rfl, hmade, hancestor⟩
  exact ⟨early, t, late, made, rfl, hmade, hancestor, h.grounded hpool⟩

end Grounds

end StoreProgram
