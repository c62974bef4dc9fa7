import Mathlib.Data.List.Induction
import Pdr.StoreProgram.Interleaving

/-!
# One program after another

Where programs do not overlap, each of them is one step. A family of programs over a machine
makes a machine again, whose calls are the names of the programs; a record of them that fits
together is a sequential run. What every call of the machine below keeps, every program
keeps, and so does a run.

## Main definitions

* `StoreProgram.Machine.whole`: the machine whose calls are whole programs.
* `StoreProgram.Turn`: a program that was run, with its outcome and the states around it.
* `StoreProgram.turn`, `StoreProgram.turns`: the sequential run of a list of programs.

## Main results

* `StoreProgram.Machine.Keeps.whole`: what the calls keep, the programs keep.
* `StoreProgram.turns_linked`: what `turns` computes fits together.
* `StoreProgram.Linked.holds_later`: what holds after one turn and is kept holds before every
  later one.
* `StoreProgram.Linked.history`: the induction over a run that speaks of the steps so far.
* `StoreProgram.Linked.prefixes`: the induction over a run that may look back at any earlier step.
-/

namespace StoreProgram

variable {Op Command : Type} {Answer : Op → Type} {Value : Command → Type} {ε σ : Type}

/-- The machine whose calls are whole programs, each of them run alone. -/
def Machine.whole (M : Machine Answer ε σ)
    (program : (command : Command) → Program Answer ε (Value command)) : Machine Value ε σ where
  exec command s := (program command).run M s

theorem Machine.Keeps.whole {M : Machine Answer ε σ} {P : σ → Prop} (kept : M.Keeps P)
    (program : (command : Command) → Program Answer ε (Value command)) :
    (M.whole program).Keeps P := fun command _ start =>
  Program.run_keeps M kept (program command) start

/-- A program that was run, with its outcome and the states around it. -/
abbrev Turn {Command : Type} (Value : Command → Type) (ε σ : Type) : Type := Step Unit Value ε σ

/-- A call made in a state. -/
def turn (M : Machine Answer ε σ) (op : Op) (s : σ) : Step Unit Answer ε σ :=
  ⟨(), ⟨op, (M.exec op s).1⟩, s, (M.exec op s).2⟩

/-- The calls one after another, and the state after them. -/
def turns (M : Machine Answer ε σ) : List Op → σ → List (Step Unit Answer ε σ) × σ
  | [], s => ([], s)
  | op :: ops, s =>
    let later := turns M ops (turn M op s).after
    (turn M op s :: later.1, later.2)

theorem turns_linked (M : Machine Answer ε σ) (ops : List Op) (s : σ) :
    Linked M s (turns M ops s).1 (turns M ops s).2 := by
  induction ops generalizing s with
  | nil => rfl
  | cons op ops ih => exact ⟨rfl, rfl, ih _⟩

theorem turns_ops (M : Machine Answer ε σ) (ops : List Op) (s : σ) :
    (turns M ops s).1.map (·.entry.op) = ops := by
  induction ops generalizing s with
  | nil => rfl
  | cons op ops ih => exact congrArg (op :: ·) (ih _)

theorem turns_linked_turn (M : Machine Answer ε σ) (early late : List Op) (op : Op) (s : σ) :
    Linked M s ((turns M early s).1 ++ turn M op (turns M early s).2 ::
        (turns M late (turn M op (turns M early s).2).after).1)
      (turns M late (turn M op (turns M early s).2).after).2 :=
  Linked.append.2 ⟨_, turns_linked M early s, rfl, rfl, turns_linked M late _⟩

/-- Where no two members have a property, at most one has it. -/
theorem countP_le_one {α : Type} {p : α → Bool} {members : List α}
    (h : members.Pairwise fun a b => p a = true → p b = false) : members.countP p ≤ 1 := by
  induction members with
  | nil => exact Nat.zero_le 1
  | cons a members ih =>
    obtain ⟨hfirst, hrest⟩ := List.pairwise_cons.1 h
    by_cases ha : p a = true
    · have hnone : members.countP p = 0 :=
        List.countP_eq_zero.2 fun b hb => Bool.eq_false_iff.1 (hfirst b hb ha)
      simp [ha, hnone]
    · rw [List.countP_cons_of_neg ha]
      exact ih hrest

namespace Linked

variable {ι : Type} {M : Machine Answer ε σ} {s s' : σ}
  {steps early late : List (Step ι Answer ε σ)} {t u : Step ι Answer ε σ} {P : σ → Prop}

theorem split (h : Linked M s (early ++ t :: late) s') :
    Linked M s early t.before ∧ M.exec t.entry.op t.before = (t.entry.answer, t.after) ∧
      Linked M t.after late s' := by
  obtain ⟨between, hearly, hbefore, hexec, hlate⟩ := append.1 h
  exact ⟨hbefore ▸ hearly, hexec, hlate⟩

theorem holds_before (h : Linked M s steps s') (kept : ∀ t ∈ steps, P t.before → P t.after)
    (start : P s) : ∀ t ∈ steps, P t.before := by
  intro t ht
  obtain ⟨early, late, rfl⟩ := List.append_of_mem ht
  exact h.split.1.keeps (fun v hv => kept v (List.mem_append_left _ hv)) start

/-- What holds after a step and is kept holds before every later one. -/
theorem holds_later (h : Linked M s (early ++ t :: late) s')
    (kept : ∀ v ∈ late, P v.before → P v.after) (start : P t.after) :
    ∀ u ∈ late, P u.before :=
  h.split.2.2.holds_before kept start

theorem always_before (h : Linked M s steps s') (kept : M.Keeps P) (start : P s) :
    ∀ t ∈ steps, P t.before :=
  h.holds_before (fun _ ht before => kept.of_exec (h.exec_eq ht) before) start

theorem exists_change (h : Linked M s steps s') (hstart : ¬ P s) (hend : P s') :
    ∃ early t late, steps = early ++ t :: late ∧ ¬ P t.before ∧ P t.after := by
  by_contra hnone
  refine h.keeps (P := fun now => ¬ P now) (fun t ht hbefore hafter => hnone ?_) hstart hend
  obtain ⟨early, late, hsplit⟩ := List.append_of_mem ht
  exact ⟨early, t, late, hsplit, hbefore, hafter⟩

/-- What is true of no steps and the start, and is carried on by each step to the steps before
it and itself, is true of the whole record and its end. -/
theorem history {H : List (Step ι Answer ε σ) → σ → Prop} (h : Linked M s steps s')
    (start : H [] s)
    (carried : ∀ seen, ∀ t ∈ steps, M.exec t.entry.op t.before = (t.entry.answer, t.after) →
      H seen t.before → H (seen ++ [t]) t.after) : H steps s' := by
  induction steps using List.reverseRecOn generalizing s' with
  | nil =>
    obtain rfl : s = s' := h
    exact start
  | append_singleton steps t ih =>
    obtain ⟨hearly, hexec, hlast⟩ := h.split
    obtain rfl : t.after = s' := hlast
    refine carried steps t (by simp) hexec (ih hearly fun seen u hu => ?_)
    exact carried seen u (List.mem_append_left _ hu)

theorem split_singleton (h : steps ++ [u] = early ++ t :: late) :
    (early = steps ∧ t = u) ∨ ∃ rest, steps = early ++ t :: rest ∧ late = rest ++ [u] := by
  rcases late.eq_nil_or_concat with rfl | ⟨rest, last, rfl⟩
  · obtain ⟨rfl, hsame⟩ := List.append_inj' h rfl
    exact Or.inl ⟨rfl, (List.singleton_inj.1 hsame).symm⟩
  · rw [List.concat_eq_append, ← List.cons_append, ← List.append_assoc] at h
    obtain ⟨rfl, hsame⟩ := List.append_inj' h rfl
    exact Or.inr ⟨rest, rfl, by rw [List.concat_eq_append, List.singleton_inj.1 hsame]⟩

/-- What is true of no steps and the start, and is true of the steps up to one if it is true of
all shorter parts of the record, is true of the whole record and its end. -/
theorem prefixes {H : List (Step ι Answer ε σ) → σ → Prop} (h : Linked M s steps s')
    (start : H [] s)
    (carried : ∀ early t late, steps = early ++ t :: late →
      (∀ first u last, early ++ [t] = first ++ u :: last → H first u.before) →
        H (early ++ [t]) t.after) : H steps s' := by
  suffices hall : (∀ first u last, steps = first ++ u :: last → H first u.before) ∧
      H steps s' from hall.2
  induction steps using List.reverseRecOn generalizing s' with
  | nil =>
    obtain rfl : s = s' := h
    exact ⟨fun first u last hsplit => by simp at hsplit, start⟩
  | append_singleton steps t ih =>
    obtain ⟨hearly, -, hlast⟩ := h.split
    obtain rfl : t.after = s' := hlast
    obtain ⟨hshorter, hbefore⟩ := ih hearly fun early u late hsplit =>
      carried early u (late ++ [t]) (by simp [hsplit])
    have hall : ∀ first u last, steps ++ [t] = first ++ u :: last → H first u.before := by
      intro first u last hsplit
      rcases split_singleton hsplit with ⟨rfl, rfl⟩ | ⟨rest, hsteps, -⟩
      · exact hbefore
      · exact hshorter first u rest hsteps
    exact ⟨hall, carried steps t [] rfl hall⟩

end Linked

end StoreProgram
