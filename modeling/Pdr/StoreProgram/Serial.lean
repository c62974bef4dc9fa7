import Pdr.StoreProgram.Sequence

/-!
# Programs that might as well run one after another

Programs that overlap are serial if some order of the whole programs, each run alone, ends in
the same state with the same results. A sufficient reason: the calls of a program before its
last one leave the state as it is, and the last one does what the whole program would do from
the state before it. Then the order of the last calls is such an order.

## Main definitions

* `StoreProgram.IsSerial`: the programs that are over might have run in this order.

## Main results

* `StoreProgram.exists_serial`: the order of the last calls.
-/

namespace StoreProgram

open Program

variable {ι Op : Type} {Answer : Op → Type} {ε α σ : Type} {M : Machine Answer ε σ} {s s' : σ}
  {pool pool' : ι → Program Answer ε α}

/-- The programs of the pool that are over, one after another in this order, end in the same
state, and each of them ends as it did. -/
structure IsSerial (M : Machine Answer ε σ) (pool pool' : ι → Program Answer ε α) (s s' : σ)
    (order : List ι) : Prop where
  once : order.Nodup
  finished : ∀ i, i ∈ order ↔ (pool' i).isOver = true
  ends : (turns (M.whole pool) order s).2 = s'
  results : ∀ t ∈ (turns (M.whole pool) order s).1, pool' t.entry.op = ofExcept t.entry.answer

theorem isOver_ofExcept (outcome : Except ε α) :
    (ofExcept outcome : Program Answer ε α).isOver = true := by
  cases outcome <;> rfl

section Turns

variable {M' : Machine Answer ε σ}

theorem turns_append_singleton (ops : List Op) (op : Op) (s : σ) :
    turns M' (ops ++ [op]) s =
      ((turns M' ops s).1 ++ [turn M' op (turns M' ops s).2],
        (turn M' op (turns M' ops s).2).after) := by
  induction ops generalizing s with
  | nil => rfl
  | cons first ops ih => simp [turns, ih]

theorem op_mem_of_turns {ops : List Op} {s : σ} {t : Step Unit Answer ε σ}
    (h : t ∈ (turns M' ops s).1) : t.entry.op ∈ ops := by
  induction ops generalizing s with
  | nil => cases h
  | cons first ops ih =>
    rcases List.mem_cons.1 h with rfl | hlater
    · exact List.mem_cons_self
    · exact List.mem_cons_of_mem _ (ih hlater)

end Turns

/-- One step makes the next call of its program, and moves no other program. -/
theorem Runs.singleton [DecidableEq ι] {t : Step ι Answer ε σ} (h : Runs M pool s [t] pool' s') :
    t.before = s ∧ t.after = s' ∧
      (∃ rest, pool t.thread = .call t.entry.op rest ∧ pool' t.thread = rest t.entry.answer) ∧
      ∀ j ≠ t.thread, pool' j = pool j := by
  cases h with
  | step i next ready later =>
    cases later
    exact ⟨rfl, rfl, ⟨_, next, Function.update_self _ _ _⟩,
      fun j hj => Function.update_of_ne hj _ _⟩

/-- **The order of the last calls.** Every step of the run leaves its program unfinished and the
state as it was, or is the last of its program and does what the whole program would do alone.
Then the run is serial. -/
theorem exists_serial [DecidableEq ι] {steps : List (Step ι Answer ε σ)}
    (hrun : Runs M pool s steps pool' s') (hcalls : ∀ i, (pool i).isOver = false)
    (hstep : ∀ early t late mid mid', steps = early ++ t :: late →
      Runs M pool s early mid t.before → Runs M mid t.before [t] mid' t.after →
        ((mid' t.thread).isOver = false ∧ t.after = t.before) ∨
          ∃ outcome, mid' t.thread = ofExcept outcome ∧
            (pool t.thread).run M t.before = (outcome, t.after)) :
    ∃ order, IsSerial M pool pool' s s' order := by
  induction steps using List.reverseRecOn generalizing pool' s' with
  | nil =>
    cases hrun
    exact ⟨[], List.nodup_nil, fun i => by simp [hcalls i], rfl, fun t ht => nomatch ht⟩
  | append_singleton steps t ih =>
    obtain ⟨mid, between, hearly, hlast⟩ := hrun.split
    obtain ⟨rfl, rfl, ⟨rest, hcall, -⟩, hothers⟩ := hlast.singleton
    obtain ⟨order, honce, hover, hends, hresults⟩ := ih hearly fun early u late mid mid' hsplit =>
      hstep early u (late ++ [t]) mid mid' (by simp [hsplit])
    have hother : ∀ j ∈ order, j ≠ t.thread := by
      rintro j hj rfl
      rw [hover, hcall] at hj
      cases hj
    rcases hstep steps t [] mid pool' rfl hearly hlast with
      ⟨hgoesOn, hsame⟩ | ⟨outcome, hfinal, halone⟩
    · -- The program goes on: the order stays.
      refine ⟨order, honce, fun j => ?_, hends.trans hsame.symm, fun u hu => ?_⟩
      · by_cases hj : j = t.thread
        · subst hj
          rw [hgoesOn]
          exact iff_of_false (fun hmem => hother _ hmem rfl) Bool.false_ne_true
        · rw [hover j, hothers j hj]
      · rw [hothers _ (hother _ (op_mem_of_turns hu))]
        exact hresults u hu
    · -- The program is over: it comes last.
      have hlastTurn : turn (M.whole pool) t.thread (turns (M.whole pool) order s).2 =
          ⟨(), ⟨t.thread, outcome⟩, t.before, t.after⟩ := by
        rw [hends]
        simp only [turn, Machine.whole, halone]
      refine ⟨order ++ [t.thread], ?_, fun j => ?_, ?_, fun u hu => ?_⟩
      · refine List.nodup_append.2 ⟨honce, by simp, fun j hj k hk => ?_⟩
        exact List.mem_singleton.1 hk ▸ hother j hj
      · rw [List.mem_append, List.mem_singleton]
        by_cases hj : j = t.thread
        · subst hj
          rw [hfinal]
          exact iff_of_true (Or.inr rfl) (isOver_ofExcept outcome)
        · rw [hover j, hothers j hj]
          exact or_iff_left hj
      · rw [turns_append_singleton, hlastTurn]
      · rw [turns_append_singleton, hlastTurn] at hu
        rcases List.mem_append.1 hu with hearlier | hthis
        · rw [hothers _ (hother _ (op_mem_of_turns hearlier))]
          exact hresults u hearlier
        · obtain rfl := List.mem_singleton.1 hthis
          exact hfinal

end StoreProgram
