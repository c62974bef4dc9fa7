import Pdr.StoreProgram.Interleaving

/-!
# Programs that are not noticed

Some of the programs of a pool may be left out, and the others notice nothing, if two things hold
of a relation between states that says what the others can see: their calls are answered alike in
related states and leave related states, and a call of one that is left out leaves a state that
is related to the one before. Then a run of the whole pool is replayed, step by step, without the
steps of those that are left out.

## Main definitions

* `StoreProgram.Machine.Respects`: a call that is answered by what the relation shows.
* `StoreProgram.Machine.Hides`: a call that changes nothing of what the relation shows.
* `StoreProgram.Replays`: one run is another without the steps of some programs.

## Main results

* `StoreProgram.Runs.replay`: the rest of the pool runs as it does among the others.
-/

namespace StoreProgram

variable {Op : Type} {Answer : Op → Type} {ε σ α ι : Type}

/-- In related states the call is answered alike and leaves related states; and where it can be
made in one of them, it can be made in the other. -/
def Machine.Respects (M : Machine Answer ε σ) (related : σ → σ → Prop) (op : Op) : Prop :=
  ∀ s t, related s t → (M.ready op s = true → M.ready op t = true) ∧
    (M.exec op s).1 = (M.exec op t).1 ∧ related (M.exec op s).2 (M.exec op t).2

/-- The call leaves a state that is related to the one before. -/
def Machine.Hides (M : Machine Answer ε σ) (related : σ → σ → Prop) (op : Op) : Prop :=
  ∀ s, related s (M.exec op s).2

/-- The steps `steps'` are those of `steps` that programs in sight made: the same programs make
the same calls and get the same answers. -/
def Replays (inSight : ι → Bool) (steps steps' : List (Step ι Answer ε σ)) : Prop :=
  (steps.filter fun t => inSight t.thread).map (fun t => (t.thread, t.entry)) =
    steps'.map fun t => (t.thread, t.entry)

variable {inSight : ι → Bool} {steps steps' : List (Step ι Answer ε σ)}

theorem Replays.cons {u u' : Step ι Answer ε σ} (h : Replays inSight steps steps')
    (hu : inSight u.thread = true) (hthread : u'.thread = u.thread) (hentry : u'.entry = u.entry) :
    Replays inSight (u :: steps) (u' :: steps') := by
  rw [Replays, List.filter_cons, if_pos hu, List.map_cons, List.map_cons, hthread, hentry]
  exact congrArg _ h

theorem Replays.skip {u : Step ι Answer ε σ} (h : Replays inSight steps steps')
    (hu : inSight u.thread = false) : Replays inSight (u :: steps) steps' := by
  rw [Replays, List.filter_cons, if_neg (Bool.eq_false_iff.1 hu)]
  exact h

section Replay

variable [DecidableEq ι] {M : Machine Answer ε σ} {related : σ → σ → Prop}
  {pool pool' : ι → Program Answer ε α} {s s' t : σ}

/-- **A run without those that are not noticed.** From a related state the programs in sight run
as they do among the others, while the others stand still, and the states in the end are related
again. -/
theorem Runs.replay (hrun : Runs M pool s steps pool' s') (hrelated : Equivalence related)
    (hrespects : ∀ u ∈ steps, inSight u.thread = true → M.Respects related u.entry.op)
    (hhides : ∀ u ∈ steps, inSight u.thread = false → M.Hides related u.entry.op)
    (h : related s t) :
    ∃ steps' rest t', Runs M pool t steps' rest t' ∧ Replays inSight steps steps' ∧
      (∀ i, rest i = if inSight i then pool' i else pool i) ∧ related s' t' := by
  suffices hall : ∀ alone : ι → Program Answer ε α, (∀ i, inSight i = true → alone i = pool i) →
      ∃ steps' rest t', Runs M alone t steps' rest t' ∧ Replays inSight steps steps' ∧
        (∀ i, rest i = if inSight i then pool' i else alone i) ∧ related s' t' from
    hall pool fun _ _ => rfl
  induction hrun generalizing t with
  | stop pool s =>
    intro alone halone
    refine ⟨[], alone, t, .stop alone t, rfl, fun i => ?_, h⟩
    by_cases hi : inSight i = true
    · rw [if_pos hi, halone i hi]
    · rw [if_neg hi]
  | @step pool pool' s s' steps i op rest next ready later ih =>
    intro alone halone
    have hrespects' := fun u hu => hrespects u (List.mem_cons_of_mem _ hu)
    have hhides' := fun u hu => hhides u (List.mem_cons_of_mem _ hu)
    by_cases hi : inSight i = true
    · -- The step is replayed.
      obtain ⟨hready, hanswer, hstates⟩ := hrespects _ List.mem_cons_self hi s t h
      obtain ⟨steps', rest', t', hrun', hreplays, hrest, hend⟩ :=
        ih hrespects' hhides' hstates (Function.update alone i (rest (M.exec op s).1))
          fun j hj => by
            by_cases hji : j = i
            · rw [hji, Function.update_self, Function.update_self]
            · rw [Function.update_of_ne hji, Function.update_of_ne hji, halone j hj]
      rw [hanswer] at hrun'
      refine ⟨⟨i, ⟨op, (M.exec op t).1⟩, t, (M.exec op t).2⟩ :: steps', rest', t',
        .step i ((halone i hi).trans next) (hready ready) hrun',
        hreplays.cons hi rfl (by rw [hanswer]), fun j => ?_, hend⟩
      rw [hrest j]
      split
      · rfl
      · rename_i hj
        rw [Function.update_of_ne (by rintro rfl; exact hj hi)]
    · -- The step is left out.
      have hstep : related (M.exec op s).2 t :=
        hrelated.trans (hrelated.symm (hhides _ List.mem_cons_self (Bool.eq_false_iff.2 hi) s)) h
      obtain ⟨steps', rest', t', hrun', hreplays, hrest, hend⟩ :=
        ih hrespects' hhides' hstep alone fun j hj => by
            rw [Function.update_of_ne (by rintro rfl; exact hi hj), halone j hj]
      exact ⟨steps', rest', t', hrun', hreplays.skip (Bool.eq_false_iff.2 hi), hrest, hend⟩

end Replay

end StoreProgram
