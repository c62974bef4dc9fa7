import Pdr.StoreProgram.Sequence

/-!
# Counters that are read and written back

Several programs keep one counter. Each of them reads it by one call and writes it back, one
greater, by another. What is written between the two calls is lost; a loss is never made good,
so the counter tells the number of writes exactly when nothing was written between any write
and its reading.

## Main definitions

* `StoreProgram.Undisturbed`: nothing is written between a write and its reading.
* `StoreProgram.CountsUp`: each write of a record is one more than a reading before it.

## Main results

* `StoreProgram.CountsUp.count_le`: the counter never tells more than the writes.
* `StoreProgram.CountsUp.count_eq_iff`: when it tells the writes.
-/

namespace StoreProgram

variable {ι Op : Type} {Answer : Op → Type} {ε σ : Type} {M : Machine Answer ε σ} {s s' : σ}
  {steps early late : List (Step ι Answer ε σ)} {t u : Step ι Answer ε σ}

/-- Between a write and the reading it is made of there is no other write. -/
def Undisturbed (madeOf : Step ι Answer ε σ → Step ι Answer ε σ → Prop)
    (writes : Step ι Answer ε σ → Bool) (steps : List (Step ι Answer ε σ)) : Prop :=
  ∀ early t middle u late, steps = early ++ t :: middle ++ u :: late → writes u = true →
    madeOf u t → ∀ v ∈ middle, writes v = false

/-- Steps that do not write keep the counter; a write is made of earlier readings, and leaves
one more than each of them found. -/
structure CountsUp (count : σ → Nat) (madeOf : Step ι Answer ε σ → Step ι Answer ε σ → Prop)
    (writes : Step ι Answer ε σ → Bool) (steps : List (Step ι Answer ε σ)) : Prop where
  reads : ∀ u t, madeOf u t → writes t = false
  keeps : ∀ t ∈ steps, writes t = false → count t.after = count t.before
  made : ∀ early u late, steps = early ++ u :: late → writes u = true → ∃ t ∈ early, madeOf u t
  adds : ∀ early t middle u late, steps = early ++ t :: middle ++ u :: late → writes u = true →
    madeOf u t → count u.after = count t.before + 1

variable {madeOf : Step ι Answer ε σ → Step ι Answer ε σ → Prop}
  {writes : Step ι Answer ε σ → Bool} {count : σ → Nat}

/-- A record with one more step is undisturbed if it was and the step is no late write. -/
theorem undisturbed_append_singleton : Undisturbed madeOf writes (steps ++ [u]) ↔
    Undisturbed madeOf writes steps ∧ (writes u = true → ∀ early t middle,
      steps = early ++ t :: middle → madeOf u t → ∀ v ∈ middle, writes v = false) := by
  constructor
  · intro h
    constructor
    · rintro early t middle v late rfl
      exact h early t middle v (late ++ [u]) (by simp)
    · rintro hu early t middle rfl
      exact h early t middle u [] rfl hu
  · rintro ⟨hsteps, hlast⟩ early t middle v late hsplit hv hmade
    rcases Linked.split_singleton hsplit with ⟨hsame, rfl⟩ | ⟨rest, hrest, -⟩
    · exact hlast hv early t middle hsame.symm hmade
    · exact hsteps early t middle v rest hrest hv hmade

namespace CountsUp

theorem left (h : CountsUp count madeOf writes (early ++ late)) :
    CountsUp count madeOf writes early where
  reads := h.reads
  keeps t ht := h.keeps t (List.mem_append_left _ ht)
  made := by
    rintro first u last rfl
    exact h.made first u (last ++ late) (by simp)
  adds := by
    rintro first t middle u last rfl
    exact h.adds first t middle u (last ++ late) (by simp)

/-- The counter never tells more than the writes. -/
theorem count_le (h : CountsUp count madeOf writes steps) (hlinked : Linked M s steps s') :
    count s' ≤ count s + steps.countP writes := by
  refine hlinked.prefixes (H := fun seen now => count now ≤ count s + seen.countP writes)
    (Nat.le_add_right _ _) fun early u late hsplit hshorter => ?_
  have hbefore := hshorter early u [] rfl
  rw [List.countP_append, List.countP_singleton]
  by_cases hu : writes u = true
  · -- The write is one more than a reading that told at most the writes up to it.
    obtain ⟨t, ht, hmade⟩ := h.made early u late hsplit hu
    obtain ⟨first, middle, rfl⟩ := List.append_of_mem ht
    have hread := hshorter first t (middle ++ [u]) (by simp)
    rw [h.adds first t middle u late (by simp [hsplit]) hu hmade, if_pos hu, List.countP_append]
    omega
  · have hkept := h.keeps u (by simp [hsplit]) (Bool.eq_false_iff.2 hu)
    rw [hkept, if_neg hu]
    exact hbefore

theorem count_eq_read {middle : List (Step ι Answer ε σ)}
    (h : CountsUp count madeOf writes (early ++ t :: middle))
    (hlinked : Linked M s (early ++ t :: middle) s') (ht : writes t = false)
    (hnone : ∀ v ∈ middle, writes v = false) : count s' = count t.before := by
  have hkept : ∀ v ∈ middle, count v.before = count t.before → count v.after = count t.before :=
    fun v hv hbefore => (h.keeps v (by simp [hv]) (hnone v hv)).trans hbefore
  exact hlinked.split.2.2.keeps (P := fun now => count now = count t.before) hkept
    (h.keeps t (by simp) ht)

/-- **No loss is made good.** The counter tells the number of writes exactly when between no
write and its reading anything was written. -/
theorem count_eq_iff (h : CountsUp count madeOf writes steps) (hlinked : Linked M s steps s') :
    count s' = count s + steps.countP writes ↔ Undisturbed madeOf writes steps := by
  induction steps using List.reverseRecOn generalizing s' with
  | nil =>
    obtain rfl : s = s' := hlinked
    refine iff_of_true rfl fun early t middle u late hsplit => ?_
    simp at hsplit
  | append_singleton steps u ih =>
    obtain ⟨hearly, -, hlast⟩ := hlinked.split
    obtain rfl : u.after = s' := hlast
    rw [undisturbed_append_singleton, ← ih h.left hearly, List.countP_append,
      List.countP_singleton]
    by_cases hu : writes u = true
    · rw [if_pos hu]
      obtain ⟨t, ht, hmade⟩ := h.made steps u [] rfl hu
      obtain ⟨first, between, hsplit⟩ := List.append_of_mem ht
      have hquiet := h.reads u t hmade
      constructor
      · intro htold
        -- Each reading told at most the writes up to it, so there is none after it.
        have hnone : ∀ early t middle, steps = early ++ t :: middle → madeOf u t →
            ∀ v ∈ middle, writes v = false := by
          rintro early t middle rfl hmade v hv
          have hread := h.left.left.count_le hearly.split.1
          have hadds := h.adds early t middle u [] rfl hu hmade
          rw [List.countP_append, List.countP_cons] at htold
          have hzero : middle.countP writes = 0 := by omega
          exact Bool.eq_false_iff.2 (List.countP_eq_zero.1 hzero v hv)
        subst hsplit
        have hread := h.left.count_eq_read hearly hquiet (hnone first t between rfl hmade)
        have hadds := h.adds first t between u [] rfl hu hmade
        exact ⟨by omega, fun _ => hnone⟩
      · rintro ⟨htold, hnone⟩
        subst hsplit
        have hread := h.left.count_eq_read hearly hquiet (hnone hu first t between rfl hmade)
        have hadds := h.adds first t between u [] rfl hu hmade
        omega
    · rw [if_neg hu, h.keeps u (by simp) (Bool.eq_false_iff.2 hu)]
      simp [hu]

end CountsUp

end StoreProgram
