import Mathlib.Data.List.Basic
import Mathlib.Order.Bounds.Basic
import Mathlib.Order.MinMax

/-!
# Edit distance

A sequence is edited by putting one element in, taking one out or putting another in its place.
Edits are reversible, and a sequence may be edited within a longer one or read backwards. The
least number of edits between two sequences follows a recursion on what they begin with, since
one edit anywhere changes what the recursion computes by at most one.

## Main definitions

* `EditDistance.Edit`, `EditDistance.Edits`: one edit, and a number of them one after another.
* `EditDistance.distance`: the recursion.

## Main results

* `EditDistance.isLeast_distance`: the recursion computes the least number of edits.
* `EditDistance.distance_comm`, `EditDistance.distance_eq_zero_iff`,
  `EditDistance.distance_triangle`, `EditDistance.distance_le_max_length`: a metric, and its bound.
* `EditDistance.distance_reverse`: sequences read backwards.
-/

namespace EditDistance

variable {α : Type*}

/-! ### Edits -/

/-- One element is put in, taken out, or another is put in its place. -/
inductive Edit : List α → List α → Prop
  | insert (front back : List α) (a : α) : Edit (front ++ back) (front ++ a :: back)
  | delete (front back : List α) (a : α) : Edit (front ++ a :: back) (front ++ back)
  | substitute (front back : List α) (a b : α) : Edit (front ++ a :: back) (front ++ b :: back)

/-- So many edits, one after another. -/
inductive Edits : ℕ → List α → List α → Prop
  | none (s : List α) : Edits 0 s s
  | more {n : ℕ} {s t u : List α} (hfirst : Edit s t) (hrest : Edits n t u) : Edits (n + 1) s u

namespace Edit

variable {s t : List α}

theorem symm (h : Edit s t) : Edit t s := by
  cases h with
  | insert front back a => exact delete front back a
  | delete front back a => exact insert front back a
  | substitute front back a b => exact substitute front back b a

theorem cons (a : α) (h : Edit s t) : Edit (a :: s) (a :: t) := by
  cases h with
  | insert front back b => exact insert (a :: front) back b
  | delete front back b => exact delete (a :: front) back b
  | substitute front back b c => exact substitute (a :: front) back b c

theorem reverse (h : Edit s t) : Edit s.reverse t.reverse := by
  cases h with
  | insert front back a => simpa using insert back.reverse front.reverse a
  | delete front back a => simpa using delete back.reverse front.reverse a
  | substitute front back a b => simpa using substitute back.reverse front.reverse a b

end Edit

namespace Edits

variable {m n : ℕ} {s t u : List α}

theorem single (h : Edit s t) : Edits 1 s t := .more h (.none t)

theorem eq_of_zero (h : Edits 0 s t) : s = t := by
  cases h
  rfl

theorem trans (hfirst : Edits m s t) (hrest : Edits n t u) : Edits (m + n) s u := by
  induction hfirst with
  | none s => simpa using hrest
  | more hedit _ ih =>
    rw [Nat.add_right_comm]
    exact .more hedit (ih hrest)

theorem symm (h : Edits n s t) : Edits n t s := by
  induction h with
  | none s => exact .none s
  | more hedit _ ih => exact ih.trans (.single hedit.symm)

theorem cons (a : α) (h : Edits n s t) : Edits n (a :: s) (a :: t) := by
  induction h with
  | none s => exact .none (a :: s)
  | more hedit _ ih => exact .more (hedit.cons a) ih

theorem reverse (h : Edits n s t) : Edits n s.reverse t.reverse := by
  induction h with
  | none s => exact .none s.reverse
  | more hedit _ ih => exact .more hedit.reverse ih

theorem of_nil (t : List α) : Edits t.length [] t := by
  induction t with
  | nil => exact .none []
  | cons a t ih => exact ih.trans (.single (.insert [] t a))

end Edits

/-! ### The recursion -/

variable [DecidableEq α]

/-- What it costs to put one element in the place of another. -/
def cost (a b : α) : ℕ := if a = b then 0 else 1

/-- The least of what is left after an element is taken out, put in, or put in the place of
another at the front. -/
def distance : List α → List α → ℕ
  | [], t => t.length
  | a :: s, [] => (a :: s).length
  | a :: s, b :: t =>
    min (min (distance s (b :: t) + 1) (distance (a :: s) t + 1)) (distance s t + cost a b)
termination_by s t => s.length + t.length

section

variable (a b c : α) (s t u : List α)

@[simp] theorem distance_nil_left : distance [] t = t.length := by rw [distance]

@[simp] theorem distance_nil_right : distance s [] = s.length := by
  cases s with
  | nil => rw [distance]
  | cons a s => rw [distance]

theorem distance_cons_cons :
    distance (a :: s) (b :: t) =
      min (min (distance s (b :: t) + 1) (distance (a :: s) t + 1)) (distance s t + cost a b) := by
  rw [distance]

theorem cost_le_one : cost a b ≤ 1 := by
  unfold cost
  split <;> omega

/-- As many edits as the recursion counts are enough. -/
theorem edits_distance : Edits (distance s t) s t := by
  induction s, t using distance.induct with
  | case1 t =>
    rw [distance_nil_left]
    exact .of_nil t
  | case2 a s =>
    rw [distance_nil_right]
    exact (Edits.of_nil (a :: s)).symm
  | case3 a s b t ihdelete ihinsert ihboth =>
    have hdelete : Edits (distance s (b :: t) + 1) (a :: s) (b :: t) :=
      .more (.delete [] s a) ihdelete
    have hinsert : Edits (distance (a :: s) t + 1) (a :: s) (b :: t) :=
      ihinsert.trans (.single (.insert [] t b))
    have hboth : Edits (distance s t + cost a b) (a :: s) (b :: t) := by
      by_cases hab : a = b
      · rw [cost, if_pos hab, hab]
        exact ihboth.cons b
      · rw [cost, if_neg hab]
        exact (ihboth.cons a).trans (.single (.substitute [] t a b))
    rw [distance_cons_cons]
    rcases min_choice (min (distance s (b :: t) + 1) (distance (a :: s) t + 1))
      (distance s t + cost a b) with hmin | hmin
    · rw [hmin]
      rcases min_choice (distance s (b :: t) + 1) (distance (a :: s) t + 1) with hmin | hmin
      · rwa [hmin]
      · rwa [hmin]
    · rwa [hmin]

/-! ### One edit changes the count by at most one -/

theorem distance_cons_left_le : distance (a :: s) u ≤ distance s u + 1 := by
  cases u with
  | nil => simp
  | cons x u =>
    rw [distance_cons_cons]
    omega

theorem distance_cons_right_le : distance s (a :: u) ≤ distance s u + 1 := by
  cases s with
  | nil => simp
  | cons x s =>
    rw [distance_cons_cons]
    omega

theorem distance_le_cons_left : distance s u ≤ distance (a :: s) u + 1 := by
  induction u with
  | nil =>
    simp only [distance_nil_right, List.length_cons]
    omega
  | cons x u ih =>
    have hright := distance_cons_right_le x s u
    rw [distance_cons_cons]
    omega

theorem distance_substitute_le : distance (a :: s) u ≤ distance (b :: s) u + 1 := by
  induction u with
  | nil => simp
  | cons x u ih =>
    have hcost := cost_le_one a x
    rw [distance_cons_cons, distance_cons_cons]
    omega

variable {s t} in
/-- What holds of two sequences holds of them behind one more element. -/
theorem distance_cons_le (h : ∀ u, distance s u ≤ distance t u + 1) :
    distance (a :: s) u ≤ distance (a :: t) u + 1 := by
  induction u with
  | nil => simpa using h []
  | cons x u ih =>
    have hdelete := h (x :: u)
    have hboth := h u
    rw [distance_cons_cons, distance_cons_cons]
    omega

variable {s t} in
theorem distance_le_of_edit (h : Edit s t) : distance s u ≤ distance t u + 1 := by
  -- the edit stands behind what both sequences begin with
  have hbehind (front : List α) {s t : List α} (hst : ∀ u, distance s u ≤ distance t u + 1) :
      ∀ u, distance (front ++ s) u ≤ distance (front ++ t) u + 1 := by
    induction front with
    | nil => exact hst
    | cons c front ih =>
      intro u
      exact distance_cons_le c u ih
  cases h with
  | insert front back a => exact hbehind front (distance_le_cons_left a back) u
  | delete front back a => exact hbehind front (distance_cons_left_le a back) u
  | substitute front back a b => exact hbehind front (distance_substitute_le a b back) u

@[simp] theorem distance_self : distance s s = 0 := by
  induction s with
  | nil => simp
  | cons a s ih =>
    rw [distance_cons_cons, ih, cost, if_pos rfl]
    omega

variable {s t} in
theorem distance_le_of_edits {n : ℕ} (h : Edits n s t) : distance s t ≤ n := by
  induction h with
  | none s => rw [distance_self]
  | more hedit _ ih => exact (distance_le_of_edit _ hedit).trans (Nat.add_le_add_right ih 1)

/-- **The recursion computes the least number of edits.** -/
theorem isLeast_distance : IsLeast {n | Edits n s t} (distance s t) :=
  ⟨edits_distance s t, fun _ h => distance_le_of_edits h⟩

/-! ### The metric -/

theorem distance_comm : distance s t = distance t s :=
  le_antisymm (distance_le_of_edits (edits_distance t s).symm)
    (distance_le_of_edits (edits_distance s t).symm)

theorem distance_reverse : distance s.reverse t.reverse = distance s t := by
  refine le_antisymm (distance_le_of_edits (edits_distance s t).reverse) ?_
  have hback := distance_le_of_edits (edits_distance s.reverse t.reverse).reverse
  rwa [List.reverse_reverse, List.reverse_reverse] at hback

theorem distance_eq_zero_iff : distance s t = 0 ↔ s = t := by
  constructor
  · intro h
    have hnone := edits_distance s t
    rw [h] at hnone
    exact hnone.eq_of_zero
  · rintro rfl
    exact distance_self s

theorem distance_triangle : distance s u ≤ distance s t + distance t u :=
  distance_le_of_edits ((edits_distance s t).trans (edits_distance t u))

theorem distance_le_max_length : distance s t ≤ max s.length t.length := by
  induction s, t using distance.induct with
  | case1 t => simp
  | case2 a s => simp
  | case3 a s b t _ _ ihboth =>
    have hcost := cost_le_one a b
    rw [distance_cons_cons]
    simp only [List.length_cons]
    omega

end

end EditDistance
