import Mathlib.Data.List.DropRight

/-!
# Searching a text by positions

The searches of `std::string_view` give positions, and `substr` cuts at them. Here each search is
related to a cut of the text in two: a position was found exactly if the text splits there, with
nothing of what was looked for in front of it.

## Main definitions

* `StringView.find`, `StringView.findLast`: the first position from a start on, and the last one.
* `StringView.substr`: a part of a text.
* `StringView.trimOf`: what is left between the characters of a kind.

## Main results

* `StringView.find_eq_some_iff`, `StringView.find_eq_none_iff`: what a search tells.
-/

namespace StringView

variable {α : Type} {p kind : α → Bool} {text front inside back : List α} {start stop : Nat}

/-! ### Positions -/

/-- The first position from the start on where the property holds; none is `npos`. -/
def find (p : α → Bool) (text : List α) (start : Nat) : Option Nat :=
  ((text.drop start).findIdx? p).map (start + ·)

/-- The last position where the property holds. -/
def findLast (p : α → Bool) (text : List α) : Option Nat :=
  (text.reverse.findIdx? p).map (text.length - 1 - ·)

/-- So many characters from the start on; without a number it is all of them. -/
def substr (text : List α) (start : Nat) : Option Nat → List α
  | none => text.drop start
  | some count => (text.drop start).take count

theorem find_eq_none_iff : find p text start = none ↔ ∀ c ∈ text.drop start, p c = false := by
  rw [find, Option.map_eq_none_iff, List.findIdx?_eq_none_iff]

theorem findIdx?_append_cons {c : α} (hfront : ∀ a ∈ front, p a = false) (hc : p c = true) :
    (front ++ c :: back).findIdx? p = some front.length := by
  rw [List.findIdx?_append, List.findIdx?_eq_none_iff.2 hfront, List.findIdx?_cons, if_pos hc]
  simp

/-- **What a search tells.** A position was found exactly if the text from the start on splits
there, and it is the first one. -/
theorem find_eq_some_iff : find p text start = some stop ↔
    ∃ front c back, text.drop start = front ++ c :: back ∧ stop = start + front.length ∧
      p c = true ∧ ∀ a ∈ front, p a = false := by
  rw [find, Option.map_eq_some_iff]
  constructor
  · rintro ⟨index, hindex, rfl⟩
    obtain ⟨hlength, hc, hbefore⟩ := List.findIdx?_eq_some_iff_getElem.1 hindex
    refine ⟨(text.drop start).take index, (text.drop start)[index],
      (text.drop start).drop (index + 1), ?_, ?_, hc, fun a ha => ?_⟩
    · rw [← List.drop_eq_getElem_cons hlength, List.take_append_drop]
    · rw [List.length_take, min_eq_left hlength.le]
    · obtain ⟨j, hj, rfl⟩ := List.getElem_of_mem ha
      rw [List.getElem_take]
      exact Bool.eq_false_iff.2 (hbefore j (lt_of_lt_of_le hj (List.length_take_le _ _)))
  · rintro ⟨front, c, back, hsplit, rfl, hc, hfront⟩
    exact ⟨front.length, by rw [hsplit, findIdx?_append_cons hfront hc], rfl⟩

theorem le_of_find (h : find p text start = some stop) : start ≤ stop ∧ stop < text.length := by
  obtain ⟨front, c, back, hsplit, rfl, -, -⟩ := find_eq_some_iff.1 h
  have hlength := congrArg List.length hsplit
  rw [List.length_drop, List.length_append, List.length_cons] at hlength
  omega

/-- The part up to what was found, and the part behind it. -/
theorem drop_of_find (h : find p text start = some stop) :
    ∃ c, p c = true ∧ text.drop start = substr text start (some (stop - start)) ++
        c :: text.drop (stop + 1) ∧
      ∀ a ∈ substr text start (some (stop - start)), p a = false := by
  obtain ⟨front, c, back, hsplit, rfl, hc, hfront⟩ := find_eq_some_iff.1 h
  have hback : text.drop (start + front.length + 1) = back := by
    rw [Nat.add_assoc, ← List.drop_drop, hsplit, List.drop_append, List.drop_of_length_le (by simp)]
    simp
  have hcut : substr text start (some (start + front.length - start)) = front := by
    rw [substr, hsplit, Nat.add_sub_cancel_left, List.take_left]
  rw [hback, hcut]
  exact ⟨c, hc, hsplit, hfront⟩

/-! ### Trimming -/

/-- The part from the first to the last character that is not of the kind. -/
def trimOf (kind : α → Bool) (text : List α) : List α :=
  match find (!kind ·) text 0, findLast (!kind ·) text with
  | some first, some last => substr text first (some (last - first + 1))
  | _, _ => []

end StringView
