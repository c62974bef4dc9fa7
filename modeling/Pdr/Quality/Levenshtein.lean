import Mathlib.Algebra.Order.Field.Rat
import Mathlib.Data.List.Enum
import Pdr.Patterns.EditDistance
import Pdr.Python.Str

/-!
# The measure of errors

A transcript is compared with its reference by the number of words, a handwriting by the number
of characters that have to be edited. The script counts the edits row by row: the row of a prefix
of the one sequence holds, at every position, the count for that prefix and the prefix of the
other up to there. Only the last row and the one being written are kept.

## Main definitions

* `Pdr.Quality.nextRow`, `Pdr.Quality.levenshtein`: the two loops of the source.
* `Pdr.Quality.wer`, `Pdr.Quality.cer`: the shares of wrong words and of wrong characters.
* `Pdr.Quality.rowOf`: what a row holds.

## Main results

* `Pdr.Quality.levenshtein_eq_some`: the loops end, and with the recursion on the sequences.
* `Pdr.Quality.levenshtein_is_the_edit_distance`: the count is the least number of edits, and
  what follows from that.
* `Pdr.Quality.errorRate_eq_zero_iff`: when no error is measured.
-/

namespace Pdr.Quality

open EditDistance

/-! ### The loops -/

section Loops

variable {α : Type*} [DecidableEq α]

/-- One step of the inner loop: the row grows by `current.append(min(…))`. -/
def nextCell (previous : List ℕ) (left : α) (current : List ℕ) (cell : α × ℕ) :
    Option (List ℕ) := do
  let (right, position) := cell
  let above ← previous[position]?
  let before ← current[position - 1]?
  let diagonal ← previous[position - 1]?
  return current ++ [min (min (above + 1) (before + 1)) (diagonal + if left ≠ right then 1 else 0)]

/-- The inner loop, for one element of the first sequence. -/
def nextRow (second : List α) (previous : List ℕ) (line : α × ℕ) : Option (List ℕ) :=
  let (left, index) := line
  (second.zipIdx 1).foldlM (nextCell previous left) [index]

/-- `levenshtein`: the last entry of the last row. An index outside of a row is an error. -/
def levenshtein (first second : List α) : Option ℕ := do
  let previous ← (first.zipIdx 1).foldlM (nextRow second) (List.range (second.length + 1))
  previous.getLast?

end Loops

/-! ### What a row holds -/

section Rows

variable {α σ : Type*}

/-- A loop over the elements with their numbers, where each step takes the state of the elements
before it to the state of one more. -/
theorem foldlM_zipIdx_eq_some {step : σ → α × ℕ → Option σ} {state : List α → σ}
    {whole : List α}
    (hstep : ∀ seen a rest, seen ++ a :: rest = whole →
      step (state seen) (a, seen.length + 1) = some (state (seen ++ [a]))) :
    (whole.zipIdx 1).foldlM step (state []) = some (state whole) := by
  have hfrom (rest : List α) : ∀ seen, seen ++ rest = whole →
      (rest.zipIdx (seen.length + 1)).foldlM step (state seen) = some (state whole) := by
    induction rest with
    | nil =>
      intro seen hseen
      rw [← hseen, List.append_nil]
      rfl
    | cons a rest ih =>
      intro seen hseen
      have hrest := ih (seen ++ [a]) (by simpa using hseen)
      rw [List.length_append] at hrest
      rw [List.zipIdx_cons, List.foldlM_cons, hstep seen a rest hseen]
      exact hrest
  exact hfrom whole [] rfl

variable [DecidableEq α]

/-- The count for two prefixes, from their ends. -/
def prefixDistance (seen done : List α) : ℕ := distance seen.reverse done.reverse

/-- The row of a prefix of the first sequence, up to a prefix of the second. -/
def rowOf (seen done : List α) : List ℕ :=
  (List.range (done.length + 1)).map fun position => prefixDistance seen (done.take position)

variable {seen done rest second : List α} {left right : α}

theorem prefixDistance_eq : prefixDistance seen done = distance seen done :=
  distance_reverse seen done

/-- The recursion, at the ends. -/
theorem prefixDistance_concat :
    prefixDistance (seen ++ [left]) (done ++ [right]) =
      min (min (prefixDistance seen (done ++ [right]) + 1)
        (prefixDistance (seen ++ [left]) done + 1))
        (prefixDistance seen done + if left ≠ right then 1 else 0) := by
  have hcost : cost left right = if left ≠ right then 1 else 0 := by
    unfold cost
    split_ifs <;> first | rfl | contradiction
  simp only [prefixDistance, List.reverse_append, List.reverse_singleton, List.singleton_append]
  rw [distance_cons_cons, hcost]

theorem rowOf_getElem? (seen : List α) (position : ℕ) (h : position ≤ done.length) :
    (rowOf seen done)[position]? = some (prefixDistance seen (done.take position)) := by
  rw [rowOf, List.getElem?_map, List.getElem?_range (by omega)]
  rfl

/-- The row grows at its end. -/
theorem rowOf_concat :
    rowOf seen (done ++ [right]) =
      rowOf seen done ++ [prefixDistance seen (done ++ [right])] := by
  have hbefore : (List.range (done.length + 1)).map
        (fun position => prefixDistance seen ((done ++ [right]).take position)) =
      rowOf seen done := by
    refine List.map_congr_left fun position hposition => ?_
    have hle : position ≤ done.length := by
      have := List.mem_range.1 hposition
      omega
    show prefixDistance seen ((done ++ [right]).take position) = _
    rw [List.take_append_of_le_length hle]
  rw [rowOf, List.length_append, List.length_singleton, List.range_succ, List.map_append, hbefore,
    List.map_singleton, List.take_of_length_le (by simp)]

/-- The first row counts what has to be put in. -/
theorem rowOf_nil : rowOf [] second = List.range (second.length + 1) := by
  have hrow : (List.range (second.length + 1)).map
      (fun position => prefixDistance [] (second.take position)) =
      (List.range (second.length + 1)).map id := by
    refine List.map_congr_left fun position hposition => ?_
    have hlt := List.mem_range.1 hposition
    show distance [] (second.take position).reverse = position
    rw [distance_nil_left, List.length_reverse, List.length_take]
    omega
  rw [rowOf, hrow, List.map_id]

/-- One step of the inner loop. -/
theorem nextCell_rowOf (h : done ++ right :: rest = second) :
    nextCell (rowOf seen second) left (rowOf (seen ++ [left]) done) (right, done.length + 1) =
      some (rowOf (seen ++ [left]) (done ++ [right])) := by
  have hlength : done.length + 1 ≤ second.length := by simp [← h]
  have htake : second.take (done.length + 1) = done ++ [right] := by
    rw [← h, List.take_length_add_append]
    rfl
  have htake' : second.take done.length = done := by simp [← h]
  have habove := rowOf_getElem? seen (done.length + 1) hlength
  have hdiagonal := rowOf_getElem? seen done.length (Nat.le_of_succ_le hlength)
  have hbefore := rowOf_getElem? (seen ++ [left]) done.length (le_refl done.length)
  rw [htake] at habove
  rw [htake'] at hdiagonal
  rw [List.take_length] at hbefore
  rw [rowOf_concat, prefixDistance_concat]
  simp only [nextCell, habove, Nat.add_sub_cancel, hbefore, hdiagonal, Option.bind_eq_bind,
    Option.bind_some, Option.pure_def]

theorem nextRow_rowOf (second : List α) :
    nextRow second (rowOf seen second) (left, seen.length + 1) =
      some (rowOf (seen ++ [left]) second) := by
  have hfirst : [seen.length + 1] = rowOf (seen ++ [left]) [] := by
    show _ = [distance (seen ++ [left]).reverse []]
    simp
  rw [nextRow, hfirst]
  exact foldlM_zipIdx_eq_some fun done right rest hwhole => nextCell_rowOf hwhole

/-- **The loops end, and with the recursion on the sequences.** No index is outside of a row. -/
theorem levenshtein_eq_some (first second : List α) :
    levenshtein first second = some (distance first second) := by
  have hrows : (first.zipIdx 1).foldlM (nextRow second) (rowOf [] second) =
      some (rowOf first second) :=
    foldlM_zipIdx_eq_some fun seen left rest _ => nextRow_rowOf second
  have hlast : (rowOf first second).getLast? = some (prefixDistance first second) := by
    rw [rowOf, List.range_succ, List.map_append, List.map_singleton, List.getLast?_concat,
      List.take_length]
  rw [levenshtein, ← rowOf_nil, hrows, ← prefixDistance_eq]
  exact hlast

/-- **The error measure is the edit distance.** The count is the least number of single elements
that have to be put in, taken out or put in the place of others to turn the first sequence into
the second. It is the same in both directions, zero between equal sequences and no others, at
most the length of the longer one, and no more than a way over a third sequence. -/
theorem levenshtein_is_the_edit_distance (first second third : List α) :
    ∃ count, levenshtein first second = some count ∧
      IsLeast {n | Edits n first second} count ∧
      levenshtein second first = some count ∧
      (count = 0 ↔ first = second) ∧
      count ≤ max first.length second.length ∧
      ∃ onward through, levenshtein second third = some onward ∧
        levenshtein first third = some through ∧ through ≤ count + onward := by
  refine ⟨_, levenshtein_eq_some first second, isLeast_distance first second, ?_,
    distance_eq_zero_iff first second, distance_le_max_length first second, _, _,
    levenshtein_eq_some second third, levenshtein_eq_some first third,
    distance_triangle first second third⟩
  rw [levenshtein_eq_some, distance_comm]

end Rows

/-! ### The rates -/

section Rates

open Python (Str)

/-- The share of errors among what is expected, before it is rounded to a number of the machine. -/
def errorRate {α : Type*} [DecidableEq α] (expected produced : List α) : Option ℚ :=
  if expected = [] then some 0
  else (levenshtein expected produced).map fun count : ℕ => (count : ℚ) / expected.length

/-- What the measures take from Unicode: `str.lower` and `WORDS.findall`. -/
structure Letters where
  lower : Str → Str
  findall : Str → List Str

variable (letters : Letters)

/-- `wer`: the share of wrong words. -/
def wer (reference produced : Str) : Option ℚ :=
  errorRate (letters.findall (letters.lower reference)) (letters.findall (letters.lower produced))

/-- `cer`: the share of wrong characters. -/
def cer (reference produced : Str) : Option ℚ :=
  errorRate (letters.lower (Python.strip reference)) (letters.lower (Python.strip produced))

/-- No error is measured where nothing is expected, and else only where exactly what is expected
was produced. -/
theorem errorRate_eq_zero_iff {α : Type*} [DecidableEq α] (expected produced : List α) :
    errorRate expected produced = some 0 ↔ expected = [] ∨ expected = produced := by
  by_cases hempty : expected = []
  · simp [errorRate, hempty]
  · have hlength : (expected.length : ℚ) ≠ 0 := by simpa using hempty
    rw [errorRate, if_neg hempty, levenshtein_eq_some, Option.map_some, Option.some.injEq,
      div_eq_zero_iff, Nat.cast_eq_zero, distance_eq_zero_iff]
    simp [hempty]

end Rates

end Pdr.Quality
