import Mathlib.Data.List.Infix
import Pdr.Patterns.SqlText
import Pdr.Python.Str

/-!
# Migrations without comments

Before a migration is searched for tables, policies and indexes, its comments and literals are
covered with spaces. The scanner goes from round to round: what a round puts out is as long as
what it reads, and the statements that are found in its output are cut out of the migration at the
same positions.

## Main definitions

* `Pdr.Migrations.scanRound`: one round of the main loop, with the loops inside of it.
* `Pdr.Migrations.stripComments`: the scanner.
-/

namespace Pdr.Migrations

open Python SqlText

/-! ### Loops inside of a round -/

/-- `DOLLAR_TAG.match(text, index)`, as far as `opening.group(0)` tells. -/
def dollarTag (text : Str) : Option Str :=
  (tagOf (fun c => c.isAlpha || c == '_') (fun c => c.isAlphanum || c == '_') text).map delimiter

/-- `text.find(needle)`. -/
def findIn (needle : Str) : Str → Option ℕ
  | [] => if needle = [] then some 0 else none
  | c :: rest => if needle <+: c :: rest then some 0 else (findIn needle rest).map (· + 1)

/-- A comment to the end of the line: what is put out, and what is left. -/
def lineComment : Str → Str × Str
  | [] => ([], [])
  | c :: rest =>
    if c = '\n' then ([], c :: rest)
    else (' ' :: (lineComment rest).1, (lineComment rest).2)

/-- What a comment in brackets contains. The loop ends before the last character of the text. -/
def blockBody : Str → Str × Str
  | c :: following :: rest =>
    if c = '*' ∧ following = '/' then ([], c :: following :: rest)
    else (cover c :: (blockBody (following :: rest)).1, (blockBody (following :: rest)).2)
  | rest => ([], rest)

/-- A literal behind its first quote. -/
def literalBody : Str → Str × Str
  | c :: following :: rest =>
    if c = '\'' ∧ following = '\'' then
      (' ' :: ' ' :: (literalBody rest).1, (literalBody rest).2)
    else if c = '\'' then ([cover c], following :: rest)
    else (cover c :: (literalBody (following :: rest)).1, (literalBody (following :: rest)).2)
  | [c] => ([cover c], [])
  | [] => ([], [])

/-- The end of a dollar quote that begins the text: behind the next delimiter, or the end of the
text. -/
def dollarEnd (delimiter text : Str) : ℕ :=
  match findIn delimiter (text.drop delimiter.length) with
  | some closing => delimiter.length + closing + delimiter.length
  | none => text.length

/-! ### The main loop -/

/-- A round of `strip_comments` that begins at a character: what is put out, and what is left. -/
def scanRound (symbol : Char) (rest : Str) : Str × Str :=
  let text := symbol :: rest
  if symbol = '-' ∧ rest.head? = some '-' then lineComment text
  else if symbol = '/' ∧ rest.head? = some '*' then
    let body := blockBody (text.drop 2)
    (' ' :: ' ' :: body.1 ++ [' ', ' '], body.2.drop 2)
  else
    match if symbol = '$' then dollarTag text else none with
    | some delimiter =>
      ((text.take (dollarEnd delimiter text)).map cover, text.drop (dollarEnd delimiter text))
    | none =>
      if symbol = '\'' then (' ' :: (literalBody rest).1, (literalBody rest).2)
      else ([symbol], rest)

section Lengths

variable {symbol : Char} {rest text : Str}

theorem length_lineComment_le : (lineComment text).2.length ≤ text.length := by
  induction text with
  | nil => exact le_rfl
  | cons c rest ih =>
    rw [lineComment]
    split
    · exact le_rfl
    · exact ih.trans (Nat.le_succ _)

theorem length_blockBody_le (text : Str) : (blockBody text).2.length ≤ text.length := by
  induction text using blockBody.induct with
  | case1 c following rest h => rw [blockBody, if_pos h]
  | case2 c following rest h ih =>
    rw [blockBody, if_neg h]
    exact ih.trans (Nat.le_succ _)
  | case3 rest h => rw [blockBody]; exact h

theorem length_literalBody_le : (literalBody text).2.length ≤ text.length := by
  induction text using literalBody.induct with
  | case1 c following rest h ih =>
    rw [literalBody, if_pos h]
    exact ih.trans (by simp only [List.length_cons]; omega)
  | case2 following rest h =>
    rw [literalBody, if_neg h, if_pos rfl]
    exact Nat.le_succ _
  | case3 c following rest h hquote ih =>
    rw [literalBody, if_neg h, if_neg hquote]
    exact ih.trans (Nat.le_succ _)
  | case4 c => simp [literalBody]
  | case5 => simp [literalBody]

theorem dollarEnd_pos {delimiter : Str} (h : dollarTag text = some delimiter) :
    0 < dollarEnd delimiter text := by
  obtain ⟨tag, htag, rfl⟩ := Option.map_eq_some_iff.1 h
  have hlength : (SqlText.delimiter tag).length = tag.length + 2 := by simp [SqlText.delimiter]
  rw [dollarEnd]
  split
  · omega
  · cases text with
    | nil => cases h
    | cons c rest => exact Nat.succ_pos _

/-- Every round reads at least one character. -/
theorem length_scanRound_le : (scanRound symbol rest).2.length ≤ rest.length := by
  by_cases hline : symbol = '-' ∧ rest.head? = some '-'
  · rw [scanRound, if_pos hline, lineComment, if_neg (by rw [hline.1]; decide)]
    exact length_lineComment_le
  by_cases hblock : symbol = '/' ∧ rest.head? = some '*'
  · have hbody := length_blockBody_le ((symbol :: rest).drop 2)
    rw [scanRound, if_neg hline, if_pos hblock]
    simp only [List.length_drop, List.length_cons] at hbody ⊢
    omega
  rw [scanRound, if_neg hline, if_neg hblock]
  cases hfound : if symbol = '$' then dollarTag (symbol :: rest) else none with
  | some delimiter =>
    have hpos := dollarEnd_pos (Option.ite_none_right_eq_some.1 hfound).2
    simp only [List.length_drop, List.length_cons]
    omega
  | none =>
    by_cases hquote : symbol = '\''
    · simp only [if_pos hquote]
      exact length_literalBody_le
    · simp only [if_neg hquote]
      exact le_rfl

end Lengths

/-- `strip_comments`. -/
def stripComments : Str → Str
  | [] => []
  | symbol :: rest => (scanRound symbol rest).1 ++ stripComments (scanRound symbol rest).2
termination_by text => text.length
decreasing_by exact Nat.lt_succ_of_le length_scanRound_le

end Pdr.Migrations
