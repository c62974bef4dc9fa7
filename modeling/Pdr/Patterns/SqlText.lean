import Mathlib.Data.List.Basic
import Mathlib.Data.List.TakeWhile

/-!
# Comments and literals of PostgreSQL

The lexer of PostgreSQL reads a text from left to right. What a character belongs to depends on
what was opened before it: a comment to the end of the line, a comment in brackets, which may
contain others, a string in which a quote is doubled, a string behind an `E` in which a backslash
escapes, a quoted name, or a string between two equal dollar tags. Outside of them a word may
contain dollars, and an escape string goes on behind a newline.

## Main definitions

* `SqlText.Mode`, `SqlText.step`: what is open, and what one character does to it.
* `SqlText.marks`: which characters are inside of a comment or a literal.
* `SqlText.masked`: the text with a space for each of them, but its newlines.
* `SqlText.tagOf`: the tag of a dollar quote.

## Main results

* `SqlText.getElem?_masked`: what stands at a position of the masked text.
* `SqlText.tagOf_eq_some_iff`, `SqlText.tagOf_of_narrower`: the tags.
-/

namespace SqlText

/-! ### Classes of characters -/

/-- What begins a word: a letter, an underscore, or what is not in ASCII. -/
def beginsWord (c : Char) : Bool := c.isAlpha || c == '_' || decide (127 < c.toNat)

/-- What goes on in a dollar tag. -/
def continuesTag (c : Char) : Bool := beginsWord c || c.isDigit

/-- What goes on in a word. -/
def continuesWord (c : Char) : Bool := continuesTag c || c == '$'

/-- What ends a line. -/
def endsLine (c : Char) : Bool := c == '\n' || c == '\r'

/-- White space. -/
def isSpace (c : Char) : Bool := endsLine c || c == ' ' || c == '\t' || c == '\x0b' || c == '\x0c'

/-! ### Dollar tags -/

/-- The tag of a dollar quote that begins the text, where a tag begins and goes on with characters
of two classes. -/
def tagOf (begins continues : Char → Bool) : List Char → Option (List Char)
  | [] => none
  | c :: rest =>
    let tag := rest.takeWhile continues
    if c = '$' ∧ tag.head?.all begins ∧ (rest.drop tag.length).head? = some '$' then some tag
    else none

/-- The tag with its dollars. -/
def delimiter (tag : List Char) : List Char := '$' :: tag ++ ['$']

section Tags

variable {begins continues wider widerContinues : Char → Bool} {text tag back : List Char}

theorem takeWhile_append_dollar (hcontinues : continues '$' = false)
    (htag : ∀ c ∈ tag, continues c = true) :
    (tag ++ '$' :: back).takeWhile continues = tag := by
  rw [List.takeWhile_append_of_pos htag,
    List.takeWhile_cons_of_neg (Bool.eq_false_iff.1 hcontinues), List.append_nil]

theorem tagOf_eq_some_iff (hcontinues : continues '$' = false) :
    tagOf begins continues text = some tag ↔
      (∃ back, text = delimiter tag ++ back) ∧ tag.head?.all begins ∧
        ∀ c ∈ tag, continues c = true := by
  constructor
  · intro h
    cases text with
    | nil => cases h
    | cons c rest =>
      simp only [tagOf, Option.ite_none_right_eq_some, Option.some.injEq] at h
      obtain ⟨⟨rfl, hbegins, hdollar⟩, rfl⟩ := h
      have hback := List.cons_head?_tail (Option.mem_def.2 hdollar)
      have hrest := List.prefix_iff_eq_append.1 (List.takeWhile_prefix (l := rest) continues)
      refine ⟨⟨(rest.drop (rest.takeWhile continues).length).tail, ?_⟩, hbegins,
        fun c hc => List.mem_takeWhile_imp hc⟩
      rw [delimiter, List.cons_append, List.cons_append, List.append_assoc, List.singleton_append,
        hback, hrest]
  · rintro ⟨⟨back, rfl⟩, hbegins, htag⟩
    have hsplit : delimiter tag ++ back = '$' :: (tag ++ '$' :: back) := by simp [delimiter]
    rw [hsplit, tagOf, takeWhile_append_dollar hcontinues htag]
    simp [hbegins]

/-- Wider classes of characters find the same tag. -/
theorem tagOf_of_narrower (hwider : ∀ c, begins c = true → wider c = true)
    (hcontinues : ∀ c, continues c = true → widerContinues c = true)
    (hdollar : widerContinues '$' = false) (h : tagOf begins continues text = some tag) :
    tagOf wider widerContinues text = some tag := by
  have hnarrow : continues '$' = false := by
    by_contra hne
    rw [Bool.not_eq_false] at hne
    rw [hcontinues '$' hne] at hdollar
    cases hdollar
  obtain ⟨htext, hbegins, htag⟩ := (tagOf_eq_some_iff hnarrow).1 h
  refine (tagOf_eq_some_iff hdollar).2 ⟨htext, ?_, fun c hc => hcontinues c (htag c hc)⟩
  cases hhead : tag.head? with
  | none => rfl
  | some c =>
    rw [hhead] at hbegins
    exact hwider c hbegins

end Tags

/-! ### Reading character by character -/

/-- What stands before a character that is not inside of anything: a word, the end of an escape
string, what an escape string begins or goes on behind, or anything else. -/
inductive Before where
  | other
  | word
  | escapeEnd
  | escape
deriving DecidableEq

/-- What is open. -/
inductive Mode where
  | code (before : Before)
  | line (before : Before)
  | block (depth : ℕ)
  | string (escape : Bool)
  | name
  | dollar (tag : List Char)
  /-- So many hidden characters and one, and then another mode. -/
  | skip (left : ℕ) (next : Mode)
deriving DecidableEq

/-- What stands before the next character. -/
def Before.after (before : Before) (c : Char) (rest : List Char) : Before :=
  if before = .word ∧ continuesWord c then .word
  else if (c = 'e' ∨ c = 'E') ∧ rest.head? = some '\'' then .escape
  else if beginsWord c then .word
  else if before = .escapeEnd ∧ endsLine c then .escape
  else if (before = .escapeEnd ∨ before = .escape) ∧ isSpace c then before
  else .other

/-- The tag of a dollar quote that is opened: in a word a dollar is a part of it. -/
def opening (before : Before) (text : List Char) : Option (List Char) :=
  if before = .word then none else tagOf beginsWord continuesTag text

/-- Whether the character is inside of a comment or a literal, and what is open behind it. Where
two characters open or close something, the second one is skipped. -/
def step : Mode → Char → List Char → Bool × Mode
  | .code before, c, rest =>
    if c = '-' ∧ rest.head? = some '-' then (true, .line before)
    else if c = '/' ∧ rest.head? = some '*' then (true, .skip 0 (.block 0))
    else if c = '\'' then (true, .string (before == .escape))
    else if c = '"' then (false, .name)
    else
      match opening before (c :: rest) with
      | some tag => (true, .skip tag.length (.dollar tag))
      | none => (false, .code (before.after c rest))
  | .line before, c, rest =>
    if endsLine c then (false, .code (before.after c rest)) else (true, .line before)
  | .block depth, c, rest =>
    if c = '/' ∧ rest.head? = some '*' then (true, .skip 0 (.block (depth + 1)))
    else if c = '*' ∧ rest.head? = some '/' then
      (true, .skip 0 (if depth = 0 then .code .other else .block (depth - 1)))
    else (true, .block depth)
  | .string escape, c, rest =>
    if escape ∧ c = '\\' then (true, .skip 0 (.string escape))
    else if c = '\'' then
      if rest.head? = some '\'' then (true, .skip 0 (.string escape))
      else (true, .code (if escape then .escapeEnd else .other))
    else (true, .string escape)
  -- a doubled quote closes the name and opens it again
  | .name, c, _ => (false, if c = '"' then .code .other else .name)
  | .dollar tag, c, rest =>
    if delimiter tag <+: c :: rest then (true, .skip tag.length (.code .other))
    else (true, .dollar tag)
  | .skip 0 next, _, _ => (true, next)
  | .skip (left + 1) next, _, _ => (true, .skip left next)

section Outside

variable {before : Before} {c : Char} {rest tag : List Char}

theorem step_code_of_opening (hline : ¬ (c = '-' ∧ rest.head? = some '-'))
    (hblock : ¬ (c = '/' ∧ rest.head? = some '*')) (hquote : c ≠ '\'') (hname : c ≠ '"')
    (h : opening before (c :: rest) = some tag) :
    step (.code before) c rest = (true, .skip tag.length (.dollar tag)) := by
  rw [step, if_neg hline, if_neg hblock, if_neg hquote, if_neg hname, h]

theorem step_code_of_other (hline : ¬ (c = '-' ∧ rest.head? = some '-'))
    (hblock : ¬ (c = '/' ∧ rest.head? = some '*')) (hquote : c ≠ '\'') (hname : c ≠ '"')
    (h : opening before (c :: rest) = none) :
    step (.code before) c rest = (false, .code (before.after c rest)) := by
  rw [step, if_neg hline, if_neg hblock, if_neg hquote, if_neg hname, h]

end Outside

theorem step_string_of_doubled (escape : Bool) (rest : List Char) :
    step (.string escape) '\'' ('\'' :: rest) = (true, .skip 0 (.string escape)) := by
  rw [step, if_neg (by decide +revert), if_pos rfl]
  exact if_pos rfl

theorem step_string_of_quote (escape : Bool) {rest : List Char} (h : rest.head? ≠ some '\'') :
    step (.string escape) '\'' rest = (true, .code (if escape then .escapeEnd else .other)) := by
  rw [step, if_neg (by decide +revert), if_pos rfl]
  exact if_neg h

theorem step_string_of_escape (rest : List Char) :
    step (.string true) '\\' rest = (true, .skip 0 (.string true)) := by
  rw [step]
  exact if_pos ⟨rfl, rfl⟩

theorem step_string_of_other {escape : Bool} {c : Char} {rest : List Char}
    (hescape : ¬ (escape = true ∧ c = '\\')) (hquote : c ≠ '\'') :
    step (.string escape) c rest = (true, .string escape) := by
  rw [step, if_neg hescape, if_neg hquote]

/-- Which characters are inside of a comment or a literal. -/
def marks : Mode → List Char → List Bool
  | _, [] => []
  | mode, c :: rest => (step mode c rest).1 :: marks (step mode c rest).2 rest

/-- A space, but for a newline. -/
def cover (c : Char) : Char := if c = '\n' then '\n' else ' '

/-- The text with its comments and literals covered. -/
def masked : Mode → List Char → List Char
  | _, [] => []
  | mode, c :: rest =>
    (if (step mode c rest).1 then cover c else c) :: masked (step mode c rest).2 rest

variable {mode next : Mode} {c : Char} {front rest text : List Char}

@[simp] theorem masked_nil : masked mode [] = [] := rfl

theorem masked_cons_of_hidden (h : step mode c rest = (true, next)) :
    masked mode (c :: rest) = cover c :: masked next rest := by
  rw [masked, h]
  rfl

theorem masked_cons_of_shown (h : step mode c rest = (false, next)) :
    masked mode (c :: rest) = c :: masked next rest := by
  rw [masked, h]
  rfl

@[simp] theorem length_marks : (marks mode text).length = text.length := by
  induction text generalizing mode with
  | nil => rfl
  | cons c rest ih => rw [marks, List.length_cons, ih, List.length_cons]

@[simp] theorem length_masked : (masked mode text).length = text.length := by
  induction text generalizing mode with
  | nil => rfl
  | cons c rest ih => rw [masked, List.length_cons, ih, List.length_cons]

/-- What stands at a position of the masked text. -/
theorem getElem?_masked (i : ℕ) :
    (masked mode text)[i]? =
      (text[i]?).map fun c => if (marks mode text)[i]? = some true then cover c else c := by
  induction text generalizing mode i with
  | nil => rfl
  | cons c rest ih =>
    cases i with
    | zero => simp [masked, marks]
    | succ i =>
      rw [masked, marks, List.getElem?_cons_succ, List.getElem?_cons_succ, ih]
      rfl

end SqlText
