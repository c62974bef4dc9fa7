import Pdr.Python.Int

/-!
# Values of Python as text

`str` leaves a string as it is and writes a list or a dictionary with the `repr` of what is in
it. In a `repr` every character that cannot be printed is escaped, so whatever is in a list,
its text stays on one line.

## Main definitions

* `Python.Unicode`: what the Unicode database says about digits and about printing.
* `Python.repr`: `repr(s)` of a string.
* `Python.Value`, `Python.Value.str`: strings, lists of strings and dictionaries, and `str` of
  them.

## Main results

* `Python.onOneLine_repr`: no line ends inside of a `repr`.
* `Python.Value.onOneLine_str`: nor inside of the text of a value, if it does not in a string.
-/

namespace Python

/-- The digits of Unicode, and the characters that can be printed. What ends a line cannot. -/
structure Unicode extends Decimals where
  printable : Char → Bool
  printable_of_endsLine : ∀ c, endsLine c = true → printable c = false

/-- As if the characters of ASCII were all there are to print. -/
def Unicode.onlyAscii : Unicode where
  toDecimals := .onlyAscii
  printable c := 32 ≤ c.toNat && c.toNat < 127
  printable_of_endsLine c h := by
    simp only [endsLine, List.contains_cons, List.contains_nil, Bool.or_eq_true, Bool.and_eq_true,
      decide_eq_true_eq, beq_iff_eq, Bool.or_false] at h
    simp only [Bool.and_eq_false_iff, decide_eq_false_iff_not]
    omega

/-! ### Strings -/

/-- So many last hexadecimal digits of a number. -/
def hexDigits : Nat → Nat → Str
  | 0, _ => []
  | width + 1, n => hexDigits width (n / 16) ++ [Nat.digitChar (n % 16)]

/-- A character that is written by its code point. -/
def escapeCode (c : Char) : Str :=
  if c.toNat ≤ 0xff then ['\\', 'x'] ++ hexDigits 2 c.toNat
  else if c.toNat ≤ 0xffff then ['\\', 'u'] ++ hexDigits 4 c.toNat
  else ['\\', 'U'] ++ hexDigits 8 c.toNat

/-- A character inside of quotation marks. -/
def escape (unicode : Unicode) (quote c : Char) : Str :=
  if c = quote ∨ c = '\\' then ['\\', c]
  else if c = '\t' then ['\\', 't']
  else if c = '\n' then ['\\', 'n']
  else if c = '\r' then ['\\', 'r']
  else if c.toNat < 32 ∨ c.toNat = 127 then escapeCode c
  else if c.toNat < 127 then [c]
  else if unicode.printable c then [c]
  else escapeCode c

/-- The quotation marks of a string. -/
def quoteOf (s : Str) : Char := if '\'' ∈ s ∧ '"' ∉ s then '"' else '\''

/-- `repr(s)`. -/
def repr (unicode : Unicode) (s : Str) : Str :=
  quoteOf s :: s.flatMap (escape unicode (quoteOf s)) ++ [quoteOf s]

/-! ### Values -/

/-- Strings, lists of strings, and dictionaries. -/
inductive Value where
  | text (s : Str)
  | list (items : List Str)
  | dict (items : List (Str × Value))

namespace Value

mutual

/-- `repr(value)`. -/
def repr (unicode : Unicode) : Value → Str
  | text s => Python.repr unicode s
  | list items => '[' :: join [',', ' '] (items.map (Python.repr unicode)) ++ [']']
  | dict items => '{' :: join [',', ' '] (reprItems unicode items) ++ ['}']

/-- The items of a dictionary. -/
def reprItems (unicode : Unicode) : List (Str × Value) → List Str
  | [] => []
  | (key, value) :: items =>
    (Python.repr unicode key ++ [':', ' '] ++ value.repr unicode) :: reprItems unicode items

end

/-- `str(value)`. -/
def str (unicode : Unicode) : Value → Str
  | text s => s
  | value => value.repr unicode

end Value

/-! ### On one line -/

theorem endsLine_of_isAscii {c : Char} (hlow : 32 ≤ c.toNat) (hhigh : c.toNat < 127) :
    endsLine c = false := by
  simp only [endsLine, List.contains_cons, List.contains_nil, Bool.or_eq_false_iff,
    Bool.and_eq_false_iff, decide_eq_false_iff_not, beq_eq_false_iff_ne, and_true]
  omega

theorem endsLine_digitChar : ∀ n, endsLine (Nat.digitChar n) = false
  | 0 | 1 | 2 | 3 | 4 | 5 | 6 | 7 | 8 | 9 | 10 | 11 | 12 | 13 | 14 | 15 => by decide
  | n + 16 => by
    have hmany : Nat.digitChar (n + 16) = '*' := Nat.digitChar_eq_star.2 (by omega)
    rw [hmany]
    decide

theorem onOneLine_hexDigits (width n : Nat) : OnOneLine (hexDigits width n) := by
  induction width generalizing n with
  | zero => exact onOneLine_nil
  | succ width ih =>
    rw [hexDigits, onOneLine_append]
    exact ⟨ih _, onOneLine_cons.2 ⟨endsLine_digitChar _, onOneLine_nil⟩⟩

theorem onOneLine_escapeCode (c : Char) : OnOneLine (escapeCode c) := by
  have hdigits : ∀ kind ∈ ['x', 'u', 'U'], ∀ width,
      OnOneLine (['\\', kind] ++ hexDigits width c.toNat) := by
    intro kind hkind width
    rw [onOneLine_append]
    refine ⟨?_, onOneLine_hexDigits _ _⟩
    simp only [List.mem_cons, List.not_mem_nil, or_false] at hkind
    rcases hkind with rfl | rfl | rfl <;> decide
  unfold escapeCode
  split
  · exact hdigits 'x' (by simp) 2
  · split
    · exact hdigits 'u' (by simp) 4
    · exact hdigits 'U' (by simp) 8

variable (unicode : Unicode)

theorem onOneLine_escape {quote : Char} (hquote : endsLine quote = false) (c : Char) :
    OnOneLine (escape unicode quote c) := by
  have hone : endsLine c = false → OnOneLine [c] := fun h => onOneLine_cons.2 ⟨h, onOneLine_nil⟩
  unfold escape
  split
  · rename_i h
    refine onOneLine_cons.2 ⟨by decide, hone ?_⟩
    rcases h with rfl | rfl
    · exact hquote
    · decide
  split
  · decide
  split
  · decide
  split
  · decide
  split
  · exact onOneLine_escapeCode c
  split
  · exact hone (endsLine_of_isAscii (by omega) (by omega))
  split
  · rename_i hprintable
    refine hone (Bool.eq_false_iff.2 fun hends => ?_)
    rw [unicode.printable_of_endsLine c hends] at hprintable
    cases hprintable
  · exact onOneLine_escapeCode c

/-- A `repr` is on one line, whatever is in the string. -/
theorem onOneLine_repr (s : Str) : OnOneLine (repr unicode s) := by
  have hquote : endsLine (quoteOf s) = false := by
    unfold quoteOf
    split <;> decide
  rw [repr, List.cons_append, onOneLine_cons, onOneLine_append]
  exact ⟨hquote, onOneLine_flatMap fun c _ => onOneLine_escape unicode hquote c,
    onOneLine_cons.2 ⟨hquote, onOneLine_nil⟩⟩

namespace Value

mutual

theorem onOneLine_repr : ∀ value : Value, OnOneLine (value.repr unicode)
  | text s => by
    rw [Value.repr]
    exact Python.onOneLine_repr unicode s
  | list items => by
    rw [Value.repr, List.cons_append, onOneLine_cons, onOneLine_append]
    refine ⟨by decide, onOneLine_join (by decide) fun part hpart => ?_, by decide⟩
    obtain ⟨item, -, rfl⟩ := List.mem_map.1 hpart
    exact Python.onOneLine_repr unicode item
  | dict items => by
    rw [Value.repr, List.cons_append, onOneLine_cons, onOneLine_append]
    exact ⟨by decide, onOneLine_join (by decide) (onOneLine_reprItems items), by decide⟩

theorem onOneLine_reprItems : ∀ items : List (Str × Value),
    ∀ part ∈ reprItems unicode items, OnOneLine part
  | [], part, h => absurd h List.not_mem_nil
  | (key, value) :: items, part, h => by
    rw [reprItems] at h
    rcases List.mem_cons.1 h with rfl | h
    · rw [onOneLine_append, onOneLine_append]
      exact ⟨⟨Python.onOneLine_repr unicode key, by decide⟩, onOneLine_repr value⟩
    · exact onOneLine_reprItems items part h

end

/-- The text of a value is on one line, if it is one or is not a string. -/
theorem onOneLine_str {value : Value} (h : ∀ s, value = text s → OnOneLine s) :
    OnOneLine (value.str unicode) := by
  cases value with
  | text s => exact h s rfl
  | list items => exact onOneLine_repr unicode (list items)
  | dict items => exact onOneLine_repr unicode (dict items)

end Value

end Python
