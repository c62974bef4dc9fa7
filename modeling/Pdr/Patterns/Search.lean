import Mathlib.Computability.RegularExpressions

/-!
# Looking for a pattern in a text

A pattern is a list of alternatives; an alternative is a regular expression that may be tied
to the beginning of the text and to its end. A text has the pattern in it if some part of the
text is matched by an alternative and lies where its anchors want it. This is how an unanchored
match of a database or of a scripting language reads a pattern; what is captured by it, and
which of several matches is taken, is not asked here.

## Main definitions

* `Patterns.Alternative`, `Patterns.Pattern`
* `Patterns.Pattern.IsIn`: the text has the pattern in it.
* `Patterns.word`, `Patterns.oneOf`: the expressions for fixed letters and for a class of them.

## Main results

* `Patterns.isIn_word`, `Patterns.isIn_word_at_start`: fixed letters are in a text if they are
  an infix of it, or a prefix if the pattern is tied to the beginning.
* `Patterns.isIn_whole`: a pattern tied to both ends is in the texts that its expression
  matches.
-/

namespace Patterns

variable {α : Type}

/-! ### Expressions -/

/-- The letters one after another. -/
def word (letters : List α) : RegularExpression α :=
  (letters.map RegularExpression.char).prod

/-- One letter of a class. -/
def oneOf (letters : List α) : RegularExpression α :=
  (letters.map RegularExpression.char).sum

theorem mem_word {letters part : List α} : part ∈ (word letters).matches' ↔ part = letters := by
  induction letters generalizing part with
  | nil => exact Iff.rfl
  | cons letter letters ih =>
    rw [word, List.map_cons, List.prod_cons, RegularExpression.matches'_mul,
      RegularExpression.matches'_char, Language.mem_mul]
    constructor
    · rintro ⟨first, hfirst, rest, hrest, rfl⟩
      rw [Set.mem_singleton_iff.1 hfirst, ih.1 hrest]
      rfl
    · rintro rfl
      exact ⟨[letter], rfl, letters, ih.2 rfl, rfl⟩

theorem mem_oneOf {letters part : List α} :
    part ∈ (oneOf letters).matches' ↔ ∃ letter ∈ letters, part = [letter] := by
  induction letters with
  | nil => exact ⟨fun h => h.elim, fun ⟨_, h, _⟩ => nomatch h⟩
  | cons letter letters ih =>
    rw [oneOf, List.map_cons, List.sum_cons, RegularExpression.matches'_add,
      RegularExpression.matches'_char, Language.mem_add]
    constructor
    · rintro (hfirst | hrest)
      · exact ⟨letter, List.mem_cons_self, hfirst⟩
      · obtain ⟨other, hother, rfl⟩ := ih.1 hrest
        exact ⟨other, List.mem_cons_of_mem _ hother, rfl⟩
    · rintro ⟨other, hother, rfl⟩
      rcases List.mem_cons.1 hother with rfl | hother
      · exact Or.inl rfl
      · exact Or.inr (ih.2 ⟨other, hother, rfl⟩)

/-- Any number of letters of a class. -/
theorem mem_star_oneOf {letters part : List α} :
    part ∈ (oneOf letters).star.matches' ↔ ∀ letter ∈ part, letter ∈ letters := by
  rw [RegularExpression.matches'_star, Language.mem_kstar]
  constructor
  · rintro ⟨parts, rfl, hparts⟩ letter hletter
    obtain ⟨piece, hpiece, hin⟩ := List.mem_flatten.1 hletter
    obtain ⟨other, hother, rfl⟩ := mem_oneOf.1 (hparts piece hpiece)
    exact List.mem_singleton.1 hin ▸ hother
  · intro hall
    refine ⟨part.map fun letter => [letter], ?_, fun piece hpiece => ?_⟩
    · induction part with
      | nil => rfl
      | cons letter part ih =>
        rw [List.map_cons, List.flatten_cons,
          ← ih fun other hother => hall other (List.mem_cons_of_mem _ hother)]
        rfl
    · obtain ⟨letter, hletter, rfl⟩ := List.mem_map.1 hpiece
      exact mem_oneOf.2 ⟨letter, hall letter hletter, rfl⟩

/-! ### Patterns -/

/-- One alternative of a pattern, with its anchors. -/
structure Alternative (α : Type) where
  /-- `^`. -/
  fromStart : Bool := false
  body : RegularExpression α
  /-- `$`. -/
  toEnd : Bool := false

/-- Alternatives with `|` between them. -/
abbrev Pattern (α : Type) : Type := List (Alternative α)

/-- Some part of the text is matched, at the place the anchors want. -/
def Alternative.IsIn (alternative : Alternative α) (text : List α) : Prop :=
  ∃ before part after, text = before ++ part ++ after ∧ part ∈ alternative.body.matches' ∧
    (alternative.fromStart = true → before = []) ∧ (alternative.toEnd = true → after = [])

/-- One of the alternatives is found in the text. -/
def Pattern.IsIn (pattern : Pattern α) (text : List α) : Prop :=
  ∃ alternative ∈ pattern, alternative.IsIn text

theorem isIn_word {letters text : List α} :
    Alternative.IsIn ⟨false, word letters, false⟩ text ↔ letters <:+: text := by
  constructor
  · rintro ⟨before, part, after, rfl, hpart, -, -⟩
    rw [mem_word.1 hpart]
    exact ⟨before, after, rfl⟩
  · rintro ⟨before, after, rfl⟩
    exact ⟨before, letters, after, rfl, mem_word.2 rfl, nofun, nofun⟩

theorem isIn_word_at_start {letters text : List α} :
    Alternative.IsIn ⟨true, word letters, false⟩ text ↔ letters <+: text := by
  constructor
  · rintro ⟨before, part, after, rfl, hpart, hbefore, -⟩
    rw [mem_word.1 hpart, hbefore rfl]
    exact ⟨after, rfl⟩
  · rintro ⟨after, rfl⟩
    exact ⟨[], letters, after, rfl, mem_word.2 rfl, fun _ => rfl, nofun⟩

theorem isIn_whole {body : RegularExpression α} {text : List α} :
    Alternative.IsIn ⟨true, body, true⟩ text ↔ text ∈ body.matches' := by
  constructor
  · rintro ⟨before, part, after, rfl, hpart, hbefore, hafter⟩
    rw [hbefore rfl, hafter rfl, List.nil_append, List.append_nil]
    exact hpart
  · intro htext
    exact ⟨[], text, [], (List.append_nil text).symm, htext, fun _ => rfl, fun _ => rfl⟩

end Patterns
