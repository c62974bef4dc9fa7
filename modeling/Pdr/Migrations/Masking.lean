import Pdr.Migrations.StripComments

/-!
# What the scanner of migrations covers

The scanner reads a migration much as the lexer of PostgreSQL does. It departs from it where a
comment in brackets contains another, or is left open; where a comment ends at a carriage return,
a backslash escapes a quote, or a dollar tag has a letter outside of ASCII; and where something
seems to be opened inside of a quoted name or of a word. But for these places it covers exactly
what is inside of a comment or a literal, and nothing moves.

Most departures show at once, in the character where they happen. Those inside of a comment and
behind a backslash need not: what the scanner takes for statements from there may happen to be
covered as well.

## Main definitions

* `Pdr.Migrations.Covers`: a text whose comments and literals are covered, position by position.
* `Pdr.Migrations.departsInSight`, `Pdr.Migrations.departsUnderCover`: where the scanner departs.
* `Pdr.Migrations.isPlain`, `Pdr.Migrations.isVeiled`: texts without such places, and texts whose
  first one is under cover.

## Main results

* `Pdr.Migrations.covers_of_isPlain_and_conversely`: where the scanner covers what it should.
* `Pdr.Migrations.open_and_nested_comments_are_not_covered`: two texts where it does not.
-/

namespace Pdr.Migrations

open Python (Str)
open SqlText

/-! ### What should be covered -/

/-- The text as it is at the beginning. -/
abbrev atStart : Mode := .code .other

/-- Every position is kept; and what is inside of a comment or a literal, and nothing else, is a
space. -/
structure Covers (text out : Str) : Prop where
  length_eq : out.length = text.length
  newline_iff : ∀ i : ℕ, out[i]? = some '\n' ↔ text[i]? = some '\n'
  shown : ∀ (i : ℕ) c, text[i]? = some c → (marks atStart text)[i]? = some false → out[i]? = some c
  hidden : ∀ (i : ℕ) c, text[i]? = some c → c ≠ '\n' → (marks atStart text)[i]? = some true →
    out[i]? = some ' '

theorem cover_eq_newline_iff {c : Char} : cover c = '\n' ↔ c = '\n' := by
  unfold cover
  split_ifs with h
  · exact iff_of_true rfl h
  · exact iff_of_false (by decide) h

theorem covers_iff {text out : Str} : Covers text out ↔ out = masked atStart text := by
  constructor
  · intro h
    refine List.ext_getElem? fun i => ?_
    rw [getElem?_masked]
    cases htext : text[i]? with
    | none =>
      rw [List.getElem?_eq_none_iff] at htext
      rw [List.getElem?_eq_none_iff.2 (by rw [h.length_eq]; exact htext), Option.map_none]
    | some c =>
      have hlt : i < (marks atStart text).length := by
        rw [length_marks]
        exact (List.getElem?_eq_some_iff.1 htext).1
      rw [Option.map_some]
      cases hmark : (marks atStart text)[i] with
      | false =>
        have hfalse : (marks atStart text)[i]? = some false := by
          rw [List.getElem?_eq_getElem hlt, hmark]
        rw [hfalse, if_neg (by decide), h.shown i c htext hfalse]
      | true =>
        have htrue : (marks atStart text)[i]? = some true := by
          rw [List.getElem?_eq_getElem hlt, hmark]
        rw [htrue, if_pos rfl, cover]
        split_ifs with hc
        · rw [(h.newline_iff i).2 (by rw [htext, hc])]
        · exact h.hidden i c htext hc htrue
  · rintro rfl
    refine ⟨length_masked, fun i => ?_, fun i c htext hmark => ?_, fun i c htext hc hmark => ?_⟩
    · rw [getElem?_masked]
      cases htext : text[i]? with
      | none => exact iff_of_false (by simp) (by simp)
      | some c =>
        rw [Option.map_some, Option.some.injEq, Option.some.injEq]
        split_ifs
        · exact cover_eq_newline_iff
        · exact Iff.rfl
    · rw [getElem?_masked, htext, hmark, Option.map_some, if_neg (by decide)]
    · rw [getElem?_masked, htext, hmark, Option.map_some, if_pos rfl, cover, if_neg hc]

/-! ### Where the scanner departs -/

/-- The scanner begins to cover something. -/
def opensHere (c : Char) (rest : Str) : Bool :=
  (c == '-' && rest.head? == some '-') || (c == '/' && rest.head? == some '*') || c == '\'' ||
    (dollarTag (c :: rest)).isSome

/-- A departure that shows at the character where it happens. -/
def departsInSight : Mode → Char → Str → Bool
  | .code before, c, rest =>
    c == '$' && dollarTag (c :: rest) != (opening before (c :: rest)).map delimiter
  | .line _, c, _ => c == '\r'
  | .name, c, rest => opensHere c rest
  | _, _, _ => false

/-- A departure that need not show: a comment inside of a comment, or an escaped quote. -/
def departsUnderCover : Mode → Char → Str → Bool
  | .block _, c, rest => c == '/' && rest.head? == some '*'
  | .string true, c, rest => c == '\\' && rest.head? == some '\''
  | _, _, _ => false

/-- Inside of a comment in brackets. -/
def inBlock : Mode → Bool
  | .block _ => true
  | _ => false

/-- The scanner departs nowhere, and no comment is left open. -/
def isPlain : Mode → Str → Bool
  | mode, [] => !inBlock mode
  | mode, c :: rest =>
    !departsInSight mode c rest && !departsUnderCover mode c rest &&
      isPlain (step mode c rest).2 rest

/-- The scanner departs, and the first time under cover. -/
def isVeiled : Mode → Str → Bool
  | _, [] => false
  | mode, c :: rest =>
    !departsInSight mode c rest &&
      (departsUnderCover mode c rest || isVeiled (step mode c rest).2 rest)

/-! ### One character -/

/-- Unless the first departure is under cover, this is what should be put out for the text exactly
if there is no departure. -/
def Agrees (mode : Mode) (text out : Str) : Prop :=
  isVeiled mode text = false → (out = masked mode text ↔ isPlain mode text = true)

section Agrees

variable {mode next : Mode} {c d : Char} {front rest text out : Str} {hidden : Bool}

theorem Agrees.cons (hstep : step mode c rest = (hidden, next))
    (hsight : departsInSight mode c rest = false) (hcover : departsUnderCover mode c rest = false)
    (hd : d = if hidden = true then cover c else c) (h : Agrees next rest out) :
    Agrees mode (c :: rest) (d :: out) := by
  intro hveiled
  rw [isVeiled, hsight, hcover, hstep] at hveiled
  rw [isPlain, hsight, hcover, masked, hstep, hd, List.cons.injEq]
  simpa using h (by simpa using hveiled)

/-- A departure that shows. -/
theorem Agrees.of_departure (hsight : departsInSight mode c rest = true)
    (hhead : out.head? ≠ (masked mode (c :: rest)).head?) : Agrees mode (c :: rest) out := by
  intro _
  refine iff_of_false ?_ ?_
  · intro hout
    rw [hout] at hhead
    exact hhead rfl
  · rw [isPlain, hsight, Bool.not_true, Bool.false_and, Bool.false_and]
    exact Bool.false_ne_true

theorem Agrees.of_veil (hsight : departsInSight mode c rest = false)
    (hcover : departsUnderCover mode c rest = true) : Agrees mode (c :: rest) out := by
  intro hveiled
  rw [isVeiled, hsight, hcover] at hveiled
  cases hveiled

theorem Agrees.of_length (hlength : out.length ≠ text.length)
    (hplain : isPlain mode text = false) : Agrees mode text out := by
  intro _
  refine iff_of_false ?_ (by rw [hplain]; decide)
  intro hout
  rw [hout, length_masked] at hlength
  exact hlength rfl

theorem agrees_nil (h : inBlock mode = false) : Agrees mode [] [] := by
  intro _
  exact iff_of_true rfl (by rw [isPlain, h]; rfl)

/-- What is skipped is read alike. -/
theorem Agrees.skip {left : ℕ} (hfront : front.length = left + 1) (h : Agrees next rest out) :
    Agrees (.skip left next) (front ++ rest) (front.map cover ++ out) := by
  induction left generalizing front with
  | zero =>
    obtain ⟨c, rfl⟩ := List.length_eq_one_iff.1 hfront
    exact .cons rfl rfl rfl rfl h
  | succ left ih =>
    cases front with
    | nil => cases hfront
    | cons c front => exact .cons rfl rfl rfl rfl (ih (by simpa using hfront))

end Agrees

/-! ### One comment or literal -/

section Parts

variable {c : Char} {rest text tag : Str} {before : Before} {n : ℕ}

theorem opensHere_eq_false_iff :
    opensHere c rest = false ↔
      ¬ (c = '-' ∧ rest.head? = some '-') ∧ ¬ (c = '/' ∧ rest.head? = some '*') ∧ c ≠ '\'' ∧
        dollarTag (c :: rest) = none := by
  simp only [opensHere, Bool.or_eq_false_iff, Bool.and_eq_false_iff, beq_eq_false_iff_ne,
    Option.isSome_eq_false_iff, Option.isNone_iff_eq_none, not_and_or, and_assoc, ne_eq]

theorem stripComments_of_closed (h : opensHere c rest = false) :
    stripComments (c :: rest) = c :: stripComments rest := by
  obtain ⟨hline, hblock, hquote, hdollar⟩ := opensHere_eq_false_iff.1 h
  have hround : scanRound c rest = ([c], rest) := by
    rw [scanRound, if_neg hline, if_neg hblock, hdollar, ite_self]
    exact if_neg hquote
  rw [stripComments, hround]
  rfl

theorem eq_dollar_of_dollarTag {tag : Str} (h : dollarTag (c :: rest) = some tag) : c = '$' := by
  obtain ⟨inner, hinner, -⟩ := Option.map_eq_some_iff.1 h
  rw [tagOf, Option.ite_none_right_eq_some] at hinner
  exact hinner.1.1

theorem scanRound_of_dollarTag {tag : Str} (h : dollarTag (c :: rest) = some tag) :
    scanRound c rest = (((c :: rest).take (dollarEnd tag (c :: rest))).map cover,
      (c :: rest).drop (dollarEnd tag (c :: rest))) := by
  obtain rfl := eq_dollar_of_dollarTag h
  rw [scanRound, if_neg (by simp), if_neg (by simp), if_pos rfl, h]

/-- Where something is opened, the first character that is put out is a space. -/
theorem head?_stripComments_of_opens (h : opensHere c rest = true) :
    (stripComments (c :: rest)).head? = some ' ' := by
  have hround : (scanRound c rest).1.head? = some ' ' := by
    by_cases hline : c = '-' ∧ rest.head? = some '-'
    · rw [scanRound, if_pos hline, lineComment, if_neg (by rw [hline.1]; decide)]
      rfl
    by_cases hblock : c = '/' ∧ rest.head? = some '*'
    · rw [scanRound, if_neg hline, if_pos hblock]
      rfl
    cases hdollar : dollarTag (c :: rest) with
    | some tag =>
      have hpos := dollarEnd_pos hdollar
      obtain ⟨stop, hstop⟩ := Nat.exists_eq_succ_of_ne_zero hpos.ne'
      rw [scanRound_of_dollarTag hdollar, hstop, eq_dollar_of_dollarTag hdollar]
      rfl
    | none =>
      have hquote : c = '\'' := by simpa [opensHere, hdollar, hline, hblock] using h
      rw [scanRound, if_neg hline, if_neg hblock, hdollar, ite_self]
      simp only [if_pos hquote, List.head?_cons]
  rw [stripComments, List.head?_append, hround]
  rfl

theorem ne_space_of_opens (h : opensHere c rest = true) : c ≠ ' ' := by
  rintro rfl
  cases h

/-- Nothing is covered. -/
def IsOutside : Mode → Prop
  | .code _ => True
  | .name => True
  | _ => False

/-- What is assumed of shorter texts. -/
def AgreesBelow (n : ℕ) : Prop :=
  ∀ (mode : Mode) (text : Str), IsOutside mode → text.length < n →
    Agrees mode text (stripComments text)

/-- A comment to the end of the line. -/
theorem agrees_line (hbelow : AgreesBelow n) (hlength : text.length ≤ n) :
    Agrees (.line before) text ((lineComment text).1 ++ stripComments (lineComment text).2) := by
  induction text with
  | nil =>
    rw [lineComment, stripComments]
    exact agrees_nil rfl
  | cons c rest ih =>
    have hrest : rest.length < n := hlength
    by_cases hnewline : c = '\n'
    · subst hnewline
      rw [lineComment, if_pos rfl]
      show Agrees _ _ (stripComments ('\n' :: rest))
      rw [stripComments_of_closed rfl]
      exact .cons rfl rfl rfl rfl (hbelow _ rest trivial hrest)
    · rw [lineComment, if_neg hnewline]
      have hcover : cover c = ' ' := if_neg hnewline
      by_cases hreturn : c = '\r'
      · subst hreturn
        refine .of_departure rfl ?_
        simp [masked, step, endsLine]
      · have hends : endsLine c = false := by simp [endsLine, hnewline, hreturn]
        exact .cons (by rw [step, hends]; rfl) (by simp [departsInSight, hreturn]) rfl
          (by rw [if_pos rfl, hcover]) (ih hrest.le)

/-- A comment in brackets, behind its first two characters. -/
theorem agrees_block (hbelow : AgreesBelow n) (hlength : text.length ≤ n) :
    Agrees (.block 0) text
      ((blockBody text).1 ++ (' ' :: ' ' :: stripComments ((blockBody text).2.drop 2))) := by
  induction text using blockBody.induct with
  | case1 c following rest h =>
    obtain ⟨rfl, rfl⟩ := h
    rw [blockBody, if_pos ⟨rfl, rfl⟩]
    simp only [List.length_cons] at hlength
    have hstep : step (.block 0) '*' ('/' :: rest) = (true, .skip 0 (.code .other)) := rfl
    exact .cons hstep rfl rfl rfl (.cons rfl rfl rfl rfl (hbelow _ rest trivial (by omega)))
  | case2 c following rest h ih =>
    rw [blockBody, if_neg h]
    by_cases hnested : c = '/' ∧ following = '*'
    · obtain ⟨rfl, rfl⟩ := hnested
      exact .of_veil rfl rfl
    · have hstep : step (.block 0) c (following :: rest) = (true, .block 0) := by
        simp only [step, List.head?_cons, Option.some.injEq]
        rw [if_neg hnested, if_neg h]
      have hcover : departsUnderCover (.block 0) c (following :: rest) = false := by
        simpa [departsUnderCover] using hnested
      exact .cons hstep rfl hcover rfl (ih (Nat.le_of_succ_le hlength))
  | case3 rest h =>
    -- the text ends inside of the comment
    cases rest with
    | nil => exact .of_length (by simp [blockBody, stripComments]) rfl
    | cons c rest =>
      cases rest with
      | nil =>
        exact .of_length (by simp [blockBody, stripComments]) (by simp [isPlain, step, inBlock])
      | cons following rest => exact absurd rfl (h c following rest)

/-- A string, behind its first quote; and behind a backslash, unless a quote follows. -/
theorem agrees_string (escape : Bool) (hbelow : AgreesBelow n) (hlength : text.length ≤ n) :
    Agrees (.string escape) text ((literalBody text).1 ++ stripComments (literalBody text).2) ∧
      (text.head? ≠ some '\'' →
        Agrees (.skip 0 (.string escape)) text
          ((literalBody text).1 ++ stripComments (literalBody text).2)) := by
  induction text using literalBody.induct with
  | case1 c following rest h ih =>
    obtain ⟨rfl, rfl⟩ := h
    simp only [List.length_cons] at hlength
    rw [literalBody, if_pos ⟨rfl, rfl⟩]
    refine ⟨?_, fun h => absurd rfl h⟩
    exact .cons (step_string_of_doubled escape rest) rfl (by cases escape <;> rfl) rfl
      (.cons rfl rfl rfl rfl (ih (by omega)).1)
  | case2 following rest h =>
    have hfollowing : (following :: rest).head? ≠ some '\'' := by simpa using h
    rw [literalBody, if_neg h, if_pos rfl]
    refine ⟨?_, fun h => absurd rfl h⟩
    exact .cons (step_string_of_quote escape hfollowing) rfl (by cases escape <;> rfl) rfl
      (hbelow _ _ trivial hlength)
  | case3 c following rest h hquote ih =>
    obtain ⟨hstring, hskipped⟩ := ih (Nat.le_of_succ_le hlength)
    rw [literalBody, if_neg h, if_neg hquote]
    refine ⟨?_, fun _ => .cons rfl rfl rfl rfl hstring⟩
    by_cases hescape : escape = true ∧ c = '\\'
    · obtain ⟨rfl, rfl⟩ := hescape
      by_cases hfollowing : following = '\''
      · subst hfollowing
        exact .of_veil rfl rfl
      · exact .cons (step_string_of_escape _) rfl (by simp [departsUnderCover, hfollowing]) rfl
          (hskipped (by simpa using hfollowing))
    · have hcover : departsUnderCover (.string escape) c (following :: rest) = false := by
        cases escape with
        | false => rfl
        | true => simpa [departsUnderCover] using fun hc => absurd ⟨rfl, hc⟩ hescape
      exact .cons (step_string_of_other hescape hquote) rfl hcover rfl hstring
  | case4 c =>
    have hnil : Agrees (.string escape) [] (stripComments []) := by
      rw [stripComments]
      exact agrees_nil rfl
    have hcover : departsUnderCover (.string escape) c [] = false := by
      cases escape with
      | false => rfl
      | true => exact Bool.and_false _
    rw [literalBody]
    refine ⟨?_, fun _ => .cons rfl rfl rfl rfl hnil⟩
    by_cases hquote : c = '\''
    · subst hquote
      refine .cons (step_string_of_quote escape (by simp)) rfl hcover rfl ?_
      rw [stripComments]
      exact agrees_nil rfl
    by_cases hescape : escape = true ∧ c = '\\'
    · obtain ⟨rfl, rfl⟩ := hescape
      refine .cons (step_string_of_escape []) rfl hcover rfl ?_
      rw [stripComments]
      exact agrees_nil rfl
    · exact .cons (step_string_of_other hescape hquote) rfl hcover rfl hnil
  | case5 =>
    rw [literalBody, stripComments]
    exact ⟨agrees_nil rfl, fun _ => agrees_nil rfl⟩

theorem tagOf_of_ascii
    (h : tagOf (fun c => c.isAlpha || c == '_') (fun c => c.isAlphanum || c == '_') text =
      some tag) : tagOf beginsWord continuesTag text = some tag := by
  refine tagOf_of_narrower (fun c hc => ?_) (fun c hc => ?_) (by decide) h
  · rw [beginsWord, hc, Bool.true_or]
  · simp only [Char.isAlphanum, Bool.or_eq_true, beq_iff_eq] at hc
    simp only [continuesTag, beginsWord, Bool.or_eq_true, beq_iff_eq]
    tauto

/-- What is put out for a dollar quote and for what follows it, behind its first tag. -/
def behindTag (tag text : Str) : Str :=
  match findIn (delimiter tag) text with
  | some closing => (text.take (closing + (delimiter tag).length)).map cover ++
      stripComments (text.drop (closing + (delimiter tag).length))
  | none => text.map cover

theorem stripComments_of_dollarTag
    (hdollar : dollarTag (delimiter tag ++ text) = some (delimiter tag)) :
    stripComments (delimiter tag ++ text) = (delimiter tag).map cover ++ behindTag tag text := by
  have hcons : delimiter tag ++ text = '$' :: (tag ++ ['$'] ++ text) := by simp [delimiter]
  have hround := scanRound_of_dollarTag (hcons ▸ hdollar)
  rw [← hcons, dollarEnd, List.drop_left] at hround
  rw [hcons, stripComments, hround, behindTag]
  cases findIn (delimiter tag) text with
  | none =>
    simp only [List.take_length, List.drop_length, List.map_append]
    rw [stripComments, List.append_nil]
  | some closing =>
    simp only [Nat.add_assoc, List.take_length_add_append, List.drop_length_add_append,
      List.map_append, List.append_assoc]

/-- A dollar quote, behind its first tag. -/
theorem agrees_dollar (hbelow : AgreesBelow n) (hlength : text.length ≤ n) :
    Agrees (.dollar tag) text (behindTag tag text) := by
  induction text with
  | nil => exact agrees_nil rfl
  | cons c rest ih =>
    by_cases htag : delimiter tag <+: c :: rest
    · obtain ⟨back, hback⟩ := htag
      have hfind : findIn (delimiter tag) (c :: rest) = some 0 := by
        rw [findIn, if_pos ⟨back, hback⟩]
      have hcons : delimiter tag ++ back = '$' :: (tag ++ ['$'] ++ back) := by simp [delimiter]
      obtain ⟨rfl, rfl⟩ := List.cons.inj (hcons.symm.trans hback)
      have hlast : (tag ++ ['$']).length = tag.length + 1 := by simp
      have hshort : back.length < n := by
        simp only [List.length_cons, List.length_append] at hlength
        omega
      have hstep : step (.dollar tag) '$' (tag ++ ['$'] ++ back) =
          (true, .skip tag.length (.code .other)) := if_pos ⟨back, hback⟩
      rw [behindTag, hfind]
      simp only [Nat.zero_add]
      rw [← hback, List.take_left, List.drop_left, hback]
      exact .cons hstep rfl rfl rfl (.skip hlast (hbelow _ back trivial hshort))
    · have hrest := ih (Nat.le_of_succ_le hlength)
      have hstep : step (.dollar tag) c rest = (true, .dollar tag) := if_neg htag
      have hcons : behindTag tag (c :: rest) = cover c :: behindTag tag rest := by
        rw [behindTag, behindTag, findIn, if_neg htag]
        cases findIn (delimiter tag) rest with
        | none => rfl
        | some closing =>
          rw [Option.map_some]
          simp only [Nat.add_right_comm closing 1, List.take_succ_cons, List.drop_succ_cons]
          rfl
      rw [hcons]
      exact .cons hstep rfl rfl rfl hrest

/-- Inside of a quoted name. -/
theorem agrees_name (hbelow : AgreesBelow n) (hlength : rest.length < n) :
    Agrees .name (c :: rest) (stripComments (c :: rest)) := by
  cases hopens : opensHere c rest with
  | true =>
    refine .of_departure hopens ?_
    rw [head?_stripComments_of_opens hopens]
    intro hhead
    exact ne_space_of_opens hopens (Option.some.inj hhead).symm
  | false =>
    rw [stripComments_of_closed hopens]
    refine .cons rfl hopens rfl rfl ?_
    split
    · exact hbelow _ rest trivial hlength
    · exact hbelow _ rest trivial hlength

/-- Outside of everything. -/
theorem agrees_code (hbelow : AgreesBelow n) (hlength : rest.length < n) :
    Agrees (.code before) (c :: rest) (stripComments (c :: rest)) := by
  by_cases hline : c = '-' ∧ rest.head? = some '-'
  · obtain ⟨rfl, hrest⟩ := hline
    have hround : stripComments ('-' :: rest) =
        ' ' :: ((lineComment rest).1 ++ stripComments (lineComment rest).2) := by
      rw [stripComments, scanRound, if_pos ⟨rfl, hrest⟩, lineComment, if_neg (by decide)]
      rfl
    rw [hround]
    exact .cons (if_pos ⟨rfl, hrest⟩) rfl rfl rfl (agrees_line hbelow hlength.le)
  by_cases hblock : c = '/' ∧ rest.head? = some '*'
  · obtain ⟨rfl, hrest⟩ := hblock
    obtain ⟨tail, rfl⟩ := List.head?_eq_some_iff.1 hrest
    have hround : stripComments ('/' :: '*' :: tail) =
        ' ' :: ' ' :: ((blockBody tail).1 ++ ' ' :: ' ' ::
          stripComments ((blockBody tail).2.drop 2)) := by
      rw [stripComments, scanRound, if_neg hline, if_pos ⟨rfl, rfl⟩]
      simp
    rw [hround]
    exact .cons rfl rfl rfl rfl (.cons rfl rfl rfl rfl
      (agrees_block hbelow (Nat.le_of_succ_le hlength.le)))
  by_cases hquote : c = '\''
  · subst hquote
    have hround : stripComments ('\'' :: rest) =
        ' ' :: ((literalBody rest).1 ++ stripComments (literalBody rest).2) := by
      rw [stripComments, scanRound, if_neg hline, if_neg hblock]
      rfl
    rw [hround]
    exact .cons rfl rfl rfl rfl (agrees_string _ hbelow hlength.le).1
  by_cases hname : c = '"'
  · subst hname
    rw [stripComments_of_closed rfl]
    exact .cons rfl rfl rfl rfl (hbelow _ rest trivial hlength)
  cases hopening : opening before (c :: rest) with
  | none =>
    have hstep := step_code_of_other hline hblock hquote hname hopening
    cases hdollar : dollarTag (c :: rest) with
    | none =>
      rw [stripComments_of_closed (opensHere_eq_false_iff.2 ⟨hline, hblock, hquote, hdollar⟩)]
      exact .cons hstep (by simp [departsInSight, hopening, hdollar]) rfl rfl
        (hbelow _ rest trivial hlength)
    | some delimiter =>
      have hopens : opensHere c rest = true := by simp [opensHere, hdollar]
      refine .of_departure ?_ ?_
      · obtain rfl := eq_dollar_of_dollarTag hdollar
        simp [departsInSight, hopening, hdollar]
      · rw [head?_stripComments_of_opens hopens, masked_cons_of_shown hstep]
        intro hhead
        exact ne_space_of_opens hopens (Option.some.inj hhead).symm
  | some tag =>
    have hstep := step_code_of_opening hline hblock hquote hname hopening
    have htag : tagOf beginsWord continuesTag (c :: rest) = some tag :=
      (Option.ite_none_left_eq_some.1 hopening).2
    obtain ⟨⟨back, hback⟩, -, -⟩ := (tagOf_eq_some_iff (by decide)).1 htag
    have hcons : delimiter tag ++ back = '$' :: (tag ++ ['$'] ++ back) := by simp [delimiter]
    obtain ⟨rfl, rfl⟩ := List.cons.inj (hback.trans hcons)
    cases hdollar : dollarTag ('$' :: (tag ++ ['$'] ++ back)) with
    | none =>
      have hopens := opensHere_eq_false_iff.2 ⟨hline, hblock, hquote, hdollar⟩
      refine .of_departure ?_ ?_
      · simp only [departsInSight, hopening, hdollar]
        rfl
      · rw [stripComments_of_closed hopens, masked_cons_of_hidden hstep]
        exact fun hhead => absurd (Option.some.inj hhead) (by decide)
    | some found =>
      have hsame : found = delimiter tag := by
        obtain ⟨inner, hinner, rfl⟩ := Option.map_eq_some_iff.1 hdollar
        rw [Option.some.inj (htag.symm.trans (tagOf_of_ascii hinner))]
      subst hsame
      rw [← hcons] at hdollar
      have hput : stripComments ('$' :: (tag ++ ['$'] ++ back)) =
          cover '$' :: ((tag ++ ['$']).map cover ++ behindTag tag back) := by
        rw [← hcons, stripComments_of_dollarTag hdollar]
        rfl
      rw [hcons] at hdollar
      rw [hput]
      refine .cons hstep ?_ rfl rfl (.skip (by simp) (agrees_dollar hbelow ?_))
      · simp only [departsInSight, hopening, hdollar, Option.map_some, bne_self_eq_false,
          Bool.and_false]
      · simp only [List.length_append] at hlength
        omega

/-! ### The text -/

/-- Outside of everything, whatever is put out is what should be put out exactly if there is no
departure, unless the first one is under cover. -/
theorem agrees_stripComments {mode : Mode} (h : IsOutside mode) (text : Str) :
    Agrees mode text (stripComments text) := by
  induction hlength : text.length using Nat.strong_induction_on generalizing mode text with
  | _ n ih =>
    have hbelow : AgreesBelow n := fun mode text hmode hlt => ih _ hlt hmode text rfl
    cases text with
    | nil =>
      rw [stripComments]
      cases mode with
      | code before => exact agrees_nil rfl
      | name => exact agrees_nil rfl
      | _ => exact h.elim
    | cons c rest =>
      have hrest : rest.length < n := hlength ▸ Nat.lt_succ_self rest.length
      cases mode with
      | code before => exact agrees_code hbelow hrest
      | name => exact agrees_name hbelow hrest
      | _ => exact h.elim

theorem isVeiled_of_isPlain {mode : Mode} (h : isPlain mode text = true) :
    isVeiled mode text = false := by
  induction text generalizing mode with
  | nil => rfl
  | cons c rest ih =>
    simp only [isPlain, Bool.and_eq_true, Bool.not_eq_true'] at h
    obtain ⟨⟨-, hcover⟩, hrest⟩ := h
    rw [isVeiled, hcover, ih hrest, Bool.or_false, Bool.and_false]

end Parts

/-- **Where the scanner covers what it should.** In a text without departures it keeps every
position, and puts spaces for what is inside of comments and literals and for nothing else. And
where it does so, there is no departure, or the first one is a comment inside of a comment or an
escaped quote. -/
theorem covers_of_isPlain_and_conversely (text : Str) :
    (isPlain atStart text = true → Covers text (stripComments text)) ∧
      (Covers text (stripComments text) →
        isPlain atStart text = true ∨ isVeiled atStart text = true) := by
  have houtside : IsOutside atStart := trivial
  have hagrees := agrees_stripComments houtside text
  rw [covers_iff]
  constructor
  · intro hplain
    exact (hagrees (isVeiled_of_isPlain hplain)).2 hplain
  · intro hcovers
    cases hveiled : isVeiled atStart text with
    | true => exact .inr rfl
    | false => exact .inl ((hagrees hveiled).1 hcovers)

/-- A migration in which the scanner covers what it should. -/
theorem covers_a_migration :
    Covers "create table t (a text default 'it''s --'); -- $a$\ndo $a$ /* $a$;".toList
      (stripComments "create table t (a text default 'it''s --'); -- $a$\ndo $a$ /* $a$;".toList) :=
  (covers_of_isPlain_and_conversely _).1 (by decide +kernel)

/-- **A comment that is left open, and one inside of another.** Behind the first the text is one
character too long; of the second the end is taken for a statement. -/
theorem open_and_nested_comments_are_not_covered :
    stripComments "/* x".toList = "     ".toList ∧
      ¬ Covers "/* x".toList (stripComments "/* x".toList) ∧
      stripComments "/* /* */ drop */".toList = "         drop */".toList ∧
      ¬ Covers "/* /* */ drop */".toList (stripComments "/* /* */ drop */".toList) := by
  have hopen : stripComments "/* x".toList = "     ".toList := by decide +kernel
  have hnested : stripComments "/* /* */ drop */".toList = "         drop */".toList := by
    decide +kernel
  refine ⟨hopen, ?_, hnested, ?_⟩
  · rw [covers_iff, hopen]
    decide +kernel
  · rw [covers_iff, hnested]
    decide +kernel

end Pdr.Migrations
