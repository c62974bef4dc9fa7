import Pdr.Python.Dict
import Pdr.Python.Repr

/-!
# Blocks of indented lines

The registry of product events and the snapshot of what was published are read by one parser of
a small part of YAML: mappings, lists with dashes or in brackets, scalars and folded text. A
block is what is indented deeper than the line it belongs to. The parser goes from a line to
the lines that follow it, so a place in a text is a line together with what follows.

## Main definitions

* `Pdr.ProductEvents.collect`: the lines of a block, and the lines after it.
* `Pdr.ProductEvents.parseMapping`, `Pdr.ProductEvents.parseBlock`: the value of a block.

## Main results

* `Pdr.ProductEvents.suffix_of_parseBlock`: after a block the parser is not further back.
* `Pdr.ProductEvents.parseBlock_of_shallow`: a block with nothing in it.
-/

namespace Pdr.ProductEvents

open Python

/-- How reading ends early: the text is refused, or an exception that nobody catches. -/
inductive Failure where
  | events (text : Str)
  | uncaught
deriving DecidableEq

/-- A line with the lines that follow it. -/
abbrev Place := Str × List Str

/-- A blank line or a comment. -/
def isPassedOver (line : Str) : Bool := strip line = [] || (lstrip line).head? = some '#'

/-- The lines of the block with more than this indentation, and what follows the block. -/
def collect (indent : Nat) : List Str → List Place × List Str
  | [] => ([], [])
  | line :: after =>
    if isPassedOver line then collect indent after
    else if indentOf line ≤ indent then ([], line :: after)
    else
      let (body, rest) := collect indent after
      ((line, after) :: body, rest)

/-- `min` over the indentations of the lines. -/
def minIndent : List Place → Nat
  | [] => 0
  | [place] => indentOf place.1
  | place :: body => min (indentOf place.1) (minIndent body)

/-- The number of a line in a text of so many lines. -/
def lineNumber (total : Nat) (after : List Str) : Str := str ((total - after.length : Nat) : Int)

/-- `s.strip("'\"")`. -/
def stripQuotes (s : Str) : Str := stripOf (fun c => c = '\'' || c = '"') s

/-- What begins the item of a list. -/
def startsItem (s : Str) : Bool := ['-', ' '].isPrefixOf s

/-- The items of a list with dashes. -/
def parseItems (total : Nat) : List Place → Except Failure (List Str)
  | [] => .ok []
  | (text, after) :: body =>
    let stripped := strip text
    if startsItem stripped then do
      let items ← parseItems total body
      return stripQuotes (strip (stripped.drop 2)) :: items
    else
      .error (.events ("строка ".toList ++ lineNumber total after ++
        ": список продолжен не элементом: «".toList ++ stripped.take 40 ++ "»".toList))

/-- The folded text that follows, line by line. -/
def foldedParts (indent : Nat) : List Str → List Str
  | [] => []
  | line :: after =>
    if strip line = [] then foldedParts indent after
    else if indentOf line ≤ indent then []
    else strip line :: foldedParts indent after

/-- `_folded`. -/
def folded (indent : Nat) (lines : List Str) : Str := join [' '] (foldedParts indent lines)

/-- `_skip`: what is left after the deeper lines. -/
def skip (own : Nat) (body : List Place) : List Place :=
  body.dropWhile fun place => own < indentOf place.1

/-- The marks of folded text. -/
def foldedMarks : List Str := [['>', '-'], ['>'], ['|'], ['|', '-']]

/-- A value that stands on the line of its key. -/
def inlineValue (rest : Str) : Value :=
  if ['['].isPrefixOf rest && [']'].isSuffixOf rest then
    .list ((rest.tail.dropLast.splitOn ',').filterMap fun part =>
      if strip part = [] then none else some (stripQuotes (strip part)))
  else .text (stripQuotes rest)

/-- The loop over the lines of a mapping; `nested` is the parser of deeper blocks. -/
def parseMapping (total : Nat) (nested : List Str → Nat → Except Failure (Value × List Str))
    (own : Nat) (body : List Place) (mapping : Dict Str Value) :
    Except Failure (Dict Str Value) :=
  match body with
  | [] => .ok mapping
  | (text, after) :: body =>
    if indentOf text ≠ own then
      .error (.events ("строка ".toList ++ lineNumber total after ++
        ": отступ съехал на «".toList ++ (strip text).take 40 ++ "»".toList))
    else
      let (key, separator, rest) := partition ':' (strip text)
      if separator = [] then
        .error (.events ("строка ".toList ++ lineNumber total after ++
          ": разбор не понял строку «".toList ++ (strip text).take 40 ++ "»".toList))
      else if key ∈ mapping.keys then
        .error (.events ("строка ".toList ++ lineNumber total after ++ ": «".toList ++ key ++
          "» встречается второй раз".toList))
      else
        let rest := strip rest
        if rest ∈ foldedMarks then
          parseMapping total nested own (skip own body) (mapping.set key (.text (folded own after)))
        else if rest = [] then do
          let (value, _) ← nested after own
          parseMapping total nested own (skip own body) (mapping.set key value)
        else
          parseMapping total nested own body (mapping.set key (inlineValue rest))
termination_by body.length
decreasing_by
  all_goals
    have hskip := List.length_dropWhile_le (fun place => decide (own < indentOf place.1)) body
  all_goals simp only [skip, List.length_cons]
  all_goals omega

/-- The value of a block and what follows it. So many calls may be open at a time before the
interpreter refuses. -/
def parseBlock (total : Nat) : Nat → List Str → Nat → Except Failure (Value × List Str)
  | 0, _, _ => .error .uncaught
  | frames + 1, lines, indent =>
    let (body, rest) := collect indent lines
    match body with
    | [] => .ok (.text [], rest)
    | first :: _ =>
      if startsItem (lstrip first.1) then do
        let items ← parseItems total body
        return (.list items, rest)
      else do
        let mapping ← parseMapping total (parseBlock total frames) (minIndent body) body []
        return (.dict mapping, rest)

/-! ### What a block consists of -/

/-- What can stand before the colon of a line that is indented. -/
structure IsFieldName (name : Str) : Prop where
  noColon : ':' ∉ name
  oneLine : OnOneLine name
  noSpace : ∀ c, name.head? = some c → isSpace c = false
  noComment : name.head? ≠ some '#'

/-- What the parser can make of lines: the keys of a dictionary can stand before a colon, each
of them once, and a string is on one line. -/
inductive IsRead : Value → Prop where
  | text {s : Str} (oneLine : OnOneLine s) : IsRead (.text s)
  | list (items : List Str) : IsRead (.list items)
  | dict {items : Dict Str Value} (nonempty : items ≠ []) (nodup : items.keys.Nodup)
      (names : ∀ item ∈ items, IsFieldName item.1) (values : ∀ item ∈ items, IsRead item.2) :
      IsRead (.dict items)

theorem collect_sublist (indent : Nat) (lines : List Str) :
    (∀ place ∈ (collect indent lines).1, place.1 ∈ lines ∧ place.2 ⊆ lines ∧
      isPassedOver place.1 = false) ∧ (collect indent lines).2 <:+ lines := by
  induction lines with
  | nil => exact ⟨fun place h => absurd h List.not_mem_nil, List.suffix_rfl⟩
  | cons line after ih =>
    have hlater : ∀ place ∈ (collect indent after).1, place.1 ∈ line :: after ∧
        place.2 ⊆ line :: after ∧ isPassedOver place.1 = false := fun place hplace =>
      ⟨List.mem_cons_of_mem _ (ih.1 place hplace).1,
        List.subset_cons_of_subset _ (ih.1 place hplace).2.1, (ih.1 place hplace).2.2⟩
    rw [collect]
    split
    · exact ⟨hlater, ih.2.trans (List.suffix_cons line after)⟩
    · rename_i hline
      split
      · exact ⟨fun place h => absurd h List.not_mem_nil, List.suffix_rfl⟩
      · refine ⟨fun place hplace => ?_, ih.2.trans (List.suffix_cons line after)⟩
        rcases List.mem_cons.1 hplace with rfl | hplace
        · exact ⟨List.mem_cons_self, List.subset_cons_self _ _, Bool.eq_false_iff.2 hline⟩
        · exact hlater place hplace

theorem parseBlock_snd {total frames indent : Nat} {lines rest : List Str} {value : Value}
    (h : parseBlock total frames lines indent = .ok (value, rest)) :
    rest = (collect indent lines).2 := by
  cases frames with
  | zero => cases h
  | succ frames =>
    unfold parseBlock at h
    simp only at h
    split at h
    · exact (Prod.mk.inj (Except.ok.inj h)).2.symm
    · split at h
      · cases hitems : parseItems total (collect indent lines).1 with
        | error failure => rw [hitems] at h; cases h
        | ok items =>
          rw [hitems] at h
          exact (Prod.mk.inj (Except.ok.inj h)).2.symm
      · cases hmapping : parseMapping total (parseBlock total frames)
            (minIndent (collect indent lines).1) (collect indent lines).1 [] with
        | error failure => rw [hmapping] at h; cases h
        | ok mapping =>
          rw [hmapping] at h
          exact (Prod.mk.inj (Except.ok.inj h)).2.symm

/-- After a block the parser is not further back. -/
theorem suffix_of_parseBlock {total frames indent : Nat} {lines rest : List Str} {value : Value}
    (h : parseBlock total frames lines indent = .ok (value, rest)) : rest <:+ lines := by
  rw [parseBlock_snd h]
  exact (collect_sublist indent lines).2

/-- A block with nothing in it. -/
theorem parseBlock_of_shallow {total frames indent : Nat} {lines : List Str}
    (h : (collect indent lines).1 = []) :
    parseBlock total (frames + 1) lines indent = .ok (.text [], (collect indent lines).2) := by
  unfold parseBlock
  simp only [h]

/-! ### What the loop over a mapping reads -/

section Mapping

variable {total own : Nat} {nested : List Str → Nat → Except Failure (Value × List Str)}

/-- One line of a mapping: its key is new, its value is folded text, a deeper block or what
stands on the line, and the loop goes on with what follows. -/
theorem parseMapping_cons_eq_ok {place : Place} {body : List Place}
    {mapping result : Dict Str Value}
    (h : parseMapping total nested own (place :: body) mapping = .ok result) :
    ∃ key rest value body', partition ':' (strip place.1) = (key, [':'], rest) ∧
      key ∉ mapping.keys ∧
      (value = .text (folded own place.2) ∨ (∃ after, nested place.2 own = .ok (value, after)) ∨
        value = inlineValue (strip rest)) ∧
      body' <:+ body ∧
      parseMapping total nested own body' (mapping.set key value) = .ok result := by
  obtain ⟨text, after⟩ := place
  rw [parseMapping] at h
  split at h
  · cases h
  · rcases partition_cases ':' (strip text) with ⟨-, hcut⟩ | ⟨key, rest, -, -, hcut⟩
    · simp only [hcut, if_true] at h
      cases h
    · simp only [hcut, List.cons_ne_nil, if_false] at h
      split at h
      · cases h
      · rename_i hkey
        split at h
        · exact ⟨key, rest, _, _, hcut, hkey, Or.inl rfl, List.dropWhile_suffix _, h⟩
        · split at h
          · cases hnested : nested after own with
            | error failure => rw [hnested] at h; cases h
            | ok read =>
              rw [hnested] at h
              exact ⟨key, rest, read.1, _, hcut, hkey, Or.inr (Or.inl ⟨read.2, rfl⟩),
                List.dropWhile_suffix _, h⟩
          · exact ⟨key, rest, _, _, hcut, hkey, Or.inr (Or.inr rfl), List.suffix_rfl, h⟩

theorem onOneLine_strip {s : Str} (h : OnOneLine s) : OnOneLine (strip s) :=
  h.of_subset fun _ hc => mem_of_mem_stripOf hc

/-- What stands before the first colon of a line that is not passed over. -/
theorem isFieldName_of_partition {text key rest : Str} (hline : OnOneLine text)
    (hread : isPassedOver text = false) (h : partition ':' (strip text) = (key, [':'], rest)) :
    IsFieldName key ∧ OnOneLine rest := by
  have hstrip := onOneLine_strip hline
  obtain ⟨hsplit, hcolon⟩ : strip text = key ++ ':' :: rest ∧ ':' ∉ key := by
    rcases partition_cases ':' (strip text) with ⟨-, hcut⟩ | ⟨front, back, hsplit, hfront, hcut⟩
    · rw [hcut] at h
      cases h
    · rw [hcut] at h
      cases h
      exact ⟨hsplit, hfront⟩
  have hhead : ∀ c, key.head? = some c → (strip text).head? = some c := by
    intro c hc
    rw [hsplit, List.head?_append, hc]
    rfl
  rw [hsplit, onOneLine_append, onOneLine_cons] at hstrip
  refine ⟨⟨hcolon, hstrip.1, fun c hc => head?_stripOf (hhead c hc), fun hc => ?_⟩, hstrip.2.2⟩
  have hcomment := head?_dropWhile_of_stripOf (hhead '#' hc)
  rw [isPassedOver, Bool.or_eq_false_iff, decide_eq_false_iff_not, decide_eq_false_iff_not] at hread
  exact hread.2 hcomment

theorem isRead_inlineValue {rest : Str} (h : OnOneLine rest) : IsRead (inlineValue rest) := by
  unfold inlineValue
  split
  · exact .list _
  · exact .text (h.of_subset fun _ hc => mem_of_mem_stripOf hc)

theorem onOneLine_folded {lines : List Str} (h : ∀ line ∈ lines, OnOneLine line) (indent : Nat) :
    OnOneLine (folded indent lines) := by
  refine onOneLine_join (by decide) ?_
  induction lines with
  | nil => exact fun part hpart => absurd hpart List.not_mem_nil
  | cons line after ih =>
    have hafter := ih fun other hother => h other (List.mem_cons_of_mem line hother)
    rw [foldedParts]
    split
    · exact hafter
    · split
      · exact fun part hpart => absurd hpart List.not_mem_nil
      · intro part hpart
        rcases List.mem_cons.1 hpart with rfl | hpart
        · exact onOneLine_strip (h line List.mem_cons_self)
        · exact hafter part hpart

/-- What the loop has read: if it begins with what can be read, it ends with that. -/
theorem isRead_parseMapping (hnested : ∀ {lines indent value after},
      (∀ line ∈ lines, OnOneLine line) → nested lines indent = .ok (value, after) → IsRead value)
    {body : List Place} {mapping result : Dict Str Value}
    (hbody : ∀ place ∈ body, OnOneLine place.1 ∧ (∀ line ∈ place.2, OnOneLine line) ∧
      isPassedOver place.1 = false)
    (hnodup : mapping.keys.Nodup) (hnames : ∀ item ∈ mapping, IsFieldName item.1)
    (hvalues : ∀ item ∈ mapping, IsRead item.2) (hsome : mapping ≠ [] ∨ body ≠ [])
    (h : parseMapping total nested own body mapping = .ok result) : IsRead (.dict result) := by
  induction hlength : body.length using Nat.strong_induction_on generalizing body mapping with
  | _ length ih =>
  cases body with
  | nil =>
    rw [parseMapping] at h
    obtain rfl := Except.ok.inj h
    exact .dict (hsome.resolve_right fun hne => hne rfl) hnodup hnames hvalues
  | cons place body =>
    obtain ⟨key, rest, value, body', hcut, hkey, hvalue, hsuffix, hlater⟩ :=
      parseMapping_cons_eq_ok h
    obtain ⟨hline, hafter, hread⟩ := hbody place List.mem_cons_self
    obtain ⟨hname, hrest⟩ := isFieldName_of_partition hline hread hcut
    have hnew : IsRead value := by
      rcases hvalue with rfl | ⟨after, hvalue⟩ | rfl
      · exact .text (onOneLine_folded hafter own)
      · exact hnested hafter hvalue
      · exact isRead_inlineValue (onOneLine_strip hrest)
    have hshorter : body'.length < length := by
      have hle := hsuffix.length_le
      rw [← hlength, List.length_cons]
      omega
    refine ih body'.length hshorter (fun other hother => hbody other ?_)
      (Dict.nodup_keys_set hnodup key value) (fun item hitem => ?_) (fun item hitem => ?_)
      (Or.inl (Dict.set_ne_nil mapping key value)) hlater rfl
    · exact List.mem_cons_of_mem place (hsuffix.subset hother)
    · rcases Dict.mem_set hitem with rfl | hitem
      · exact hname
      · exact hnames item hitem
    · rcases Dict.mem_set hitem with rfl | hitem
      · exact hnew
      · exact hvalues item hitem

end Mapping

/-- What a block of lines is read as can be read. -/
theorem isRead_parseBlock {total frames indent : Nat} {lines rest : List Str} {value : Value}
    (hlines : ∀ line ∈ lines, OnOneLine line)
    (h : parseBlock total frames lines indent = .ok (value, rest)) : IsRead value := by
  induction frames generalizing lines indent value rest with
  | zero => cases h
  | succ frames ih =>
    obtain ⟨hbody, -⟩ := collect_sublist indent lines
    unfold parseBlock at h
    simp only at h
    split at h
    · obtain rfl := (Prod.mk.inj (Except.ok.inj h)).1
      exact .text onOneLine_nil
    · rename_i first others hcollect
      split at h
      · cases hitems : parseItems total (collect indent lines).1 with
        | error failure => rw [hitems] at h; cases h
        | ok items =>
          rw [hitems] at h
          obtain rfl := (Prod.mk.inj (Except.ok.inj h)).1
          exact .list items
      · cases hmapping : parseMapping total (parseBlock total frames)
            (minIndent (collect indent lines).1) (collect indent lines).1 [] with
        | error failure => rw [hmapping] at h; cases h
        | ok mapping =>
          rw [hmapping] at h
          obtain rfl := (Prod.mk.inj (Except.ok.inj h)).1
          refine isRead_parseMapping (fun hall hread => ih hall hread) (fun place hplace => ?_)
            (show (Dict.keys ([] : Dict Str Value)).Nodup from List.nodup_nil) (by simp) (by simp)
            (Or.inr (by simp [hcollect])) hmapping
          obtain ⟨hmem, hafter, hread⟩ := hbody place hplace
          exact ⟨hlines _ hmem, fun line hline => hlines line (hafter hline), hread⟩

end Pdr.ProductEvents
