import Pdr.ProductEvents.Snapshot

/-!
# Lines of a snapshot

The renderer writes a snapshot line by line: a type with its version, and below it the fields
with two spaces in front. Here is what the parser makes of such lines. A line with a field is
cut where the field ends; a value that stands for something else is read as that, and a first
field that begins with a dash and a space makes a list of the block.

## Main definitions

* `Pdr.ProductEvents.keyLine`, `Pdr.ProductEvents.fieldLine`: the lines that are written.
* `Pdr.ProductEvents.rereadValue`: what a kind is read as once it is written.
* `Pdr.ProductEvents.Shallow`: lines in which no block begins.

## Main results

* `Pdr.ProductEvents.matchPublishedKey_keyText`: which keys are read as keys.
* `Pdr.ProductEvents.parseTopBlock_fieldLines`: the fields of an entry are read one by one.
-/

namespace Pdr.ProductEvents

open Python

/-! ### Lines that are written -/

/-- The text of a key. -/
def keyText (key : Str × Int) : Str := key.1 ++ '@' :: str key.2

/-- The line of a key. -/
def keyLine (key : Str × Int) : Str := keyText key ++ [':']

/-- The line of a field. -/
def fieldLine (field : Str × Str) : Str := ' ' :: ' ' :: field.1 ++ ':' :: ' ' :: field.2

/-- The lines of an entry. -/
def entryLines (entry : (Str × Int) × Fields) : List Str :=
  [] :: keyLine entry.1 :: (sortedFields entry.2).map fieldLine

theorem renderField_eq (field : Str × Str) : renderField field = fieldLine field ++ ['\n'] := by
  simp [renderField, fieldLine]

theorem renderEntry_eq (entry : (Str × Int) × Fields) :
    renderEntry entry = (entryLines entry).flatMap (· ++ ['\n']) := by
  have hfields : (sortedFields entry.2).flatMap renderField =
      ((sortedFields entry.2).map fieldLine).flatMap (· ++ ['\n']) := by
    rw [List.flatMap_map, funext renderField_eq]
  simp [renderEntry, entryLines, keyLine, keyText, hfields]

/-- Texts are compared as they are. -/
instance lawfulText : LawfulBEq Str := inferInstance

/-- What a kind is read as, written after a field. -/
def rereadValue (kind : Str) : Value :=
  if strip kind ∈ foldedMarks ∨ strip kind = [] then .text [] else inlineValue (strip kind)

/-- The type of an event as the key of a snapshot has it. -/
def isShaped (name : Str) : Bool :=
  match name with
  | first :: _ => 'a' ≤ first && first ≤ 'z' && name.all isKeyChar
  | [] => false

/-! ### Lines that are no deeper -/

/-- The next line with something on it is indented by at most so much. -/
inductive Shallow (indent : Nat) : List Str → Prop where
  | nil : Shallow indent []
  | blank {lines : List Str} (later : Shallow indent lines) : Shallow indent ([] :: lines)
  | line {line : Str} {lines : List Str} (read : isPassedOver line = false)
      (low : indentOf line ≤ indent) : Shallow indent (line :: lines)

theorem isPassedOver_nil : isPassedOver [] = true := rfl

theorem strip_ne_nil_of_read {line : Str} (h : isPassedOver line = false) : strip line ≠ [] := by
  rw [isPassedOver, Bool.or_eq_false_iff, decide_eq_false_iff_not] at h
  exact h.1

namespace Shallow

variable {indent : Nat} {lines : List Str}

theorem mono {indent' : Nat} (h : Shallow indent lines) (hle : indent ≤ indent') :
    Shallow indent' lines := by
  induction h with
  | nil => exact .nil
  | blank later ih => exact .blank ih
  | line read low => exact .line read (Nat.le_trans low hle)

theorem collect_eq (h : Shallow indent lines) : (collect indent lines).1 = [] := by
  induction h with
  | nil => rfl
  | blank later ih => rwa [collect, if_pos isPassedOver_nil]
  | line read low =>
    rw [collect, if_neg (Bool.eq_false_iff.1 read), if_pos low]

theorem foldedParts_eq (h : Shallow indent lines) : foldedParts indent lines = [] := by
  induction h with
  | nil => rfl
  | blank later ih => rwa [foldedParts, if_pos (by rfl)]
  | line read low => rw [foldedParts, if_neg (strip_ne_nil_of_read read), if_pos low]

end Shallow

/-! ### A line with a field -/

section FieldLine

variable {field : Str × Str}

theorem lstrip_of_head {c : Char} {s : Str} (h : isSpace c = false) : lstrip (c :: s) = c :: s :=
  List.dropWhile_cons_of_neg (Bool.eq_false_iff.1 h)

theorem lstrip_spaces (s : Str) : lstrip (' ' :: ' ' :: s) = lstrip s := rfl

theorem lstrip_name {name rest : Str} (h : IsFieldName name) :
    lstrip (name ++ ':' :: rest) = name ++ ':' :: rest := by
  cases name with
  | nil => rfl
  | cons c name => exact lstrip_of_head (h.noSpace c rfl)

theorem lstrip_fieldLine (h : IsFieldName field.1) :
    lstrip (fieldLine field) = field.1 ++ ':' :: ' ' :: field.2 := by
  rw [fieldLine, List.cons_append, List.cons_append, lstrip_spaces, lstrip_name h]

theorem indentOf_fieldLine (h : IsFieldName field.1) : indentOf (fieldLine field) = 2 := by
  rw [indentOf, lstrip_fieldLine h, fieldLine]
  simp only [List.cons_append, List.length_cons]
  omega

theorem strip_name {name rest : Str} (h : IsFieldName name) :
    strip (name ++ ':' :: rest) = name ++ ':' :: rest.rdropWhile isSpace := by
  have hcolon : isSpace ':' = false := by decide
  have hfront : lstrip (name ++ ':' :: rest) = _ := lstrip_name h
  rw [lstrip] at hfront
  rw [strip, stripOf, hfront, rdropWhile_append_cons hcolon]

theorem strip_fieldLine (h : IsFieldName field.1) :
    strip (fieldLine field) = field.1 ++ ':' :: (' ' :: field.2).rdropWhile isSpace := by
  have hspaces : ∀ c ∈ [' ', ' '], isSpace c = true :=
    List.forall_mem_cons.2 ⟨rfl, List.forall_mem_singleton.2 rfl⟩
  have hline : fieldLine field = [' ', ' '] ++ (field.1 ++ ':' :: ' ' :: field.2) := rfl
  rw [hline, strip, stripOf_append_left hspaces]
  exact strip_name h

theorem partition_fieldLine (h : IsFieldName field.1) :
    ∃ rest, partition ':' (strip (fieldLine field)) = (field.1, [':'], rest) ∧
      strip rest = strip field.2 := by
  refine ⟨(' ' :: field.2).rdropWhile isSpace, ?_, ?_⟩
  · rw [strip_fieldLine h, partition_append h.noColon]
  · have hspace : ∀ c ∈ [' '], isSpace c = true := List.forall_mem_singleton.2 rfl
    rw [strip, stripOf_rdropWhile]
    exact stripOf_append_left hspace

/-- A line on which something else than a comment begins. -/
theorem isPassedOver_eq_false {line rest : Str} {c : Char} (h : lstrip line = c :: rest)
    (hc : c ≠ '#') : isPassedOver line = false := by
  have hdrop : line.dropWhile isSpace = c :: rest := h
  have hne : line.dropWhile isSpace ≠ [] := by simp [hdrop]
  have hspace : isSpace c = false := by simpa [hdrop] using List.head_dropWhile_not isSpace hne
  have hstrip : strip line ≠ [] := by
    intro hnil
    rw [strip, stripOf, List.rdropWhile_eq_nil_iff, hdrop] at hnil
    exact absurd (hnil c List.mem_cons_self) (Bool.eq_false_iff.1 hspace)
  rw [isPassedOver, h, Bool.or_eq_false_iff, decide_eq_false_iff_not, decide_eq_false_iff_not]
  exact ⟨hstrip, fun hhash => hc (Option.some.inj hhash)⟩

theorem isPassedOver_fieldLine (h : IsFieldName field.1) :
    isPassedOver (fieldLine field) = false := by
  cases hname : field.1 with
  | nil => exact isPassedOver_eq_false (by rw [lstrip_fieldLine h, hname]; rfl) (by decide)
  | cons c name =>
    refine isPassedOver_eq_false (by rw [lstrip_fieldLine h, hname]; rfl) fun hc => ?_
    exact h.noComment (by rw [hname, hc]; rfl)

theorem startsItem_fieldLine (h : IsFieldName field.1) :
    startsItem (lstrip (fieldLine field)) = startsItem field.1 := by
  rw [lstrip_fieldLine h]
  rcases field.1 with _ | ⟨a, _ | ⟨b, name⟩⟩
  · rfl
  · simp [startsItem, List.isPrefixOf]
  · simp [startsItem, List.isPrefixOf]

end FieldLine

/-! ### A line with a key -/

section KeyLine

variable {key : Str × Int} {decimals : Decimals}

theorem isDigit_or_minus {n : Int} {c : Char} (h : c ∈ str n) : c.isDigit = true ∨ c = '-' := by
  cases n with
  | ofNat n => exact Or.inl (isDigit_of_mem_str h)
  | negSucc n =>
    rcases List.mem_cons.1 h with rfl | h
    · exact Or.inr rfl
    · exact Or.inl (isDigit_of_mem_str (n := n + 1) h)

theorem plain_of_mem_str {n : Int} {c : Char} (h : c ∈ str n) : isSpace c = false ∧ c ≠ ':' := by
  rcases isDigit_or_minus h with hdigit | rfl
  · refine ⟨isSpace_of_isDigit hdigit, ?_⟩
    rintro rfl
    exact absurd hdigit (by decide)
  · decide

theorem onOneLine_str (n : Int) : OnOneLine (str n) := fun _ hc =>
  Bool.eq_false_iff.2 fun hends =>
    absurd (isSpace_of_endsLine hends) (Bool.eq_false_iff.1 (plain_of_mem_str hc).1)

theorem str_int_ne_nil (n : Int) : str n ≠ [] := by
  cases n with
  | ofNat n => exact str_ne_nil n
  | negSucc n => exact List.cons_ne_nil _ _

theorem head?_keyText (h : IsFieldName key.1) :
    ∃ c rest, keyText key = c :: rest ∧ isSpace c = false ∧ c ≠ '#' := by
  rw [keyText]
  cases hname : key.1 with
  | nil => exact ⟨'@', str key.2, rfl, by decide, by decide⟩
  | cons c name =>
    refine ⟨c, name ++ '@' :: str key.2, rfl, h.noSpace c (by rw [hname]; rfl), fun hc => ?_⟩
    exact h.noComment (by rw [hname, hc]; rfl)

theorem strip_keyText (h : IsFieldName key.1) : strip (keyText key) = keyText key := by
  refine strip_eq_self (fun c hc => ?_) fun c hc => ?_
  · obtain ⟨first, rest, hkey, hspace, -⟩ := head?_keyText h
    rw [hkey] at hc
    rwa [← Option.some.inj hc]
  · have hlast : (keyText key).getLast? = (str key.2).getLast? := by
      have hsplit : keyText key = (key.1 ++ ['@']) ++ str key.2 := by simp [keyText]
      rw [hsplit, List.getLast?_append_of_ne_nil _ (str_int_ne_nil key.2)]
    exact (plain_of_mem_str (List.mem_of_getLast? (hlast ▸ hc))).1

theorem partition_keyLine (h : IsFieldName key.1) :
    partition ':' (keyLine key) = (keyText key, [':'], []) := by
  refine partition_append fun hmem => ?_
  rcases List.mem_append.1 hmem with hmem | hmem
  · exact h.noColon hmem
  · rcases List.mem_cons.1 hmem with hmem | hmem
    · exact absurd hmem (by decide)
    · exact (plain_of_mem_str hmem).2 rfl

theorem onOneLine_keyLine (h : IsFieldName key.1) : OnOneLine (keyLine key) := by
  rw [keyLine, keyText, onOneLine_append, onOneLine_append, onOneLine_cons]
  exact ⟨⟨h.oneLine, by decide, onOneLine_str key.2⟩, by decide⟩

theorem isPassedOver_keyLine (h : IsFieldName key.1) : isPassedOver (keyLine key) = false := by
  obtain ⟨c, rest, hkey, hspace, hhash⟩ := head?_keyText h
  have hline : lstrip (keyLine key) = c :: (rest ++ [':']) := by
    rw [keyLine, hkey]
    exact lstrip_of_head hspace
  exact isPassedOver_eq_false hline hhash

theorem takeWhile_digits (n : Nat) :
    (str n).takeWhile (fun c => (decimals.value c).isSome) = str n ∧
      (str n).dropWhile (fun c => (decimals.value c).isSome) = [] := by
  have hall : ∀ c ∈ str n, (decimals.value c).isSome = true := fun c hc => by
    rw [Python.Decimals.value_of_isDigit (isDigit_of_mem_str hc)]
    rfl
  exact ⟨List.takeWhile_eq_self_iff.2 hall, List.dropWhile_eq_nil_iff.2 hall⟩

theorem matchPublishedKey_shaped {name : Str} {version : Int} (h : isShaped name = true) :
    matchPublishedKey decimals (name ++ '@' :: str version) =
      if 0 ≤ version then some (name, str version) else none := by
  cases name with
  | nil => cases h
  | cons first name =>
    simp only [isShaped, Bool.and_eq_true, decide_eq_true_eq, List.all_eq_true] at h
    obtain ⟨⟨hlow, hhigh⟩, hall⟩ := h
    have hat : isKeyChar '@' = false := by decide
    rw [matchPublishedKey, List.takeWhile_append_of_pos hall, List.dropWhile_append_of_pos hall,
      List.takeWhile_cons_of_neg (Bool.eq_false_iff.1 hat), List.append_nil,
      List.dropWhile_cons_of_neg (Bool.eq_false_iff.1 hat)]
    cases version with
    | ofNat n =>
      obtain ⟨hdigits, hending⟩ : _ ∧ (str n).dropWhile (fun c => (decimals.value c).isSome) = _ :=
        takeWhile_digits n
      simp [hlow, hhigh, hdigits, hending, str_ne_nil]
    | negSucc n =>
      have hminus : decimals.value '-' = none := Decimals.value_eq_none (by decide) (by decide)
      simp [str, hminus]

theorem mem_dropWhile_of_neg {c : Char} {s : Str} {kind : Char → Bool} (h : c ∈ s)
    (hc : kind c = false) : c ∈ s.dropWhile kind := by
  rw [← List.takeWhile_append_dropWhile (p := kind) (l := s)] at h
  refine (List.mem_append.1 h).resolve_left fun htake => ?_
  exact absurd (List.mem_takeWhile_imp htake) (Bool.eq_false_iff.1 hc)

/-- A type that is not shaped does not make a key. -/
theorem matchPublishedKey_unshaped {name : Str} {version : Int} (h : isShaped name = false) :
    matchPublishedKey decimals (name ++ '@' :: str version) = none := by
  unfold matchPublishedKey
  split
  · rename_i first taken rest htake hdrop
    have hat : isKeyChar '@' = false := by decide
    refine if_neg fun hkey => ?_
    cases hall : name.all isKeyChar with
    | true =>
      rw [List.takeWhile_append_of_pos (List.all_eq_true.1 hall),
        List.takeWhile_cons_of_neg (Bool.eq_false_iff.1 hat), List.append_nil] at htake
      subst htake
      simp [isShaped, hall, hkey.1, hkey.2.1] at h
    | false =>
      -- the first character that is none of a key is in the name, and the sign is further on
      have hmem : '@' ∈ rest := by
        have hne : name.dropWhile isKeyChar ≠ [] := by
          rw [ne_eq, List.dropWhile_eq_nil_iff, ← List.all_eq_true, hall]
          exact Bool.false_ne_true
        rw [List.dropWhile_append, if_neg (by rwa [List.isEmpty_iff])] at hdrop
        cases hname : name.dropWhile isKeyChar with
        | nil => exact absurd hname hne
        | cons c later =>
          rw [hname, List.cons_append] at hdrop
          rw [← (List.cons.inj hdrop).2]
          simp
      have hnone : decimals.value '@' = none := Decimals.value_eq_none (by decide) (by decide)
      have hending : '@' ∈ rest.dropWhile fun c => (decimals.value c).isSome :=
        mem_dropWhile_of_neg hmem (by simp [hnone])
      rcases hkey.2.2.2 with hnil | hnewline
      · rw [hnil] at hending
        cases hending
      · rw [hnewline] at hending
        exact absurd hending (by decide)
  · rfl

/-- The key of an entry looks like the key of a snapshot only if the type is shaped and the
version is none below zero. -/
theorem matchPublishedKey_keyText :
    matchPublishedKey decimals (keyText key) =
      if isShaped key.1 ∧ 0 ≤ key.2 then some (key.1, str key.2) else none := by
  cases h : isShaped key.1 with
  | false => simp [keyText, matchPublishedKey_unshaped h]
  | true => simp [keyText, matchPublishedKey_shaped h]

end KeyLine

/-! ### The block of an entry -/

section Block

variable {fields : List (Str × Str)} {rest : List Str}

/-- The lines of fields, each with what follows it. -/
def fieldPlaces (rest : List Str) : List (Str × Str) → List Place
  | [] => []
  | field :: fields => (fieldLine field, fields.map fieldLine ++ rest) :: fieldPlaces rest fields

theorem collect_fieldLines (hnames : ∀ field ∈ fields, IsFieldName field.1)
    (hrest : Shallow 0 rest) :
    collect 0 (fields.map fieldLine ++ rest) = (fieldPlaces rest fields, (collect 0 rest).2) := by
  induction fields with
  | nil => exact Prod.ext hrest.collect_eq rfl
  | cons field fields ih =>
    obtain ⟨hname, hnames⟩ := List.forall_mem_cons.1 hnames
    have hindent := indentOf_fieldLine hname
    rw [List.map_cons, List.cons_append, collect, isPassedOver_fieldLine hname, ih hnames, hindent]
    rfl

theorem minIndent_fieldPlaces (hnames : ∀ field ∈ fields, IsFieldName field.1)
    (hne : fields ≠ []) : minIndent (fieldPlaces rest fields) = 2 := by
  induction fields with
  | nil => exact absurd rfl hne
  | cons field fields ih =>
    obtain ⟨hname, hnames⟩ := List.forall_mem_cons.1 hnames
    cases fields with
    | nil => exact indentOf_fieldLine hname
    | cons next fields =>
      have hlater := ih hnames (List.cons_ne_nil next fields)
      rw [fieldPlaces] at hlater
      rw [fieldPlaces, fieldPlaces, minIndent, indentOf_fieldLine hname, hlater]
      · rfl
      · exact List.cons_ne_nil _ _

theorem shallow_fieldLines (hnames : ∀ field ∈ fields, IsFieldName field.1)
    (hrest : Shallow 0 rest) :
    Shallow 2 (fields.map fieldLine ++ rest) := by
  cases fields with
  | nil => exact hrest.mono (by omega)
  | cons field fields =>
    have hname := hnames field List.mem_cons_self
    exact .line (isPassedOver_fieldLine hname) (indentOf_fieldLine hname).le

theorem skip_fieldPlaces (hnames : ∀ field ∈ fields, IsFieldName field.1) :
    skip 2 (fieldPlaces rest fields) = fieldPlaces rest fields := by
  cases fields with
  | nil => rfl
  | cons field fields =>
    have hindent := indentOf_fieldLine (hnames field List.mem_cons_self)
    exact List.dropWhile_cons_of_neg (by simp [hindent])

theorem folded_of_shallow {indent : Nat} {lines : List Str} (h : Shallow indent lines) :
    folded indent lines = [] := by
  rw [folded, h.foldedParts_eq, join]

/-- The loop reads one field after another. -/
theorem parseMapping_fieldPlaces {total : Nat}
    {nested : List Str → Nat → Except Failure (Value × List Str)} {mapping : Dict Str Value}
    (hnested : ∀ {lines}, Shallow 2 lines → ∃ after, nested lines 2 = .ok (.text [], after))
    (hnames : ∀ field ∈ fields, IsFieldName field.1) (hrest : Shallow 0 rest)
    (hnodup : (mapping.keys ++ Dict.keys fields).Nodup) :
    parseMapping total nested 2 (fieldPlaces rest fields) mapping =
      .ok (mapping ++ fields.map fun field => (field.1, rereadValue field.2)) := by
  induction fields generalizing mapping with
  | nil => rw [fieldPlaces, parseMapping, List.map_nil, List.append_nil]
  | cons field fields ih =>
    obtain ⟨hname, hnames⟩ := List.forall_mem_cons.1 hnames
    obtain ⟨kind, hcut, hkind⟩ := partition_fieldLine hname
    have hshallow := shallow_fieldLines hnames hrest
    have hkeys : mapping.keys ++ Dict.keys (field :: fields) =
        (mapping.keys ++ [field.1]) ++ Dict.keys fields := by simp [Dict.keys]
    have hnew : field.1 ∉ mapping.keys := by
      intro hmem
      rw [hkeys, List.nodup_append, List.nodup_append] at hnodup
      exact hnodup.1.2.2 _ hmem _ (List.mem_singleton_self _) rfl
    have hlater : ∀ value, value = rereadValue field.2 →
        parseMapping total nested 2 (fieldPlaces rest fields) (mapping.set field.1 value) =
          .ok (mapping ++ (field :: fields).map fun field => (field.1, rereadValue field.2)) := by
      rintro value rfl
      have hset : Dict.keys (mapping ++ [(field.1, rereadValue field.2)]) =
          mapping.keys ++ [field.1] := by simp [Dict.keys]
      rw [Dict.set_of_not_mem hnew, ih hnames]
      · simp
      · rw [hset, ← hkeys]
        exact hnodup
    rw [fieldPlaces, parseMapping, if_neg (fun hne => hne (indentOf_fieldLine hname)), hcut]
    simp only [List.cons_ne_nil, if_false, if_neg hnew, hkind]
    split
    · rename_i hmark
      rw [skip_fieldPlaces hnames, folded_of_shallow hshallow]
      exact hlater _ (by rw [rereadValue, if_pos (Or.inl hmark)])
    · rename_i hmark
      split
      · rename_i hempty
        obtain ⟨after, hafter⟩ := hnested hshallow
        rw [hafter, skip_fieldPlaces hnames]
        exact hlater _ (by rw [rereadValue, if_pos (Or.inr hempty)])
      · rename_i hempty
        exact hlater _ (by rw [rereadValue, if_neg (not_or.2 ⟨hmark, hempty⟩)])

variable {interpreter : Interpreter} {total : Nat}

/-- A block that begins with an item of a list is no dictionary. -/
theorem parseTopBlock_of_item (hnames : ∀ field ∈ fields, IsFieldName field.1)
    (hrest : Shallow 0 rest) {first : Str × Str} (hfirst : fields.head? = some first)
    (hitem : startsItem first.1 = true) {block : Dict Str Value} {after : List Str} :
    parseTopBlock interpreter total (fields.map fieldLine ++ rest) ≠ .ok (.dict block, after) := by
  cases fields with
  | nil => cases hfirst
  | cons field fields =>
    obtain rfl := Option.some.inj hfirst
    have hstart := startsItem_fieldLine (hnames field List.mem_cons_self)
    rw [hitem] at hstart
    intro h
    rw [parseTopBlock, parseBlock, collect_fieldLines hnames hrest] at h
    simp only [fieldPlaces, hstart, if_true] at h
    cases hitems : parseItems total
        ((fieldLine field, fields.map fieldLine ++ rest) :: fieldPlaces rest fields) with
    | error failure => rw [hitems] at h; cases h
    | ok items => rw [hitems] at h; cases h

/-- The block of an entry is read as its fields, whose kinds are reread. -/
theorem parseTopBlock_fieldLines (hnames : ∀ field ∈ fields, IsFieldName field.1)
    (hnodup : (Dict.keys fields).Nodup) (hrest : Shallow 0 rest) {first : Str × Str}
    (hfirst : fields.head? = some first) (hitem : startsItem first.1 = false) :
    parseTopBlock interpreter total (fields.map fieldLine ++ rest) =
      .ok (.dict (fields.map fun field => (field.1, rereadValue field.2)), (collect 0 rest).2) := by
  have hmapping : parseMapping total (parseBlock total (interpreter.spareFrames + 1)) 2
      (fieldPlaces rest fields) [] =
        .ok (fields.map fun field => (field.1, rereadValue field.2)) :=
    parseMapping_fieldPlaces (fun h => ⟨_, parseBlock_of_shallow h.collect_eq⟩) hnames hrest hnodup
  cases fields with
  | nil => cases hfirst
  | cons field fields =>
    obtain rfl := Option.some.inj hfirst
    have hstart := startsItem_fieldLine (hnames field List.mem_cons_self)
    rw [hitem] at hstart
    have hindent : minIndent (fieldPlaces rest (field :: fields)) = 2 :=
      minIndent_fieldPlaces hnames (List.cons_ne_nil field fields)
    rw [parseTopBlock, parseBlock, collect_fieldLines hnames hrest]
    rw [fieldPlaces] at hindent hmapping
    simp only [fieldPlaces, hstart, hindent, hmapping]
    rfl

end Block

end Pdr.ProductEvents
