import Mathlib.Data.Char
import Mathlib.Data.List.DropRight

/-!
# Strings of Python

A string is a list of characters, and the methods of `str` are functions of lists. What is
here is what scripts that read text line by line use: cutting a text into lines, cutting a
line at a separator, and taking away what stands around it.

## Main definitions

* `Python.isSpace`, `Python.endsLine`: the characters of `str.isspace` and of `str.splitlines`.
* `Python.strip`, `Python.partition`, `Python.splitlines`: the methods of these names.
* `Python.lower`: `str.lower`, as far as letters of ASCII come out of it.

## Main results

* `Python.splitlines_append`: a text that begins with a line.
* `Python.partition_append`: a line that has a separator in it.
* `Python.strip_eq_self`: what stands between spaces and what does not.
-/

namespace Python

/-- A string as its characters. -/
abbrev Str := List Char

/-! ### Classes of characters -/

/-- The characters that are white space. -/
def isSpace (c : Char) : Bool :=
  (9 ≤ c.toNat && c.toNat ≤ 13) || (28 ≤ c.toNat && c.toNat ≤ 32) ||
    (0x2000 ≤ c.toNat && c.toNat ≤ 0x200a) ||
    [0x85, 0xa0, 0x1680, 0x2028, 0x2029, 0x202f, 0x205f, 0x3000].contains c.toNat

/-- The characters that end a line. -/
def endsLine (c : Char) : Bool :=
  (10 ≤ c.toNat && c.toNat ≤ 13) || (28 ≤ c.toNat && c.toNat ≤ 30) ||
    [0x85, 0x2028, 0x2029].contains c.toNat

theorem isSpace_of_endsLine {c : Char} (h : endsLine c = true) : isSpace c = true := by
  simp only [endsLine, isSpace, List.contains_cons, List.contains_nil, Bool.or_eq_true,
    Bool.and_eq_true, decide_eq_true_eq, beq_iff_eq, Bool.or_false] at h ⊢
  omega

/-! ### Taking away what stands around -/

/-- `s.strip(…)`: what is left between the characters of a kind. -/
def stripOf (kind : Char → Bool) (s : Str) : Str := (s.dropWhile kind).rdropWhile kind

/-- `s.lstrip()`. -/
def lstrip (s : Str) : Str := s.dropWhile isSpace

/-- `s.strip()`. -/
def strip (s : Str) : Str := stripOf isSpace s

/-- `len(s) - len(s.lstrip())`. -/
def indentOf (s : Str) : Nat := s.length - (lstrip s).length

section Strip

variable {kind : Char → Bool} {s front back : Str}

@[simp] theorem stripOf_nil : stripOf kind [] = [] := rfl

theorem stripOf_append_left (hfront : ∀ c ∈ front, kind c = true) :
    stripOf kind (front ++ s) = stripOf kind s := by
  rw [stripOf, List.dropWhile_append_of_pos hfront, stripOf]

theorem rdropWhile_append_of_pos (hback : ∀ c ∈ back, kind c = true) :
    (s ++ back).rdropWhile kind = s.rdropWhile kind := by
  rw [List.rdropWhile, List.reverse_append, List.dropWhile_append_of_pos, List.rdropWhile]
  intro c hc
  exact hback c (List.mem_reverse.1 hc)

theorem stripOf_append_right (hback : ∀ c ∈ back, kind c = true) :
    stripOf kind (s ++ back) = stripOf kind s := by
  rw [stripOf, List.dropWhile_append, stripOf]
  split
  · rename_i hempty
    rw [List.isEmpty_iff.1 hempty, List.dropWhile_eq_nil_iff.2 hback]
  · exact rdropWhile_append_of_pos hback

theorem stripOf_rdropWhile : stripOf kind (s.rdropWhile kind) = stripOf kind s := by
  have hsplit : s.rdropWhile kind ++ s.rtakeWhile kind = s := List.rdropWhile_append_rtakeWhile
  have hright : stripOf kind (s.rdropWhile kind ++ s.rtakeWhile kind) =
      stripOf kind (s.rdropWhile kind) :=
    stripOf_append_right fun c hc => List.mem_rtakeWhile_imp hc
  rw [← hright, hsplit]

/-- Nothing is taken away from in front of a character of another kind. -/
theorem rdropWhile_append_cons {c : Char} (hc : kind c = false) :
    (front ++ c :: back).rdropWhile kind = front ++ c :: back.rdropWhile kind := by
  have hstop : (c :: front.reverse).dropWhile kind = c :: front.reverse :=
    List.dropWhile_cons_of_neg (Bool.eq_false_iff.1 hc)
  have hreverse : (front ++ c :: back).reverse = back.reverse ++ c :: front.reverse := by simp
  rw [List.rdropWhile, hreverse, List.dropWhile_append, hstop, List.rdropWhile]
  split
  · rename_i hempty
    simp [List.isEmpty_iff.1 hempty]
  · simp

/-- What neither begins nor ends with a character of the kind is left as it is. -/
theorem stripOf_eq_self (hfirst : ∀ c, s.head? = some c → kind c = false)
    (hlast : ∀ c, s.getLast? = some c → kind c = false) : stripOf kind s = s := by
  have hfront : s.dropWhile kind = s := by
    cases s with
    | nil => rfl
    | cons c s => exact List.dropWhile_cons_of_neg (Bool.eq_false_iff.1 (hfirst c rfl))
  rw [stripOf, hfront]
  rcases s.eq_nil_or_concat with rfl | ⟨front, c, rfl⟩
  · rfl
  · have hc := hlast c (by simp)
    rw [List.concat_eq_append, List.rdropWhile_concat_neg _ _ _ (Bool.eq_false_iff.1 hc)]

/-- What is left does not begin with a character of the kind. -/
theorem head?_stripOf {c : Char} (h : (stripOf kind s).head? = some c) : kind c = false := by
  obtain ⟨rest, hrest⟩ : ∃ rest, stripOf kind s = c :: rest := by
    cases hs : stripOf kind s with
    | nil => rw [hs] at h; cases h
    | cons first rest =>
      rw [hs] at h
      exact ⟨rest, by rw [← Option.some.inj h]⟩
  obtain ⟨back, hback⟩ := List.rdropWhile_prefix kind (s.dropWhile kind)
  have hdrop : s.dropWhile kind = c :: (rest ++ back) := by
    rw [← hback]
    exact congrArg (· ++ back) hrest
  have hne : s.dropWhile kind ≠ [] := by simp [hdrop]
  have hhead := List.head_dropWhile_not kind hne
  simpa [hdrop] using hhead

theorem head?_dropWhile_of_stripOf {c : Char} (h : (stripOf kind s).head? = some c) :
    (s.dropWhile kind).head? = some c := by
  obtain ⟨back, hback⟩ := List.rdropWhile_prefix kind (s.dropWhile kind)
  rw [← hback, List.head?_append]
  rw [stripOf] at h
  rw [h]
  rfl

theorem mem_of_mem_stripOf {c : Char} (h : c ∈ stripOf kind s) : c ∈ s :=
  (List.dropWhile_sublist kind).subset ((List.rdropWhile_prefix kind _).subset h)

end Strip

theorem strip_eq_self {s : Str} (hfirst : ∀ c, s.head? = some c → isSpace c = false)
    (hlast : ∀ c, s.getLast? = some c → isSpace c = false) : strip s = s :=
  stripOf_eq_self hfirst hlast

/-! ### Cutting at a separator -/

/-- `s.partition(sep)`: what stands before the first separator, the separator, and the rest. -/
def partition (sep : Char) (s : Str) : Str × Str × Str :=
  match s.dropWhile (· != sep) with
  | [] => (s, [], [])
  | found :: rest => (s.takeWhile (· != sep), [found], rest)

theorem partition_append {sep : Char} {front back : Str} (h : sep ∉ front) :
    partition sep (front ++ sep :: back) = (front, [sep], back) := by
  have hfront : ∀ c ∈ front, (c != sep) = true := fun c hc =>
    bne_iff_ne.2 fun hsame => h (hsame ▸ hc)
  rw [partition, List.dropWhile_append_of_pos hfront, List.takeWhile_append_of_pos hfront]
  simp

theorem partition_of_not_mem {sep : Char} {s : Str} (h : sep ∉ s) :
    partition sep s = (s, [], []) := by
  have hnone : s.dropWhile (· != sep) = [] :=
    List.dropWhile_eq_nil_iff.2 fun c hc => bne_iff_ne.2 fun hsame => h (hsame ▸ hc)
  rw [partition, hnone]

theorem partition_cases (sep : Char) (s : Str) :
    (sep ∉ s ∧ partition sep s = (s, [], [])) ∨
      ∃ front back, s = front ++ sep :: back ∧ sep ∉ front ∧
        partition sep s = (front, [sep], back) := by
  by_cases h : sep ∈ s
  · obtain ⟨front, back, rfl, hfront⟩ := List.eq_append_cons_of_mem h
    exact Or.inr ⟨front, back, rfl, hfront, partition_append hfront⟩
  · exact Or.inl ⟨h, partition_of_not_mem h⟩

/-! ### Lines -/

/-- `s.splitlines()`. -/
def splitlines : Str → List Str
  | [] => []
  | '\r' :: '\n' :: rest => [] :: splitlines rest
  | c :: rest =>
    if endsLine c then [] :: splitlines rest
    else
      match splitlines rest with
      | [] => [[c]]
      | line :: lines => (c :: line) :: lines

theorem splitlines_cons {c : Char} {rest : Str} (h : endsLine c = false) :
    splitlines (c :: rest) =
      (c :: (splitlines rest).headD []) :: (splitlines rest).tail := by
  have hr : c ≠ '\r' := by
    rintro rfl
    exact absurd h (by decide)
  rw [splitlines, if_neg (Bool.eq_false_iff.1 h)]
  · cases splitlines rest <;> rfl
  · intro rest' hc
    exact absurd hc hr

/-- A text that begins with a line is cut into this line and the lines of the rest. -/
theorem splitlines_append {line rest : Str} (h : ∀ c ∈ line, endsLine c = false) :
    splitlines (line ++ '\n' :: rest) = line :: splitlines rest := by
  induction line with
  | nil => rfl
  | cons c line ih =>
    rw [List.cons_append, splitlines_cons (h c List.mem_cons_self),
      ih fun d hd => h d (List.mem_cons_of_mem c hd)]
    rfl

theorem splitlines_flatMap {lines : List Str} (h : ∀ line ∈ lines, ∀ c ∈ line, endsLine c = false) :
    splitlines (lines.flatMap (· ++ ['\n'])) = lines := by
  induction lines with
  | nil => rfl
  | cons line lines ih =>
    rw [List.flatMap_cons, List.append_assoc, List.singleton_append,
      splitlines_append (h line List.mem_cons_self),
      ih fun other hother => h other (List.mem_cons_of_mem line hother)]

/-- No line has the end of a line in it. -/
theorem endsLine_of_mem_splitlines {s line : Str} (h : line ∈ splitlines s) :
    ∀ c ∈ line, endsLine c = false := by
  induction s using splitlines.induct generalizing line with
  | case1 => cases h
  | case2 rest ih =>
    rw [splitlines] at h
    rcases List.mem_cons.1 h with rfl | h
    · exact fun c hc => absurd hc List.not_mem_nil
    · exact ih h
  | case3 c rest hr hends ih =>
    rw [splitlines, if_pos hends] at h
    · rcases List.mem_cons.1 h with rfl | h
      · exact fun c hc => absurd hc List.not_mem_nil
      · exact ih h
    · exact hr
  | case4 c rest hr hends hnil ih =>
    rw [splitlines_cons (Bool.eq_false_iff.2 hends), hnil] at h
    obtain rfl := List.mem_singleton.1 h
    intro d hd
    obtain rfl := List.mem_singleton.1 hd
    exact Bool.eq_false_iff.2 hends
  | case5 c rest hr hends first lines hcons ih =>
    rw [splitlines_cons (Bool.eq_false_iff.2 hends), hcons] at h
    rw [hcons] at ih
    rcases List.mem_cons.1 h with rfl | h
    · intro d hd
      rcases List.mem_cons.1 hd with rfl | hd
      · exact Bool.eq_false_iff.2 hends
      · exact ih List.mem_cons_self d hd
    · exact ih (List.mem_cons_of_mem first h)

/-- `sep.join(parts)`. -/
def join (sep : Str) : List Str → Str
  | [] => []
  | [part] => part
  | part :: parts => part ++ sep ++ join sep parts

/-! ### On one line -/

/-- No line ends in the string. -/
def OnOneLine (s : Str) : Prop := ∀ c ∈ s, endsLine c = false

instance decidableOnOneLine (s : Str) : Decidable (OnOneLine s) :=
  List.decidableBAll (fun c => endsLine c = false) s

theorem onOneLine_nil : OnOneLine [] := fun _ h => absurd h List.not_mem_nil

@[simp] theorem onOneLine_cons {c : Char} {s : Str} :
    OnOneLine (c :: s) ↔ endsLine c = false ∧ OnOneLine s := List.forall_mem_cons

@[simp] theorem onOneLine_append {s t : Str} : OnOneLine (s ++ t) ↔ OnOneLine s ∧ OnOneLine t :=
  List.forall_mem_append

theorem OnOneLine.of_subset {s t : Str} (h : OnOneLine t) (hsubset : s ⊆ t) : OnOneLine s :=
  fun c hc => h c (hsubset hc)

theorem onOneLine_flatMap {α : Type} {parts : List α} {text : α → Str}
    (h : ∀ part ∈ parts, OnOneLine (text part)) : OnOneLine (parts.flatMap text) := by
  intro c hc
  obtain ⟨part, hpart, hmem⟩ := List.mem_flatMap.1 hc
  exact h part hpart c hmem

theorem onOneLine_join {sep : Str} {parts : List Str} (hsep : OnOneLine sep)
    (hparts : ∀ part ∈ parts, OnOneLine part) : OnOneLine (join sep parts) := by
  induction parts with
  | nil => exact onOneLine_nil
  | cons part parts ih =>
    cases parts with
    | nil => exact hparts part List.mem_cons_self
    | cons next parts =>
      rw [join, onOneLine_append, onOneLine_append]
      exact ⟨⟨hparts part List.mem_cons_self, hsep⟩,
        ih fun other hother => hparts other (List.mem_cons_of_mem part hother)⟩
      · exact List.cons_ne_nil _ _

/-! ### Letters -/

/-- `s.lower()`, as far as the letters of ASCII come out of it: two letters outside of ASCII
become or begin with one of them. -/
def lower (s : Str) : Str :=
  s.flatMap fun c =>
    if c.toNat = 0x212a then ['k']
    else if c.toNat = 0x130 then ['i', Char.ofNat 0x307]
    else [c.toLower]

end Python
