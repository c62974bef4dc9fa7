import Mathlib.Data.List.Basic
import Mathlib.Data.List.Infix

/-!
# Fenced regions of a text

A program keeps a part of a text that is otherwise written by hand. The part lies between an
opening and a closing mark; the program looks for the first of each and replaces what is between
them. A mark begins with a sign that is nowhere else in it, so marks do not overlap: where one
begins, any other is over or has not begun.

## Main definitions

* `Fence`: an opening and a closing mark.
* `Fence.find`: the first position of a mark.
* `Fence.splice`: the text with a table in place of the region.
* `Fence.Region`: how a text is made of the region and what is around it.
* `Fence.inside`: what is in the region.
* `Fence.IsOpen`: a region is opened in a text and not closed.

## Main results

* `Fence.splice_eq_some_iff`: what is replaced, and when it can be.
* `Fence.Region.position`: of two regions one is in front of the other, or around it.
* `Fence.both_eq_self_iff`, `Fence.both_again`, `Fence.both_around`, `Fence.both_swallowed`: what it
  is to keep two regions of one text.
-/

variable {α : Type}

/-- A mark begins with a sign that is nowhere else in it. -/
def IsMark (sign : α) (mark : List α) : Prop := ∃ tail, mark = sign :: tail ∧ sign ∉ tail

/-- Neither of two marks begins the other. -/
def Apart (mark other : List α) : Prop := ¬ mark <+: other ∧ ¬ other <+: mark

theorem Apart.symm {mark other : List α} (h : Apart mark other) : Apart other mark := ⟨h.2, h.1⟩

instance [DecidableEq α] (mark other : List α) : Decidable (Apart mark other) :=
  inferInstanceAs (Decidable (_ ∧ _))

/-! ### Where a mark is -/

namespace IsMark

variable {sign : α} {mark other front fresh rest text : List α}

theorem ne_nil (h : IsMark sign mark) : mark ≠ [] := by
  obtain ⟨tail, rfl, -⟩ := h
  exact List.cons_ne_nil sign tail

theorem prefix_cons {c : α} (h : IsMark sign mark) (hmark : mark <+: c :: rest) : c = sign := by
  obtain ⟨tail, rfl, -⟩ := h
  exact (List.cons_prefix_cons.1 hmark).1.symm

/-- A mark that begins in front of a sign is over there. -/
theorem prefix_of_prefix_append (h : IsMark sign mark) (hne : front ≠ [])
    (hmark : mark <+: front ++ sign :: rest) : mark <+: front := by
  obtain ⟨tail, rfl, hsign⟩ := h
  obtain ⟨c, front, rfl⟩ := List.exists_cons_of_ne_nil hne
  rw [List.cons_append, List.cons_prefix_cons] at hmark
  obtain ⟨rfl, after, hafter⟩ := hmark
  rcases List.append_eq_append_iff.1 hafter with ⟨extra, hfront, -⟩ | ⟨extra, htail, hextra⟩
  · rw [hfront]
    exact List.cons_prefix_cons.2 ⟨rfl, List.prefix_append tail extra⟩
  · cases extra with
    | nil => rw [htail, List.append_nil]
    | cons c extra =>
      obtain ⟨rfl, -⟩ := List.cons.inj hextra
      exact absurd (htail ▸ List.mem_append_right front List.mem_cons_self) hsign

theorem infix_append_sign (h : IsMark sign mark) :
    mark <:+: front ++ sign :: rest ↔ mark <:+: front ∨ mark <:+: sign :: rest := by
  induction front with
  | nil => simp [h.ne_nil]
  | cons c front ih =>
    have hcons : mark <:+: c :: front ↔ mark <+: c :: front ∨ mark <:+: front :=
      List.infix_cons_iff
    rw [List.cons_append, List.infix_cons_iff, ih, hcons, or_assoc]
    refine or_congr_left ⟨fun hmark => ?_, fun hmark => hmark.trans ?_⟩
    · exact h.prefix_of_prefix_append (List.cons_ne_nil c front) hmark
    · exact List.prefix_append (c :: front) (sign :: rest)

theorem infix_append_of_not_mem (h : IsMark sign mark) (hfresh : sign ∉ fresh) :
    mark <:+: fresh ++ rest ↔ mark <:+: rest := by
  induction fresh with
  | nil => rfl
  | cons c fresh ih =>
    rw [List.mem_cons, not_or] at hfresh
    rw [List.cons_append, List.infix_cons_iff, ih hfresh.2, or_iff_right]
    exact fun hmark => hfresh.1 (h.prefix_cons hmark).symm

theorem not_infix_of_not_mem (h : IsMark sign mark) (hfresh : sign ∉ fresh) :
    ¬ mark <:+: fresh := fun hin => by
  rw [← List.append_nil fresh, h.infix_append_of_not_mem hfresh] at hin
  exact h.ne_nil (List.infix_nil.1 hin)

theorem infix_mark_append (h : IsMark sign mark) (hother : IsMark sign other)
    (hapart : Apart mark other) : mark <:+: other ++ rest ↔ mark <:+: rest := by
  have hprefix : ¬ mark <+: other ++ rest := fun hmark =>
    (List.prefix_or_prefix_of_prefix hmark (List.prefix_append other rest)).elim hapart.1 hapart.2
  obtain ⟨tail, rfl, hsign⟩ := hother
  rw [List.cons_append] at hprefix ⊢
  rw [List.infix_cons_iff, or_iff_right hprefix, h.infix_append_of_not_mem hsign]

/-- Behind what has no sign in it: a mark that begins no earlier. -/
theorem skip_fresh {y r : List α} (h : IsMark sign mark) (hfresh : sign ∉ fresh)
    (heq : fresh ++ rest = y ++ (mark ++ r)) : ∃ z, y = fresh ++ z ∧ rest = z ++ (mark ++ r) := by
  rcases List.append_eq_append_iff.1 heq with ⟨z, hy, hrest⟩ | ⟨z, hz, hmark⟩
  · exact ⟨z, hy, hrest⟩
  · cases z with
    | nil => exact ⟨[], by rw [hz]; simp, by rw [hmark]; rfl⟩
    | cons c z =>
      have hc : c = sign := h.prefix_cons (hmark ▸ List.prefix_append mark r)
      exact absurd (hz ▸ hc ▸ List.mem_append_right y List.mem_cons_self) hfresh

/-- Behind another mark: a mark that begins no earlier. -/
theorem skip_mark {y r : List α} (h : IsMark sign mark) (hother : IsMark sign other)
    (hapart : Apart mark other) (heq : other ++ rest = y ++ (mark ++ r)) :
    ∃ z, y = other ++ z ∧ rest = z ++ (mark ++ r) := by
  cases y with
  | nil =>
    have hmark : mark <+: other ++ rest := ⟨r, heq.symm⟩
    exact absurd (List.prefix_or_prefix_of_prefix hmark (List.prefix_append other rest))
      (not_or.2 hapart)
  | cons c y =>
    obtain ⟨tail, rfl, hsign⟩ := hother
    rw [List.cons_append, List.cons_append] at heq
    obtain ⟨rfl, htail⟩ := List.cons.inj heq
    obtain ⟨z, rfl, hrest⟩ := h.skip_fresh hsign htail
    exact ⟨z, rfl, hrest⟩

end IsMark

/-! ### Fences -/

/-- An opening and a closing mark. -/
structure Fence (sign : α) where
  opening : List α
  closing : List α
  opens : IsMark sign opening
  closes : IsMark sign closing
  apart : Apart opening closing

namespace Fence

section Find

variable [DecidableEq α] {sign : α} {mark text : List α} {i : ℕ}

/-- The first position from which the text goes on with the mark. -/
def find (mark text : List α) : Option ℕ := text.tails.findIdx? fun rest => decide (mark <+: rest)

theorem find_cons (c : α) : find mark (c :: text) =
    if mark <+: c :: text then some 0 else (find mark text).map (· + 1) := by
  rw [find, List.tails_cons, List.findIdx?_cons]
  simp only [decide_eq_true_eq, find]

/-- **What a search for a mark tells.** -/
theorem find_eq_some_iff (h : IsMark sign mark) : find mark text = some i ↔
    ∃ front back, text = front ++ (mark ++ back) ∧ front.length = i ∧ ¬ mark <:+: front := by
  induction text generalizing i with
  | nil =>
    have hne := h.ne_nil
    simp [find, hne]
  | cons c text ih =>
    rw [find_cons]
    by_cases hmark : mark <+: c :: text
    · rw [if_pos hmark, Option.some.injEq]
      constructor
      · rintro rfl
        obtain ⟨back, hback⟩ := hmark
        exact ⟨[], back, hback.symm, rfl, fun hnil => h.ne_nil (List.infix_nil.1 hnil)⟩
      · rintro ⟨front, back, htext, rfl, hfree⟩
        obtain ⟨tail, rfl, hsign⟩ := h
        by_contra hne
        have hfront : front ≠ [] := fun hnil => hne (by rw [hnil]; rfl)
        rw [htext] at hmark
        exact hfree (IsMark.prefix_of_prefix_append ⟨tail, rfl, hsign⟩ hfront hmark).isInfix
    · rw [if_neg hmark, Option.map_eq_some_iff]
      constructor
      · rintro ⟨j, hj, rfl⟩
        obtain ⟨front, back, rfl, rfl, hfree⟩ := ih.1 hj
        refine ⟨c :: front, back, rfl, rfl, fun hin => ?_⟩
        rcases List.infix_cons_iff.1 hin with hstart | hlater
        · exact hmark (hstart.trans (List.prefix_append (c :: front) (mark ++ back)))
        · exact hfree hlater
      · rintro ⟨front, back, htext, rfl, hfree⟩
        cases front with
        | nil => exact absurd ⟨back, htext.symm⟩ hmark
        | cons d front =>
          obtain ⟨rfl, rfl⟩ := List.cons.inj htext
          exact ⟨front.length, ih.2 ⟨front, back, rfl, rfl, fun hin =>
            hfree (List.infix_cons hin)⟩, rfl⟩

theorem find_eq_none_iff (h : IsMark sign mark) : find mark text = none ↔ ¬ mark <:+: text := by
  induction text with
  | nil => simp [find, h.ne_nil]
  | cons c text ih =>
    rw [find_cons, List.infix_cons_iff, not_or]
    by_cases hmark : mark <+: c :: text
    · simp [hmark]
    · simp [hmark, ih]

theorem exists_first (h : IsMark sign mark) (hin : mark <:+: text) :
    ∃ front back, text = front ++ (mark ++ back) ∧ ¬ mark <:+: front := by
  have hsome : find mark text ≠ none := fun hnone => (find_eq_none_iff h).1 hnone hin
  obtain ⟨i, hi⟩ := Option.ne_none_iff_exists'.1 hsome
  obtain ⟨front, back, htext, -, hfree⟩ := (find_eq_some_iff h).1 hi
  exact ⟨front, back, htext, hfree⟩

end Find

variable {sign : α} (fence other : Fence sign)

/-- A text is made of the region and what is around it: the marks are the first ones. -/
structure Region (text front inside back : List α) : Prop where
  text_eq : text = front ++ (fence.opening ++ (inside ++ (fence.closing ++ back)))
  unopened : ¬ fence.opening <:+: front
  unclosed : ¬ fence.closing <:+: front
  within : ¬ fence.closing <:+: inside

/-- The text with a table in place of the region. -/
def splice [DecidableEq α] (table text : List α) : Option (List α) :=
  match find fence.opening text, find fence.closing text with
  | some start, some stop =>
    if stop < start then none
    else some (text.take (start + fence.opening.length) ++ (table ++ text.drop stop))
  | _, _ => none

/-- What is in the region. -/
def inside [DecidableEq α] (text : List α) : Option (List α) :=
  match find fence.opening text, find fence.closing text with
  | some start, some stop =>
    if stop < start then none else some ((text.take stop).drop (start + fence.opening.length))
  | _, _ => none

/-- The region is opened in the text and not closed. -/
def IsOpen (text : List α) : Prop := fence.opening <:+: text ∧ ¬ fence.closing <:+: text

variable {fence other} {text new front inside back front' inside' back' table : List α}

theorem closing_infix_iff : fence.closing <:+: front ++ (fence.opening ++ inside) ↔
    fence.closing <:+: front ∨ fence.closing <:+: inside := by
  obtain ⟨tail, htail, -⟩ := fence.opens
  have hsplit : fence.opening ++ inside = sign :: (tail ++ inside) := by rw [htail]; rfl
  rw [hsplit, fence.closes.infix_append_sign, ← hsplit,
    fence.closes.infix_mark_append fence.opens fence.apart.symm]

namespace Region

variable (h : fence.Region text front inside back)
include h

theorem take_front :
    text.take (front.length + fence.opening.length) = front ++ fence.opening := by
  rw [h.text_eq, ← List.append_assoc, List.take_left' (by simp)]

theorem drop_inside :
    text.drop (front ++ (fence.opening ++ inside)).length = fence.closing ++ back := by
  have hassoc : text = front ++ (fence.opening ++ inside) ++ (fence.closing ++ back) := by
    rw [h.text_eq]; simp
  rw [hassoc, List.drop_left]

variable [DecidableEq α]

theorem find_opening : find fence.opening text = some front.length :=
  (find_eq_some_iff fence.opens).2 ⟨front, _, h.text_eq, rfl, h.unopened⟩

theorem find_closing :
    find fence.closing text = some (front ++ (fence.opening ++ inside)).length := by
  refine (find_eq_some_iff fence.closes).2 ⟨_, back, ?_, rfl, ?_⟩
  · rw [h.text_eq]; simp
  · rw [closing_infix_iff, not_or]
    exact ⟨h.unclosed, h.within⟩

theorem inside_eq : fence.inside text = some inside := by
  have hlength : front.length + fence.opening.length = (front ++ fence.opening).length := by simp
  have htake : text.take (front ++ (fence.opening ++ inside)).length =
      front ++ fence.opening ++ inside := by
    rw [h.text_eq]
    have hassoc : front ++ (fence.opening ++ (inside ++ (fence.closing ++ back))) =
      front ++ (fence.opening ++ inside) ++ (fence.closing ++ back) := by simp
    rw [hassoc, List.take_left, List.append_assoc]
  rw [Fence.inside, h.find_opening, h.find_closing]
  dsimp only
  rw [if_neg (by simp), htake, hlength, List.drop_left]

end Region

/-- The first opening and the first closing mark, if they are in this order, make a region. -/
theorem exists_region [DecidableEq α] {start stop : ℕ}
    (hstart : find fence.opening text = some start) (hstop : find fence.closing text = some stop)
    (hle : start ≤ stop) : ∃ front inside back, fence.Region text front inside back := by
  obtain ⟨front, rest, htext, rfl, hopened⟩ := (find_eq_some_iff fence.opens).1 hstart
  obtain ⟨before, back, htext', rfl, hclosed⟩ := (find_eq_some_iff fence.closes).1 hstop
  obtain ⟨z, rfl, hz⟩ : ∃ z, before = front ++ z ∧
      fence.opening ++ rest = z ++ (fence.closing ++ back) := by
    rcases List.append_eq_append_iff.1 (htext.symm.trans htext') with h | ⟨z, rfl, hz⟩
    · exact h
    · rw [List.length_append] at hle
      obtain rfl : z = [] := List.length_eq_zero_iff.1 (by omega)
      exact ⟨[], by simp, by rw [hz]; rfl⟩
  obtain ⟨inside, rfl, rfl⟩ := fence.closes.skip_mark fence.opens fence.apart.symm hz
  rw [closing_infix_iff, not_or] at hclosed
  exact ⟨front, inside, back, htext, hopened, hclosed.1, hclosed.2⟩

/-- **What is replaced.** The table comes between the first opening and the first closing mark, if
they are there in this order. -/
theorem splice_eq_some_iff [DecidableEq α] : fence.splice table text = some new ↔
    ∃ front inside back, fence.Region text front inside back ∧
      new = front ++ (fence.opening ++ (table ++ (fence.closing ++ back))) := by
  have hspliced : ∀ front inside back, fence.Region text front inside back →
      fence.splice table text =
        some (front ++ (fence.opening ++ (table ++ (fence.closing ++ back)))) := by
    intro front inside back h
    rw [splice, h.find_opening, h.find_closing]
    dsimp only
    rw [if_neg (by simp), h.take_front, h.drop_inside, List.append_assoc]
  constructor
  · intro h
    obtain ⟨start, stop, hstart, hstop, hle⟩ : ∃ start stop,
        find fence.opening text = some start ∧ find fence.closing text = some stop ∧
          start ≤ stop := by
      rw [splice] at h
      split at h
      · rename_i start stop hstart hstop
        exact ⟨start, stop, hstart, hstop, not_lt.1 (Option.ite_none_left_eq_some.1 h).1⟩
      · cases h
    obtain ⟨front, inside, back, hregion⟩ := exists_region hstart hstop hle
    rw [hspliced front inside back hregion, Option.some.injEq] at h
    exact ⟨front, inside, back, hregion, h.symm⟩
  · rintro ⟨front, inside, back, hregion, rfl⟩
    exact hspliced front inside back hregion

/-- A text has one region at most. -/
theorem Region.unique (h : fence.Region text front inside back)
    (h' : fence.Region text front' inside' back') :
    front = front' ∧ inside = inside' ∧ back = back' := by
  classical
  have hfront : front.length = front'.length :=
    Option.some.inj (h.find_opening.symm.trans h'.find_opening)
  have hlength : (front ++ (fence.opening ++ inside)).length =
      (front' ++ (fence.opening ++ inside')).length :=
    Option.some.inj (h.find_closing.symm.trans h'.find_closing)
  have htext := h.text_eq.symm.trans h'.text_eq
  obtain ⟨rfl, htail⟩ := List.append_inj htext hfront
  have hinside : inside.length = inside'.length := by
    simp only [List.length_append] at hlength
    omega
  obtain ⟨rfl, hback⟩ := List.append_inj (List.append_cancel_left htail) hinside
  exact ⟨rfl, rfl, List.append_cancel_left hback⟩

theorem Region.replace (h : fence.Region text front inside back) (htable : sign ∉ table) :
    fence.Region (front ++ (fence.opening ++ (table ++ (fence.closing ++ back)))) front table
      back :=
  ⟨rfl, h.unopened, h.unclosed, fence.closes.not_infix_of_not_mem htable⟩

/-- A text is left as it is exactly if its region is the table. -/
theorem splice_eq_self_iff [DecidableEq α] : fence.splice table text = some text ↔
    ∃ front back, fence.Region text front table back := by
  rw [splice_eq_some_iff]
  constructor
  · rintro ⟨front, inside, back, h, htext⟩
    have hinside : inside ++ (fence.closing ++ back) = table ++ (fence.closing ++ back) :=
      List.append_cancel_left (List.append_cancel_left (h.text_eq.symm.trans htext))
    exact ⟨front, back, List.append_cancel_right hinside ▸ h⟩
  · rintro ⟨front, back, h⟩
    exact ⟨front, table, back, h, h.text_eq⟩

/-! ### Two fences in one text -/

/-- No mark of one fence begins a mark of the other. -/
structure Disjoint (fence other : Fence sign) : Prop where
  opening_opening : Apart fence.opening other.opening
  opening_closing : Apart fence.opening other.closing
  closing_opening : Apart fence.closing other.opening
  closing_closing : Apart fence.closing other.closing

variable {mark y r rest first second : List α}

theorem skip_region (hmark : IsMark sign mark) (hopening : Apart mark fence.opening)
    (hclosing : Apart mark fence.closing) (hinside : sign ∉ inside)
    (heq : fence.opening ++ (inside ++ (fence.closing ++ rest)) = y ++ (mark ++ r)) :
    ∃ z, y = fence.opening ++ (inside ++ (fence.closing ++ z)) ∧ rest = z ++ (mark ++ r) := by
  obtain ⟨x, rfl, hopened⟩ := hmark.skip_mark fence.opens hopening heq
  obtain ⟨v, rfl, hpassed⟩ := hmark.skip_fresh hinside hopened
  obtain ⟨z, rfl, hclosed⟩ := hmark.skip_mark fence.closes hclosing hpassed
  exact ⟨z, rfl, hclosed⟩

/-- **Of two regions** one is in front of the other, or the other one is around the one that has
no sign in it. -/
theorem Region.position (h : fence.Region text front inside back) (hinside : sign ∉ inside)
    (h' : other.Region text front' inside' back') (hdisjoint : fence.Disjoint other) :
    (∃ between, front = front' ++ (other.opening ++ (inside' ++ (other.closing ++ between))) ∧
      back' = between ++ (fence.opening ++ (inside ++ (fence.closing ++ back)))) ∨
    (∃ between, front' = front ++ (fence.opening ++ (inside ++ (fence.closing ++ between))) ∧
      back = between ++ (other.opening ++ (inside' ++ (other.closing ++ back')))) ∨
    ∃ first second, front = front' ++ (other.opening ++ first) ∧
      inside' = first ++ (fence.opening ++ (inside ++ (fence.closing ++ second))) ∧
      back = second ++ (other.closing ++ back') := by
  rcases List.append_eq_append_iff.1 (h.text_eq.symm.trans h'.text_eq) with
    ⟨z, rfl, heq⟩ | ⟨z, rfl, heq⟩
  · obtain ⟨between, rfl, rfl⟩ := skip_region other.opens hdisjoint.opening_opening.symm
      hdisjoint.closing_opening.symm hinside heq
    exact Or.inr (Or.inl ⟨between, rfl, rfl⟩)
  · obtain ⟨first, rfl, hrest⟩ := fence.opens.skip_mark other.opens hdisjoint.opening_opening heq
    rcases List.append_eq_append_iff.1 hrest with ⟨v, rfl, htail⟩ | ⟨v, rfl, htail⟩
    · obtain ⟨between, rfl, rfl⟩ :=
        fence.opens.skip_mark other.closes hdisjoint.opening_closing htail
      exact Or.inl ⟨between, rfl, rfl⟩
    · obtain ⟨second, rfl, rfl⟩ := skip_region other.closes hdisjoint.opening_closing.symm
        hdisjoint.closing_closing.symm hinside htail
      exact Or.inr (Or.inr ⟨first, second, rfl, rfl, rfl⟩)

/-- A mark is in a text with a region exactly if it is around the region or inside. -/
theorem infix_region_iff (hmark : IsMark sign mark) (hopening : Apart mark fence.opening)
    (hclosing : Apart mark fence.closing) :
    mark <:+: front ++ (fence.opening ++ (inside ++ (fence.closing ++ back))) ↔
      mark <:+: front ∨ mark <:+: inside ∨ mark <:+: back := by
  obtain ⟨start, hstart, -⟩ := fence.opens
  obtain ⟨stop, hstop, -⟩ := fence.closes
  have hopened : fence.opening ++ (inside ++ (fence.closing ++ back)) =
      sign :: (start ++ (inside ++ (fence.closing ++ back))) := by rw [hstart]; rfl
  have hclosed : fence.closing ++ back = sign :: (stop ++ back) := by rw [hstop]; rfl
  rw [hopened, hmark.infix_append_sign, ← hopened, hmark.infix_mark_append fence.opens hopening,
    hclosed, hmark.infix_append_sign, ← hclosed, hmark.infix_mark_append fence.closes hclosing]

theorem infix_region_iff_of_not_mem (hmark : IsMark sign mark)
    (hopening : Apart mark fence.opening) (hclosing : Apart mark fence.closing)
    (hinside : sign ∉ inside) :
    mark <:+: front ++ (fence.opening ++ (inside ++ (fence.closing ++ back))) ↔
      mark <:+: front ∨ mark <:+: back := by
  rw [infix_region_iff hmark hopening hclosing,
    or_iff_right (hmark.not_infix_of_not_mem hinside)]

variable {table' fresh fresh' between : List α}

/-- The region is still one when the other region in front of it is replaced. -/
theorem Region.replace_before (h : fence.Region text
      (front' ++ (other.opening ++ (inside' ++ (other.closing ++ between)))) inside back)
    (htable : sign ∉ table) (htable' : sign ∉ table') (hdisjoint : fence.Disjoint other) :
    fence.Region (front' ++ (other.opening ++ (table' ++ (other.closing ++
        (between ++ (fence.opening ++ (table ++ (fence.closing ++ back))))))))
      (front' ++ (other.opening ++ (table' ++ (other.closing ++ between)))) table back := by
  have hopened := h.unopened
  have hclosed := h.unclosed
  rw [infix_region_iff fence.opens hdisjoint.opening_opening hdisjoint.opening_closing, not_or,
    not_or] at hopened
  rw [infix_region_iff fence.closes hdisjoint.closing_opening hdisjoint.closing_closing, not_or,
    not_or] at hclosed
  refine ⟨by simp only [List.append_assoc], ?_, ?_, (h.replace htable).within⟩
  · rw [infix_region_iff_of_not_mem fence.opens hdisjoint.opening_opening
      hdisjoint.opening_closing htable', not_or]
    exact ⟨hopened.1, hopened.2.2⟩
  · rw [infix_region_iff_of_not_mem fence.closes hdisjoint.closing_opening
      hdisjoint.closing_closing htable', not_or]
    exact ⟨hclosed.1, hclosed.2.2⟩

section Both

variable [DecidableEq α]

/-- Both regions are replaced, first that of the first fence. -/
def both (fence other : Fence sign) (table table' text : List α) : Option (List α) :=
  (fence.splice table text).bind (other.splice table')

/-- The other region in front of the region. -/
theorem both_before (h : fence.Region text
      (front' ++ (other.opening ++ (inside' ++ (other.closing ++ between)))) inside back)
    (hopened : ¬ other.opening <:+: front') (hclosed : ¬ other.closing <:+: front')
    (hwithin : ¬ other.closing <:+: inside') :
    both fence other table table' text =
      some (front' ++ (other.opening ++ (table' ++ (other.closing ++
        (between ++ (fence.opening ++ (table ++ (fence.closing ++ back)))))))) := by
  rw [both, splice_eq_some_iff.2 ⟨_, _, _, h, rfl⟩, Option.bind_some]
  exact splice_eq_some_iff.2
    ⟨front', inside', _, ⟨by simp only [List.append_assoc], hopened, hclosed, hwithin⟩, rfl⟩

/-- The other region behind the region. -/
theorem both_behind (h : fence.Region text front inside
      (between ++ (other.opening ++ (inside' ++ (other.closing ++ back')))))
    (htable : sign ∉ table) (hdisjoint : fence.Disjoint other)
    (hopened : ¬ other.opening <:+: front ∧ ¬ other.opening <:+: between)
    (hclosed : ¬ other.closing <:+: front ∧ ¬ other.closing <:+: between)
    (hwithin : ¬ other.closing <:+: inside') :
    both fence other table table' text =
      some (front ++ (fence.opening ++ (table ++ (fence.closing ++
        (between ++ (other.opening ++ (table' ++ (other.closing ++ back')))))))) := by
  rw [both, splice_eq_some_iff.2 ⟨_, _, _, h, rfl⟩, Option.bind_some]
  refine splice_eq_some_iff.2
    ⟨front ++ (fence.opening ++ (table ++ (fence.closing ++ between))), inside', back',
      ⟨by simp only [List.append_assoc], ?_, ?_, hwithin⟩, by simp only [List.append_assoc]⟩
  · rw [infix_region_iff_of_not_mem other.opens hdisjoint.opening_opening.symm
      hdisjoint.closing_opening.symm htable, not_or]
    exact hopened
  · rw [infix_region_iff_of_not_mem other.closes hdisjoint.opening_closing.symm
      hdisjoint.closing_closing.symm htable, not_or]
    exact hclosed

/-- What both regions are in a text in which both were replaced. -/
inductive Written (fence other : Fence sign) (table table' text front inside back new : List α) :
    Prop
  | before (front' inside' between : List α)
      (front_eq : front = front' ++ (other.opening ++ (inside' ++ (other.closing ++ between))))
      (opened : ¬ other.opening <:+: front') (closed : ¬ other.closing <:+: front')
      (within : ¬ other.closing <:+: inside')
      (new_eq : new = front' ++ (other.opening ++ (table' ++ (other.closing ++
        (between ++ (fence.opening ++ (table ++ (fence.closing ++ back))))))))
  | behind (between inside' back' : List α)
      (back_eq : back = between ++ (other.opening ++ (inside' ++ (other.closing ++ back'))))
      (opened : ¬ other.opening <:+: front ∧ ¬ other.opening <:+: between)
      (closed : ¬ other.closing <:+: front ∧ ¬ other.closing <:+: between)
      (within : ¬ other.closing <:+: inside')
      (new_eq : new = front ++ (fence.opening ++ (table ++ (fence.closing ++
        (between ++ (other.opening ++ (table' ++ (other.closing ++ back'))))))))
  | around (front' first second back' : List α)
      (front_eq : front = front' ++ (other.opening ++ first))
      (back_eq : back = second ++ (other.closing ++ back'))
      (closed : ¬ other.closing <:+: front' ∧ ¬ other.closing <:+: first)
      (new_eq : new = front' ++ (other.opening ++ (table' ++ (other.closing ++ back'))))

theorem written_of_both (h : fence.Region text front inside back) (htable : sign ∉ table)
    (hdisjoint : fence.Disjoint other) (hnew : both fence other table table' text = some new) :
    Written fence other table table' text front inside back new := by
  rw [both, splice_eq_some_iff.2 ⟨_, _, _, h, rfl⟩, Option.bind_some] at hnew
  obtain ⟨front', inside', back', h', rfl⟩ := splice_eq_some_iff.1 hnew
  rcases (h.replace htable).position htable h' hdisjoint with
    ⟨between, hfront, hback⟩ | ⟨between, hfront, hback⟩ | ⟨first, second, hfront, hinside, hback⟩
  · exact .before front' inside' between hfront h'.unopened h'.unclosed h'.within (by rw [hback])
  · have hopened := h'.unopened
    have hclosed := h'.unclosed
    rw [hfront, infix_region_iff_of_not_mem other.opens hdisjoint.opening_opening.symm
      hdisjoint.closing_opening.symm htable, not_or] at hopened
    rw [hfront, infix_region_iff_of_not_mem other.closes hdisjoint.opening_closing.symm
      hdisjoint.closing_closing.symm htable, not_or] at hclosed
    exact .behind between inside' back' hback hopened hclosed h'.within (by
      rw [hfront]; simp only [List.append_assoc])
  · refine .around front' first second back' hfront hback ⟨h'.unclosed, fun hin => ?_⟩ rfl
    exact h'.within (hinside ▸ hin.trans (List.infix_append_left))

/-- **What is written anew.** If the other region is not open where the region begins, a text in
which both regions were replaced gives with any tables what the text before gives. -/
theorem both_both (h : fence.Region text front inside back) (hopen : ¬ other.IsOpen front)
    (htable : sign ∉ table) (htable' : sign ∉ table') (hfresh : sign ∉ fresh)
    (hdisjoint : fence.Disjoint other) (hnew : both fence other table table' text = some new) :
    both fence other fresh fresh' new = both fence other fresh fresh' text := by
  cases written_of_both h htable hdisjoint hnew with
  | before front' inside' between hfront hopened hclosed hwithin hwritten =>
    subst hfront hwritten
    rw [both_before h hopened hclosed hwithin,
      both_before (h.replace_before htable htable' hdisjoint) hopened hclosed
        (other.closes.not_infix_of_not_mem htable')]
  | behind between inside' back' hback hopened hclosed hwithin hwritten =>
    subst hback hwritten
    rw [both_behind h hfresh hdisjoint hopened hclosed hwithin,
      both_behind ⟨rfl, h.unopened, h.unclosed, (h.replace htable).within⟩ hfresh hdisjoint hopened
        hclosed (other.closes.not_infix_of_not_mem htable')]
  | around front' first second back' hfront hback hclosed hwritten =>
    refine absurd ⟨⟨front', first, ?_⟩, ?_⟩ hopen
    · rw [hfront, List.append_assoc]
    · rw [hfront, closing_infix_iff, not_or]
      exact hclosed

/-- A text written with both tables is written again as it is. -/
theorem both_again (h : fence.Region text front inside back) (hopen : ¬ other.IsOpen front)
    (htable : sign ∉ table) (htable' : sign ∉ table') (hdisjoint : fence.Disjoint other)
    (hnew : both fence other table table' text = some new) :
    both fence other table table' new = some new :=
  (both_both h hopen htable htable' htable hdisjoint hnew).trans hnew

/-- The other region around the region: it is open where the region begins, and closed behind it. -/
theorem both_around (h : fence.Region text front inside back) (hopen : other.IsOpen front)
    (hclosed : other.closing <:+: back) (htable : sign ∉ table)
    (hdisjoint : fence.Disjoint other) : ∃ new, both fence other table table' text = some new := by
  obtain ⟨front', first, rfl, hopened⟩ := exists_first other.opens hopen.1
  obtain ⟨second, back', rfl, hbehind⟩ := exists_first other.closes hclosed
  have hunclosed : ¬ other.closing <:+: front' ∧ ¬ other.closing <:+: first :=
    not_or.1 fun hin => hopen.2 (closing_infix_iff.2 hin)
  refine ⟨front' ++ (other.opening ++ (table' ++ (other.closing ++ back'))), ?_⟩
  rw [both, splice_eq_some_iff.2 ⟨_, _, _, h, rfl⟩, Option.bind_some]
  refine splice_eq_some_iff.2 ⟨front',
    first ++ (fence.opening ++ (table ++ (fence.closing ++ second))), back', ⟨?_, hopened,
      hunclosed.1, ?_⟩, rfl⟩
  · simp only [List.append_assoc]
  · rw [infix_region_iff_of_not_mem other.closes hdisjoint.opening_closing.symm
      hdisjoint.closing_closing.symm htable, not_or]
    exact ⟨hunclosed.2, hbehind⟩

/-- **What is swallowed.** If the other region is open where the region begins, it is replaced with
the region in it. -/
theorem both_swallowed (h : fence.Region text front inside back) (hopen : other.IsOpen front)
    (honce : ¬ fence.opening <:+: back) (htable : sign ∉ table) (htable' : sign ∉ table')
    (hdisjoint : fence.Disjoint other) (hnew : both fence other table table' text = some new) :
    ¬ fence.opening <:+: new := by
  cases written_of_both h htable hdisjoint hnew with
  | before front' inside' between hfront _ _ _ _ =>
    refine absurd ?_ hopen.2
    rw [hfront]
    exact ⟨front' ++ (other.opening ++ inside'), between, by simp only [List.append_assoc]⟩
  | behind between inside' back' _ hopened _ _ _ => exact absurd hopen.1 hopened.1
  | around front' first second back' hfront hback _ hwritten =>
    rw [hwritten, infix_region_iff_of_not_mem fence.opens hdisjoint.opening_opening
      hdisjoint.opening_closing htable', not_or]
    refine ⟨fun hin => h.unopened ?_, fun hin => honce ?_⟩
    · rw [hfront]
      exact hin.trans List.infix_append_left
    · rw [hback, ← List.append_assoc]
      exact hin.trans List.infix_append_right

theorem both_eq_none (h : ¬ fence.opening <:+: text) :
    both fence other table table' text = none := by
  rw [both, splice, (find_eq_none_iff fence.opens).2 h]
  rfl

/-- **What is kept as it is**: a text with both tables in it. -/
theorem both_eq_self_iff (htable : sign ∉ table) (htable' : sign ∉ table')
    (hdisjoint : fence.Disjoint other) : both fence other table table' text = some text ↔
      fence.splice table text = some text ∧ other.splice table' text = some text := by
  constructor
  · intro hself
    have hspliced : fence.splice table text = some text := by
      obtain ⟨text', hspliced, -⟩ := Option.bind_eq_some_iff.1 hself
      obtain ⟨front, inside, back, h, -⟩ := splice_eq_some_iff.1 hspliced
      cases written_of_both h htable hdisjoint hself with
      | before front' inside' between hfront hopened hclosed hwithin hwritten =>
        subst hfront
        have hregion := h.replace_before htable htable' hdisjoint
        rw [← hwritten] at hregion
        exact splice_eq_self_iff.2 ⟨_, _, hregion⟩
      | behind between inside' back' hback hopened hclosed hwithin hwritten =>
        subst hback
        exact splice_eq_self_iff.2
          ⟨front, _, hwritten, h.unopened, h.unclosed, (h.replace htable).within⟩
      | around front' first second back' hfront hback hclosed hwritten =>
        -- the table has no sign, so the other region is closed before the region begins
        have htext := h.text_eq.symm.trans hwritten
        rw [hfront, List.append_assoc, List.append_assoc] at htext
        have htail := List.append_cancel_left (List.append_cancel_left htext)
        obtain ⟨y, rfl, hrest⟩ := fence.opens.skip_fresh htable' htail.symm
        obtain ⟨z, rfl, -⟩ :=
          fence.opens.skip_mark other.closes hdisjoint.opening_closing hrest
        exact absurd ⟨table', z, by simp only [List.append_assoc]⟩ hclosed.2
    rw [both, hspliced, Option.bind_some] at hself
    exact ⟨hspliced, hself⟩
  · rintro ⟨hspliced, hspliced'⟩
    rw [both, hspliced, Option.bind_some, hspliced']

end Both

end Fence
