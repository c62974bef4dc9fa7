import Mathlib.Data.List.Basic

/-!
# Tables between bars

A table is written as a line of text for each of its rows. A row begins with a bar, and each of its
cells stands between blanks and is followed by a bar. Where no cell has a bar or a line break in
it, the table can be read back.

## Main definitions

* `BarTable.line`, `BarTable.text`: how a row and a table are written.
* `BarTable.read`: the cells of a text.
* `BarTable.enumerated`, `BarTable.items`: several things in one cell.
* `BarTable.enumerated`, `BarTable.items`: how several things stand in one cell.

## Main results

* `BarTable.read_text`: what was written is read back.
* `BarTable.items_enumerated`: so are the things in a cell.
* `BarTable.items_enumerated`: so are the things in a cell.
-/

namespace BarTable

variable {α : Type} (bar blank newline : α)

/-- A cell and the bar behind it. -/
def behindBar (cell : List α) : List α := blank :: (cell ++ [blank, bar])

/-- A row. -/
def line (cells : List (List α)) : List α := bar :: cells.flatMap (behindBar bar blank)

/-- A table. -/
def text (rows : List (List (List α))) : List α :=
  rows.flatMap fun cells => line bar blank cells ++ [newline]

/-- The cells of a line. -/
def readLine [DecidableEq α] (written : List α) : List (List α) :=
  (written.splitOn bar).tail.dropLast.map fun piece => piece.tail.dropLast

/-- The cells of a text. -/
def read [DecidableEq α] (written : List α) : List (List (List α)) :=
  (written.splitOn newline).dropLast.map (readLine bar)

variable {bar blank newline} {cell : List α} {cells : List (List α)} {rows : List (List (List α))}

theorem splitOn_cells [DecidableEq α] (hblank : blank ≠ bar) (hcells : ∀ cell ∈ cells, bar ∉ cell) :
    (cells.flatMap (behindBar bar blank)).splitOn bar =
      cells.map (fun cell => blank :: (cell ++ [blank])) ++ [[]] := by
  induction cells with
  | nil => rfl
  | cons cell cells ih =>
    have hcell : bar ∉ blank :: (cell ++ [blank]) := by
      simp [hblank.symm, hcells cell List.mem_cons_self]
    have hsplit : (cell :: cells).flatMap (behindBar bar blank) =
        (blank :: (cell ++ [blank])) ++ bar :: cells.flatMap (behindBar bar blank) := by
      simp [behindBar]
    rw [hsplit, List.splitOn_append_cons_self_of_not_mem hcell,
      ih fun other hother => hcells other (List.mem_cons_of_mem cell hother)]
    rfl

theorem readLine_line [DecidableEq α] (hblank : blank ≠ bar) (hcells : ∀ cell ∈ cells, bar ∉ cell) :
    readLine bar (line bar blank cells) = cells := by
  rw [readLine, line, ← List.nil_append (bar :: _),
    List.splitOn_append_cons_self_of_not_mem List.not_mem_nil, splitOn_cells hblank hcells,
    List.tail_cons, List.dropLast_concat, List.map_map]
  refine (List.map_congr_left fun cell _ => ?_).trans (List.map_id cells)
  simp

theorem newline_notMem_line (hbar : newline ≠ bar) (hblank : newline ≠ blank)
    (hcells : ∀ cell ∈ cells, newline ∉ cell) : newline ∉ line bar blank cells := by
  simp only [line, behindBar, List.mem_cons, List.mem_flatMap, List.mem_append, List.not_mem_nil,
    or_false, not_or, not_exists, not_and]
  exact ⟨hbar, fun cell hcell => ⟨hblank, hcells cell hcell, hblank, hbar⟩⟩

/-- **What was written is read back.** -/
theorem read_text [DecidableEq α] (hbar : newline ≠ bar) (hnewline : newline ≠ blank)
    (hblank : blank ≠ bar) (hrows : ∀ cells ∈ rows, ∀ cell ∈ cells, bar ∉ cell ∧ newline ∉ cell) :
    read bar newline (text bar blank newline rows) = rows := by
  have hsplit : (text bar blank newline rows).splitOn newline =
      rows.map (line bar blank) ++ [[]] := by
    induction rows with
    | nil => rfl
    | cons cells rows ih =>
      have hline : newline ∉ line bar blank cells :=
        newline_notMem_line hbar hnewline fun cell hcell =>
          (hrows cells List.mem_cons_self cell hcell).2
      have htext : text bar blank newline (cells :: rows) =
          line bar blank cells ++ newline :: text bar blank newline rows := by
        simp [text]
      rw [htext, List.splitOn_append_cons_self_of_not_mem hline,
        ih fun other hother => hrows other (List.mem_cons_of_mem cells hother)]
      rfl
  rw [read, hsplit, List.dropLast_concat, List.map_map]
  refine (List.map_congr_left fun cells hcells => ?_).trans (List.map_id rows)
  exact readLine_line hblank fun cell hcell => (hrows cells hcells cell hcell).1

/-! ### Several things in one cell -/

section Items

/-- What stands between two things. -/
def enumerate (comma blank : α) (cell thing : List α) : List α :=
  (if cell = [] then cell else cell ++ [comma, blank]) ++ thing

/-- Things with a comma and a blank between them. -/
def enumerated (comma blank : α) (things : List (List α)) : List α :=
  things.foldl (enumerate comma blank) []

/-- The things between the commas, without the blank in front of each. -/
def items [DecidableEq α] (comma blank : α) (cell : List α) : List (List α) :=
  (cell.splitOn comma).map fun piece => if piece.head? = some blank then piece.tail else piece

variable {comma : α} {things : List (List α)}

theorem foldl_enumerate (hne : cell ≠ []) :
    things.foldl (enumerate comma blank) cell =
      cell ++ things.flatMap fun thing => comma :: blank :: thing := by
  induction things generalizing cell with
  | nil => simp
  | cons thing things ih =>
    rw [List.foldl_cons, ih (by simp [enumerate, hne]), enumerate, if_neg hne]
    simp

theorem mem_enumerated {a : α} (h : a ∈ enumerated comma blank things) :
    a = comma ∨ a = blank ∨ ∃ thing ∈ things, a ∈ thing := by
  have general : ∀ cell : List α, a ∈ things.foldl (enumerate comma blank) cell →
      a ∈ cell ∨ a = comma ∨ a = blank ∨ ∃ thing ∈ things, a ∈ thing := by
    clear h
    induction things with
    | nil => exact fun cell h => Or.inl h
    | cons thing things ih =>
      intro cell h
      rcases ih _ h with hcell | hcomma | hblank | ⟨other, hother, hin⟩
      · rw [enumerate] at hcell
        split_ifs at hcell
        · rcases List.mem_append.1 hcell with hin | hin
          · exact Or.inl hin
          · exact Or.inr (Or.inr (Or.inr ⟨thing, List.mem_cons_self, hin⟩))
        · simp only [List.mem_append, List.mem_cons, List.not_mem_nil, or_false] at hcell
          rcases hcell with (hin | hcomma | hblank) | hin
          · exact Or.inl hin
          · exact Or.inr (Or.inl hcomma)
          · exact Or.inr (Or.inr (Or.inl hblank))
          · exact Or.inr (Or.inr (Or.inr ⟨thing, List.mem_cons_self, hin⟩))
      · exact Or.inr (Or.inl hcomma)
      · exact Or.inr (Or.inr (Or.inl hblank))
      · exact Or.inr (Or.inr (Or.inr ⟨other, List.mem_cons_of_mem thing hother, hin⟩))
  exact (general [] h).resolve_left List.not_mem_nil

/-- **The things in a cell are read back.** -/
theorem items_enumerated [DecidableEq α] (hcomma : comma ≠ blank) (hne : things ≠ [])
    (hthings : ∀ thing ∈ things, thing ≠ [] ∧ comma ∉ thing ∧ thing.head? ≠ some blank) :
    items comma blank (enumerated comma blank things) = things := by
  have hrest : ∀ rest : List (List α), (∀ thing ∈ rest, comma ∉ thing) → ∀ front, comma ∉ front →
      (front ++ rest.flatMap fun thing => comma :: blank :: thing).splitOn comma =
        front :: rest.map (blank :: ·) := by
    intro rest
    induction rest with
    | nil =>
      intro _ front hfront
      rw [List.flatMap_nil, List.append_nil, List.splitOn_eq_singleton hfront, List.map_nil]
    | cons thing rest ih =>
      intro hall front hfront
      have hthing : comma ∉ blank :: thing :=
        fun hin => (List.mem_cons.1 hin).elim hcomma (hall thing List.mem_cons_self)
      rw [List.flatMap_cons, List.cons_append, List.splitOn_append_cons_self_of_not_mem hfront,
        ih (fun other hother => hall other (List.mem_cons_of_mem thing hother)) _ hthing,
        List.map_cons]
  obtain ⟨first, rest, rfl⟩ := List.exists_cons_of_ne_nil hne
  obtain ⟨hfirst, hfree, hhead⟩ := hthings first List.mem_cons_self
  have hcell : enumerated comma blank (first :: rest) =
      first ++ rest.flatMap fun thing => comma :: blank :: thing := by
    rw [enumerated, List.foldl_cons, enumerate, if_pos rfl, List.nil_append, foldl_enumerate hfirst]
  rw [items, hcell, hrest rest
    (fun thing hthing => (hthings thing (List.mem_cons_of_mem first hthing)).2.1) first hfree,
    List.map_cons, if_neg hhead, List.map_map]
  congr 1
  exact (List.map_congr_left fun thing _ => by simp).trans (List.map_id rest)

end Items

end BarTable
