import Mathlib.Data.List.Pairwise

/-!
# Tables with keys

A table is a list of rows together with what its schema demands: every row passes the
checks of its columns, and no two rows share a key. Primary keys, unique constraints and
partial unique indexes are all of the second kind, so one relation between rows stands for
all keys of a table. A statement computes the rows the table would have; if they break the
schema, the statement fails and the table stays as it was.

## Main definitions

* `StoreProgram.Schema`: the demands of a table on its rows.
* `StoreProgram.Table`: rows that meet them.
* `StoreProgram.Table.write`: the table with the given rows, if the schema allows them.
* `StoreProgram.Table.insert`, `StoreProgram.Table.insertUnless`, `StoreProgram.Table.upsert`,
  `StoreProgram.Table.updateWhere`, `StoreProgram.Table.deleteWhere`: the statements.

## Main results

* `StoreProgram.Table.eq_of_clash`: rows that share a key are one row.
* `StoreProgram.Table.keeps_mem_of_upsert`, `StoreProgram.Table.keeps_mem_of_updateWhere`:
  a statement keeps each row up to its change of it.
-/

namespace StoreProgram

/-- What a table demands of its rows: `check` of each row by itself, and that no two rows
`clash`, that is, share a key. -/
class Schema (Row : Type) where
  check : Row → Bool
  clash : Row → Row → Bool
  clash_symm : ∀ a b, clash a b = true → clash b a = true

/-- The rows of a table, all of them passing its checks, no two of them sharing a key. -/
structure Table (Row : Type) [Schema Row] where
  rows : List Row
  checked : ∀ row ∈ rows, Schema.check row
  distinct : rows.Pairwise fun a b => ¬ Schema.clash a b

namespace Table

variable {Row : Type} [Schema Row]

/-- A table with no rows. -/
def empty : Table Row := ⟨[], by simp, .nil⟩

/-- The table with these rows, unless they break the schema. -/
def write (rows : List Row) : Option (Table Row) :=
  if h : (∀ row ∈ rows, Schema.check row) ∧ rows.Pairwise fun a b => ¬ Schema.clash a b then
    some ⟨rows, h.1, h.2⟩
  else none

/-- `INSERT`: fails when the row breaks a check or shares a key with a stored one. -/
def insert (row : Row) (table : Table Row) : Option (Table Row) :=
  write (table.rows ++ [row])

/-- `INSERT … ON CONFLICT … DO NOTHING`: a stored row that is a `conflict` leaves the table
as it was, and then no row is affected. Any other conflict still fails. PostgreSQL looks at the
checks of the new row before it looks for a conflict, so where there are both it fails; here the
conflict is taken first. -/
def insertUnless (conflict : Row → Bool) (row : Row) (table : Table Row) :
    Option (Bool × Table Row) :=
  if table.rows.any conflict then some (false, table)
  else (table.insert row).map fun table => (true, table)

/-- `UPDATE … SET … WHERE …`. -/
def updateWhere (chosen : Row → Bool) (change : Row → Row) (table : Table Row) :
    Option (Table Row) :=
  write (table.rows.map fun row => if chosen row then change row else row)

/-- `INSERT … ON CONFLICT … DO UPDATE SET …`. The checks of a new row that conflicts are left out
here too. -/
def upsert (conflict : Row → Bool) (change : Row → Row) (row : Row) (table : Table Row) :
    Option (Table Row) :=
  if table.rows.any conflict then table.updateWhere conflict change else table.insert row

/-- `DELETE … WHERE …`. -/
def deleteWhere (chosen : Row → Bool) (table : Table Row) : Table Row where
  rows := table.rows.filter fun row => !chosen row
  checked row hrow := table.checked row (List.mem_filter.1 hrow).1
  distinct := table.distinct.sublist List.filter_sublist

/-- The first row of the kind asked for. -/
def find? (wanted : Row → Bool) (table : Table Row) : Option Row :=
  table.rows.find? wanted

@[simp] theorem rows_empty : (empty : Table Row).rows = [] := rfl

@[simp] theorem mem_deleteWhere {chosen : Row → Bool} {table : Table Row} {row : Row} :
    row ∈ (table.deleteWhere chosen).rows ↔ row ∈ table.rows ∧ chosen row = false := by
  simp [deleteWhere]

theorem eq_iff_rows {table table' : Table Row} : table' = table ↔ table'.rows = table.rows := by
  cases table
  cases table'
  simp

theorem rows_of_write {rows : List Row} {table : Table Row} (h : write rows = some table) :
    table.rows = rows := by
  unfold write at h
  split at h
  · exact (Option.some.inj h) ▸ rfl
  · cases h

theorem rows_of_insert {row : Row} {table table' : Table Row}
    (h : table.insert row = some table') : table'.rows = table.rows ++ [row] :=
  rows_of_write h

theorem rows_of_updateWhere {chosen : Row → Bool} {change : Row → Row}
    {table table' : Table Row} (h : table.updateWhere chosen change = some table') :
    table'.rows = table.rows.map fun row => if chosen row then change row else row :=
  rows_of_write h

theorem mem_of_find? {wanted : Row → Bool} {table : Table Row} {row : Row}
    (h : table.find? wanted = some row) : row ∈ table.rows :=
  List.mem_of_find?_eq_some h

theorem wanted_of_find? {wanted : Row → Bool} {table : Table Row} {row : Row}
    (h : table.find? wanted = some row) : wanted row = true :=
  List.find?_some h

/-! ### When a statement succeeds -/

section Succeeds

variable {chosen conflict : Row → Bool} {change : Row → Row} {table : Table Row}

/-- An insert of a row that passes the checks and shares no key. -/
theorem exists_insert {row : Row} (hcheck : Schema.check row = true)
    (hkeys : ∀ stored ∈ table.rows, Schema.clash stored row = false) :
    ∃ table', table.insert row = some table' := by
  refine ⟨_, dif_pos ⟨fun other hother => ?_, ?_⟩⟩
  · rcases List.mem_append.1 hother with hstored | hrow
    · exact table.checked other hstored
    · rw [List.mem_singleton.1 hrow]
      exact hcheck
  · refine List.pairwise_append.2 ⟨table.distinct, List.pairwise_singleton _ _, ?_⟩
    intro stored hstored other hother hclash
    rw [List.mem_singleton.1 hother, hkeys stored hstored] at hclash
    cases hclash

/-- An update whose changed rows pass the checks and which makes no two rows share a key. -/
theorem exists_updateWhere
    (hcheck : ∀ row ∈ table.rows, chosen row = true → Schema.check (change row) = true)
    (hkeys : ∀ a b, Schema.clash (if chosen a then change a else a)
      (if chosen b then change b else b) = true → Schema.clash a b = true) :
    ∃ table', table.updateWhere chosen change = some table' := by
  refine ⟨_, dif_pos ⟨fun row hrow => ?_, ?_⟩⟩
  · obtain ⟨stored, hstored, rfl⟩ := List.mem_map.1 hrow
    split
    · rename_i hchosen
      exact hcheck stored hstored hchosen
    · exact table.checked stored hstored
  · rw [List.pairwise_map]
    exact table.distinct.imp fun hdistinct hclash => hdistinct (hkeys _ _ hclash)

/-- An upsert succeeds where the statement it turns out to be does. -/
theorem exists_upsert {row : Row}
    (hcheck : ∀ stored ∈ table.rows, conflict stored = true → Schema.check (change stored) = true)
    (hkeys : ∀ a b, Schema.clash (if conflict a then change a else a)
      (if conflict b then change b else b) = true → Schema.clash a b = true)
    (hrow : (∀ stored ∈ table.rows, conflict stored = false) → Schema.check row = true ∧
      ∀ stored ∈ table.rows, Schema.clash stored row = false) :
    ∃ table', table.upsert conflict change row = some table' := by
  unfold upsert
  split
  · exact exists_updateWhere hcheck hkeys
  · rename_i hnone
    have habsent : ∀ stored ∈ table.rows, conflict stored = false := fun stored hstored =>
      Bool.eq_false_iff.2 fun hconflict => hnone (List.any_eq_true.2 ⟨stored, hstored, hconflict⟩)
    obtain ⟨hcheckRow, hclash⟩ := hrow habsent
    exact exists_insert hcheckRow hclash

end Succeeds

/-! ### What a lookup finds after a statement -/

section Find

variable {wanted : Row → Bool} {table table' : Table Row}

theorem find?_insert {row : Row} (h : table.insert row = some table') :
    table'.find? wanted = (table.find? wanted).or (if wanted row then some row else none) := by
  rw [find?, rows_of_insert h, List.find?_append]
  cases hrow : wanted row <;> simp [find?, hrow]

/-- An update that leaves it open whether a row is wanted changes the row that is found. -/
theorem find?_updateWhere {chosen : Row → Bool} {change : Row → Row}
    (h : table.updateWhere chosen change = some table')
    (hsame : ∀ row, chosen row = true → wanted (change row) = wanted row) :
    table'.find? wanted =
      (table.find? wanted).map fun row => if chosen row then change row else row := by
  have hwanted : ∀ row, wanted (if chosen row then change row else row) = wanted row := by
    intro row
    split
    · rename_i hchosen
      exact hsame row hchosen
    · rfl
  rw [find?, rows_of_updateWhere h, List.find?_map]
  have hcomp : (wanted ∘ fun row => if chosen row then change row else row) = wanted :=
    funext hwanted
  rw [hcomp, find?]

theorem find?_deleteWhere_other {chosen : Row → Bool}
    (hother : ∀ row, wanted row = true → chosen row = false) :
    (table.deleteWhere chosen).find? wanted = table.find? wanted := by
  rw [find?, deleteWhere, List.find?_filter, find?]
  congr 1
  funext row
  cases hwanted : wanted row with
  | true => simp [hother row hwanted]
  | false => simp

@[simp] theorem find?_deleteWhere_self : (table.deleteWhere wanted).find? wanted = none := by
  simp [find?, deleteWhere]

end Find

/-- Two stored rows that share a key are the same row. -/
theorem eq_of_clash (table : Table Row) {a b : Row} (ha : a ∈ table.rows)
    (hb : b ∈ table.rows) (h : Schema.clash a b) : a = b := by
  by_contra hne
  have apart : Std.Symm fun c d : Row => ¬ Schema.clash c d :=
    ⟨fun c d hcd hdc => hcd (Schema.clash_symm d c hdc)⟩
  exact table.distinct.forall ha hb hne h

/-- Where the wanted rows share a key, there is at most one of them. -/
theorem length_filter_le_one (table : Table Row) (wanted : Row → Bool)
    (hkey : ∀ a b, wanted a = true → wanted b = true → Schema.clash a b = true) :
    (table.rows.filter wanted).length ≤ 1 := by
  have hdistinct := table.distinct.filter wanted
  rcases hrows : table.rows.filter wanted with _ | ⟨a, _ | ⟨b, rest⟩⟩
  · exact Nat.zero_le 1
  · exact Nat.le_refl 1
  · have hwanted : ∀ row ∈ table.rows.filter wanted, wanted row = true := fun row hrow =>
      (List.mem_filter.1 hrow).2
    rw [hrows] at hdistinct hwanted
    have hclash := hkey a b (hwanted a (by simp)) (hwanted b (by simp))
    exact absurd hclash (List.rel_of_pairwise_cons hdistinct List.mem_cons_self)

/-- Where the wanted rows share a key, a lookup finds the one that is there. -/
theorem find?_eq_some_iff {wanted : Row → Bool} {table : Table Row} {row : Row}
    (hkey : ∀ a b, wanted a = true → wanted b = true → Schema.clash a b = true) :
    table.find? wanted = some row ↔ row ∈ table.rows ∧ wanted row = true := by
  refine ⟨fun h => ⟨mem_of_find? h, wanted_of_find? h⟩, fun ⟨hmem, hwanted⟩ => ?_⟩
  obtain ⟨found, hfound⟩ := Option.isSome_iff_exists.1
    (List.find?_isSome.2 ⟨row, hmem, hwanted⟩)
  have hclash := hkey found row (List.find?_some hfound) hwanted
  obtain rfl := table.eq_of_clash (List.mem_of_find?_eq_some hfound) hmem hclash
  exact hfound

theorem mem_insert {row : Row} {table table' : Table Row}
    (h : table.insert row = some table') (other : Row) :
    other ∈ table'.rows ↔ other ∈ table.rows ∨ other = row := by
  rw [rows_of_insert h]
  simp

theorem insert_eq_none_of_clash {row stored : Row} {table : Table Row}
    (hstored : stored ∈ table.rows) (h : Schema.clash stored row = true) :
    table.insert row = none := by
  refine dif_neg fun hwrite => ?_
  exact (List.pairwise_append.1 hwrite.2).2.2 stored hstored row (List.mem_singleton_self row) h

/-- An insert that leaves a conflict alone does nothing or inserts, by whether there is one. -/
theorem insertUnless_cases {conflict : Row → Bool} {row : Row} {table table' : Table Row}
    {isNew : Bool} (h : table.insertUnless conflict row = some (isNew, table')) :
    (isNew = false ∧ (∃ stored ∈ table.rows, conflict stored = true) ∧ table' = table) ∨
      (isNew = true ∧ (∀ stored ∈ table.rows, conflict stored = false) ∧
        table.insert row = some table') := by
  unfold insertUnless at h
  split at h
  · rename_i hany
    obtain ⟨rfl, rfl⟩ := Prod.mk.inj (Option.some.inj h)
    exact Or.inl ⟨rfl, List.any_eq_true.1 hany, rfl⟩
  · rename_i hnone
    obtain ⟨inserted, hinserted, hsame⟩ := Option.map_eq_some_iff.1 h
    obtain ⟨rfl, rfl⟩ := Prod.mk.inj hsame
    refine Or.inr ⟨rfl, fun stored hstored => ?_, hinserted⟩
    exact Bool.eq_false_iff.2 fun hconflict =>
      hnone (List.any_eq_true.2 ⟨stored, hstored, hconflict⟩)

theorem insert_of_insertUnless {conflict : Row → Bool} {row : Row} {table table' : Table Row}
    (h : table.insertUnless conflict row = some (true, table')) :
    table.insert row = some table' := by
  rcases insertUnless_cases h with ⟨hfalse, -⟩ | ⟨-, -, hinsert⟩
  · cases hfalse
  · exact hinsert

theorem keeps_mem_of_updateWhere {chosen : Row → Bool} {change : Row → Row}
    {table table' : Table Row} (h : table.updateWhere chosen change = some table') {row : Row}
    (hrow : row ∈ table.rows) :
    (if chosen row then change row else row) ∈ table'.rows := by
  rw [rows_of_updateWhere h]
  exact List.mem_map_of_mem hrow

theorem mem_updateWhere {chosen : Row → Bool} {change : Row → Row}
    {table table' : Table Row} (h : table.updateWhere chosen change = some table') (other : Row) :
    other ∈ table'.rows ↔
      ∃ row ∈ table.rows, other = if chosen row then change row else row := by
  rw [rows_of_updateWhere h, List.mem_map]
  simp only [eq_comm]

/-- An upsert is one of two statements, by whether there is a row to change. -/
theorem upsert_cases {conflict : Row → Bool} {change : Row → Row} {row : Row}
    {table table' : Table Row} (h : table.upsert conflict change row = some table') :
    ((∃ stored ∈ table.rows, conflict stored = true) ∧
        table.updateWhere conflict change = some table') ∨
      ((∀ stored ∈ table.rows, conflict stored = false) ∧ table.insert row = some table') := by
  unfold upsert at h
  split at h
  · rename_i hany
    obtain ⟨stored, hstored, hconflict⟩ := List.any_eq_true.1 hany
    exact Or.inl ⟨⟨stored, hstored, hconflict⟩, h⟩
  · rename_i hnone
    refine Or.inr ⟨fun stored hstored => ?_, h⟩
    exact Bool.eq_false_iff.2 fun hconflict =>
      hnone (List.any_eq_true.2 ⟨stored, hstored, hconflict⟩)

/-- An upsert leaves the table as it was exactly if there is a row to change and the change of it
is none. -/
theorem upsert_eq_self_iff {conflict : Row → Bool} {change : Row → Row} {row : Row}
    {table table' : Table Row} (h : table.upsert conflict change row = some table') :
    table' = table ↔ (∃ stored ∈ table.rows, conflict stored = true) ∧
      ∀ stored ∈ table.rows, conflict stored = true → change stored = stored := by
  rw [eq_iff_rows]
  rcases upsert_cases h with ⟨hany, hupdate⟩ | ⟨hnone, hinsert⟩
  · have hmap := List.map_inj_left (l := table.rows) (g := fun stored => stored)
      (f := fun stored => if conflict stored then change stored else stored)
    rw [List.map_id'] at hmap
    rw [rows_of_updateWhere hupdate, hmap, and_iff_right hany]
    refine forall₂_congr fun stored _ => ?_
    cases conflict stored <;> simp
  · rw [rows_of_insert hinsert]
    constructor
    · intro hsame
      have hlength := congrArg List.length hsame
      simp at hlength
    · rintro ⟨⟨stored, hstored, hconflict⟩, -⟩
      rw [hnone stored hstored] at hconflict
      cases hconflict

theorem keeps_mem_of_upsert {conflict : Row → Bool} {change : Row → Row} {row : Row}
    {table table' : Table Row} (h : table.upsert conflict change row = some table') {stored : Row}
    (hstored : stored ∈ table.rows) :
    (if conflict stored then change stored else stored) ∈ table'.rows := by
  rcases upsert_cases h with ⟨-, hupdate⟩ | ⟨hnone, hinsert⟩
  · exact keeps_mem_of_updateWhere hupdate hstored
  · rw [hnone stored hstored, if_neg Bool.false_ne_true]
    exact (mem_insert hinsert stored).2 (Or.inl hstored)

/-- An upsert of the row that is looked for: it is there, changed or new. -/
theorem find?_upsert_self {conflict : Row → Bool} {change : Row → Row} {row : Row}
    {table table' : Table Row} (h : table.upsert conflict change row = some table')
    (hrow : conflict row = true)
    (hsame : ∀ row, conflict row = true → conflict (change row) = true) :
    table'.find? conflict = some (((table.find? conflict).map change).getD row) := by
  rcases upsert_cases h with ⟨⟨stored, hstored, hconflict⟩, hupdate⟩ | ⟨hnone, hinsert⟩
  · obtain ⟨found, hfound⟩ : ∃ found, table.find? conflict = some found :=
      Option.isSome_iff_exists.1 (List.find?_isSome.2 ⟨stored, hstored, hconflict⟩)
    rw [find?_updateWhere hupdate (fun row hchosen => by rw [hsame row hchosen, hchosen]), hfound]
    simp [wanted_of_find? hfound]
  · have hnotFound : table.find? conflict = none := by
      refine List.find?_eq_none.2 fun stored hstored => ?_
      rw [hnone stored hstored]
      exact Bool.false_ne_true
    rw [find?_insert hinsert, hnotFound]
    simp [hrow]

/-- An upsert of another row changes nothing about the row that is looked for. -/
theorem find?_upsert_other {wanted conflict : Row → Bool} {change : Row → Row} {row : Row}
    {table table' : Table Row} (h : table.upsert conflict change row = some table')
    (hrow : wanted row = false)
    (hother : ∀ row, conflict row = true → wanted row = false ∧ wanted (change row) = false) :
    table'.find? wanted = table.find? wanted := by
  rcases upsert_cases h with ⟨-, hupdate⟩ | ⟨-, hinsert⟩
  · rw [find?_updateWhere hupdate
      (fun row hchosen => by rw [(hother row hchosen).1, (hother row hchosen).2])]
    cases hfound : table.find? wanted with
    | none => rfl
    | some found =>
      have hnot : conflict found = false := by
        refine Bool.eq_false_iff.2 fun hconflict => ?_
        have hwanted := wanted_of_find? hfound
        rw [(hother found hconflict).1] at hwanted
        cases hwanted
      simp [hnot]
  · rw [find?_insert hinsert, hrow]
    simp

end Table

end StoreProgram
