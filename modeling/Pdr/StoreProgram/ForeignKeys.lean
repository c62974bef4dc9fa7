import Mathlib.Data.List.Induction
import Mathlib.Logic.Function.Basic
import Pdr.StoreProgram.Table

/-!
# Foreign keys, and a script that deletes

Several tables, of rows of different types, and the foreign keys between them. A deletion fails
when, at its end, a row that stays refers to one that went. A script deletes from one table
after another what is chosen there; if references do not leave the chosen rows and do not enter
them, whether it gets to its end depends on the order of the tables alone, and on the tables it
leaves out.

## Main definitions

* `StoreProgram.UniqueKey`, `StoreProgram.Schema.ofKeys`: a table by its check and its keys.
* `StoreProgram.ForeignKey`: what a row refers to, and `ForeignKey.Holds`.
* `StoreProgram.deleteFrom`, `StoreProgram.deleteAll`, `StoreProgram.inTransaction`
* `StoreProgram.sweep`: the tables without the chosen rows of some of them.
* `StoreProgram.ForeignKey.Late`: the order takes the row referred to before the one referring.

## Main results

* `StoreProgram.deleteAll_eq_some_iff`: when a script gets to its end, and what it leaves.
-/

namespace StoreProgram

/-! ### Keys of a row -/

/-- A key that rows do not share: a primary key, a unique constraint, or a unique index of some
of the rows. A row without the key, such as one with a null in it, shares it with none. -/
structure UniqueKey (Row : Type) where
  Key : Type
  [decidable : DecidableEq Key]
  of : Row → Option Key

namespace UniqueKey

variable {R : Type}

instance (key : UniqueKey R) : DecidableEq key.Key := key.decidable

/-- A key that every row has. -/
def total {K : Type} [DecidableEq K] (of : R → K) : UniqueKey R := ⟨K, fun row => some (of row)⟩

/-- A key of the rows that meet a condition. -/
def onlyWhere {K : Type} [DecidableEq K] (condition : R → Bool) (of : R → K) : UniqueKey R :=
  ⟨K, fun row => if condition row then some (of row) else none⟩

/-- Two rows share the key. -/
def shared (key : UniqueKey R) (a b : R) : Bool := (key.of a).isSome && key.of a = key.of b

theorem shared_symm {key : UniqueKey R} {a b : R} (h : key.shared a b = true) :
    key.shared b a = true := by
  simp only [shared, Bool.and_eq_true, decide_eq_true_eq] at h ⊢
  exact ⟨h.2 ▸ h.1, h.2.symm⟩

end UniqueKey

/-- The schema of a table by the check of its columns and its keys. -/
@[reducible] def Schema.ofKeys {R : Type} (check : R → Bool) (keys : List (UniqueKey R)) :
    Schema R where
  check := check
  clash a b := keys.any fun key => key.shared a b
  clash_symm a b h := by
    obtain ⟨key, hkey, hshared⟩ := List.any_eq_true.1 h
    exact List.any_eq_true.2 ⟨key, hkey, UniqueKey.shared_symm hshared⟩

/-! ### References between tables -/

variable {ι : Type} {Row : ι → Type} [∀ table, Schema (Row table)]

/-- The tables of a database, by their names. -/
abbrev Tables (Row : ι → Type) [∀ table, Schema (Row table)] : Type := ∀ table, Table (Row table)

/-- A foreign key. A row of `child` refers to the row of `parent` that has the key, or to none
where a column of the key is null. -/
structure ForeignKey (Row : ι → Type) where
  child : ι
  parent : ι
  Key : Type
  [decidable : DecidableEq Key]
  refers : Row child → Option Key
  names : Row parent → Key

namespace ForeignKey

instance (key : ForeignKey Row) : DecidableEq key.Key := key.decidable

/-- Every row refers to one that is there. -/
def Holds (key : ForeignKey Row) (tables : Tables Row) : Prop :=
  ∀ row ∈ (tables key.child).rows, ∀ value ∈ key.refers row,
    ∃ named ∈ (tables key.parent).rows, key.names named = value

instance (key : ForeignKey Row) (tables : Tables Row) : Decidable (key.Holds tables) :=
  inferInstanceAs (Decidable (∀ row ∈ (tables key.child).rows, ∀ value ∈ key.refers row,
    ∃ named ∈ (tables key.parent).rows, key.names named = value))

end ForeignKey

/-! ### Statements -/

variable [DecidableEq ι]

/-- `DELETE FROM table WHERE chosen`. The keys to the table are looked at when the statement
ends. -/
def deleteFrom (keys : List (ForeignKey Row)) (table : ι) (chosen : Row table → Bool)
    (tables : Tables Row) : Option (Tables Row) :=
  let after := Function.update tables table ((tables table).deleteWhere chosen)
  if ∀ key ∈ keys, key.parent = table → key.Holds after then some after else none

/-- A deletion from each of the tables, in order. The first that fails is the last. -/
def deleteAll (keys : List (ForeignKey Row)) (chosen : ∀ table, Row table → Bool)
    (order : List ι) (tables : Tables Row) : Option (Tables Row) :=
  order.foldlM (fun tables table => deleteFrom keys table (chosen table) tables) tables

/-- Statements in one transaction: whether they were committed, and the tables after it. -/
def inTransaction (statements : Tables Row → Option (Tables Row)) (tables : Tables Row) :
    Bool × Tables Row :=
  match statements tables with
  | some after => (true, after)
  | none => (false, tables)

/-! ### What a script leaves -/

/-- The tables without the chosen rows of those in `order`. -/
def sweep (chosen : ∀ table, Row table → Bool) (order : List ι) (tables : Tables Row) :
    Tables Row :=
  fun table => if table ∈ order then (tables table).deleteWhere (chosen table) else tables table

theorem Table.deleteWhere_deleteWhere {R : Type} [Schema R] (chosen : R → Bool)
    (table : Table R) :
    (table.deleteWhere chosen).deleteWhere chosen = table.deleteWhere chosen := by
  simp [Table.deleteWhere]

variable {keys : List (ForeignKey Row)} {chosen : ∀ table, Row table → Bool} {order : List ι}
  {tables after : Tables Row}

@[simp] theorem sweep_nil : sweep chosen [] tables = tables := by
  funext table
  simp [sweep]

theorem mem_sweep {table : ι} {row : Row table} :
    row ∈ (sweep chosen order tables table).rows ↔
      row ∈ (tables table).rows ∧ (table ∈ order → chosen table row = false) := by
  by_cases hmem : table ∈ order
  · simp [sweep, hmem, Table.deleteWhere]
  · simp [sweep, hmem]

theorem sweep_of_notMem {table : ι} (h : table ∉ order) :
    sweep chosen order tables table = tables table := if_neg h

theorem filter_sweep (table : ι) :
    (sweep chosen order tables table).rows.filter (!chosen table ·) =
      (tables table).rows.filter (!chosen table ·) := by
  by_cases hmem : table ∈ order
  · simp [sweep, hmem, Table.deleteWhere]
  · rw [sweep_of_notMem hmem]

/-- Sweeping one more table. -/
theorem sweep_concat (table : ι) :
    Function.update (sweep chosen order tables) table
      ((sweep chosen order tables table).deleteWhere (chosen table)) =
        sweep chosen (order ++ [table]) tables := by
  funext other
  by_cases hother : other = table
  · subst hother
    rw [Function.update_self]
    by_cases hmem : other ∈ order
    · simp [sweep, hmem, Table.deleteWhere_deleteWhere]
    · simp [sweep, hmem]
  · rw [Function.update_of_ne hother]
    simp [sweep, hother]

/-! ### When a script gets to its end -/

namespace ForeignKey

/-- A row and the one it refers to are chosen together. -/
def Together (chosen : ∀ table, Row table → Bool) (key : ForeignKey Row) : Prop :=
  ∀ row named, key.refers row = some (key.names named) →
    chosen key.child row = chosen key.parent named

/-- No chosen row refers to anything by the key. -/
def Quiet (chosen : ∀ table, Row table → Bool) (tables : Tables Row) (key : ForeignKey Row) :
    Prop :=
  ∀ row ∈ (tables key.child).rows, chosen key.child row = true → key.refers row = none

/-- Of the two tables of the key, the order has the one referred to first. -/
def Late (order : List ι) (key : ForeignKey Row) : Prop :=
  key.child ≠ key.parent ∧
    order.find? (fun table => table = key.child || table = key.parent) = some key.parent

instance (key : ForeignKey Row) : Decidable (key.Late order) :=
  inferInstanceAs (Decidable (_ ∧ _))

variable {key : ForeignKey Row}

/-- Sweeping keeps a key to a swept table exactly when the referring table is swept too, or
nothing chosen there refers to anything. -/
theorem holds_sweep_iff (hholds : key.Holds tables) (htogether : key.Together chosen)
    (hparent : key.parent ∈ order) :
    key.Holds (sweep chosen order tables) ↔ key.child ∈ order ∨ key.Quiet chosen tables := by
  constructor
  · intro hafter
    by_cases hchild : key.child ∈ order
    · exact Or.inl hchild
    · refine Or.inr fun row hrow hchosen => ?_
      refine Option.eq_none_iff_forall_ne_some.2 fun value hvalue => ?_
      obtain ⟨named, hnamed, rfl⟩ := hafter row (mem_sweep.2 ⟨hrow, fun h => absurd h hchild⟩)
        value hvalue
      have hstays : chosen key.parent named = false := (mem_sweep.1 hnamed).2 hparent
      rw [htogether row named hvalue, hstays] at hchosen
      cases hchosen
  · intro hsafe row hrow value hvalue
    obtain ⟨hstored, hstays⟩ := mem_sweep.1 hrow
    obtain ⟨named, hnamed, rfl⟩ := hholds row hstored value hvalue
    refine ⟨named, mem_sweep.2 ⟨hnamed, fun _ => ?_⟩, rfl⟩
    rw [← htogether row named hvalue]
    rcases hsafe with hchild | hquiet
    · exact hstays hchild
    · refine Bool.eq_false_iff.2 fun hchosen => ?_
      rw [hquiet row hstored hchosen] at hvalue
      cases hvalue

omit [∀ table, Schema (Row table)] in
/-- One more table makes late the keys to it from tables that are not before it. -/
theorem late_concat (table : ι) :
    key.Late (order ++ [table]) ↔
      key.Late order ∨ (key.parent = table ∧ key.child ∉ order ++ [table]) := by
  unfold Late
  rw [List.find?_append]
  cases hfound : order.find? (fun table => table = key.child || table = key.parent) with
  | some found =>
    have hmem : found ∈ order := List.mem_of_find?_eq_some hfound
    have hfirst : found = key.child ∨ found = key.parent := by
      simpa using List.find?_some hfound
    rw [Option.some_or]
    refine ⟨Or.inl, fun h => h.elim id fun ⟨hparent, hchild⟩ => ?_⟩
    have hneither : key.child ∉ order ∧ key.child ≠ table := by simpa using hchild
    rcases hfirst with rfl | rfl
    · exact absurd hmem hneither.1
    · exact ⟨fun hsame => hneither.2 (hsame.trans hparent), rfl⟩
  | none =>
    have hneither : ∀ other ∈ order, ¬ other = key.child ∧ ¬ other = key.parent := by
      simpa using hfound
    have hchild : key.child ∉ order := fun h => (hneither _ h).1 rfl
    rw [Option.none_or, List.find?_singleton]
    by_cases htable : key.parent = table
    · subst htable
      simp [hchild]
    · have hother : ¬ table = key.parent := fun h => htable h.symm
      simp [htable, hother]

end ForeignKey

/-- One statement of a script, after the tables in `order` were swept. -/
theorem deleteFrom_sweep_eq_some_iff (hholds : ∀ key ∈ keys, key.Holds tables)
    (htogether : ∀ key ∈ keys, key.Together chosen) (table : ι) :
    deleteFrom keys table (chosen table) (sweep chosen order tables) = some after ↔
      (∀ key ∈ keys, key.parent = table →
        key.child ∈ order ++ [table] ∨ key.Quiet chosen tables) ∧
      after = sweep chosen (order ++ [table]) tables := by
  have hkeys : (∀ key ∈ keys, key.parent = table →
      key.Holds (sweep chosen (order ++ [table]) tables)) ↔
        ∀ key ∈ keys, key.parent = table →
          key.child ∈ order ++ [table] ∨ key.Quiet chosen tables := by
    refine forall₂_congr fun key hkey => forall_congr' fun hparent => ?_
    exact ForeignKey.holds_sweep_iff (hholds key hkey) (htogether key hkey) (by simp [hparent])
  simp only [deleteFrom, sweep_concat, hkeys, Option.ite_none_right_eq_some, Option.some.injEq]
  exact and_congr_right fun _ => eq_comm

/-- **A script gets to its end** exactly when no chosen row refers to anything by a late key, and
then it leaves the tables without the chosen rows. -/
theorem deleteAll_eq_some_iff (hholds : ∀ key ∈ keys, key.Holds tables)
    (htogether : ∀ key ∈ keys, key.Together chosen) :
    deleteAll keys chosen order tables = some after ↔
      (∀ key ∈ keys, key.Late order → key.Quiet chosen tables) ∧
      after = sweep chosen order tables := by
  induction order using List.reverseRec generalizing after with
  | nil => simp [deleteAll, ForeignKey.Late, eq_comm]
  | append_singleton order table ih =>
    have hsnoc : deleteAll keys chosen (order ++ [table]) tables = some after ↔
        ∃ middle, deleteAll keys chosen order tables = some middle ∧
          deleteFrom keys table (chosen table) middle = some after := by
      simp [deleteAll, List.foldlM_append, Option.bind_eq_some_iff]
    have hlate : (∀ key ∈ keys, key.Late (order ++ [table]) → key.Quiet chosen tables) ↔
        (∀ key ∈ keys, key.Late order → key.Quiet chosen tables) ∧
        ∀ key ∈ keys, key.parent = table →
          key.child ∈ order ++ [table] ∨ key.Quiet chosen tables := by
      simp only [ForeignKey.late_concat]
      refine ⟨fun h => ⟨fun key hkey hlate => h key hkey (Or.inl hlate), ?_⟩, ?_⟩
      · intro key hkey hparent
        by_cases hchild : key.child ∈ order ++ [table]
        · exact Or.inl hchild
        · exact Or.inr (h key hkey (Or.inr ⟨hparent, hchild⟩))
      · rintro ⟨hbefore, hstep⟩ key hkey (hlate | ⟨hparent, hchild⟩)
        · exact hbefore key hkey hlate
        · exact (hstep key hkey hparent).resolve_left hchild
    rw [hsnoc, hlate]
    constructor
    · rintro ⟨middle, hmiddle, hlast⟩
      obtain ⟨hbefore, rfl⟩ := ih.1 hmiddle
      obtain ⟨hstep, rfl⟩ := (deleteFrom_sweep_eq_some_iff hholds htogether table).1 hlast
      exact ⟨⟨hbefore, hstep⟩, rfl⟩
    · rintro ⟨⟨hbefore, hstep⟩, rfl⟩
      exact ⟨_, ih.2 ⟨hbefore, rfl⟩,
        (deleteFrom_sweep_eq_some_iff hholds htogether table).2 ⟨hstep, rfl⟩⟩

end StoreProgram
