import Pdr.StoreProgram.Table

/-!
# Row security

A policy says, row by row, what a session may do with a table: which rows it sees, and which
rows it may leave there. A statement of the session reads, changes and deletes rows it sees
and no others; a statement that would leave behind a row that the policy does not take is
rejected as a whole. Checks and keys go on as before, and keys are compared with the rows the
session does not see too.

## Main definitions

* `StoreProgram.RowPolicy`, with `StoreProgram.RowPolicy.isolation`: everything that one owner
  has and nothing else.
* `StoreProgram.Table.seen`: the rows a query of the session works on.
* `StoreProgram.Table.insertUnder`, `StoreProgram.Table.insertUnlessUnder`,
  `StoreProgram.Table.updateUnder`, `StoreProgram.Table.upsertUnder`,
  `StoreProgram.Table.deleteUnder`: the statements of the session.
* `StoreProgram.Table.SameBeyond`: two tables differ in the rows of one kind only.

## Main results

* `StoreProgram.Table.sameBeyond_of_insertUnder` and its siblings: a statement changes rows
  that the policy is about, and no others.
* `StoreProgram.Table.insertUnder_of_takes` and its siblings: where the policy has nothing
  against it, a statement of the session is the plain one.
-/

namespace StoreProgram

/-- What a session may do with the rows of a table. -/
structure RowPolicy (Row : Type) where
  /-- `USING`: the rows the session reads, changes and deletes. -/
  sees : Row → Bool
  /-- `WITH CHECK`: the rows it may leave behind. -/
  takes : Row → Bool

/-- The policy that lets a session have the rows of one owner. -/
def RowPolicy.isolation {Row Owner : Type} [DecidableEq Owner] (ownerOf : Row → Owner)
    (owner : Owner) : RowPolicy Row where
  sees row := ownerOf row = owner
  takes row := ownerOf row = owner

@[simp] theorem RowPolicy.isolation_sees {Row Owner : Type} [DecidableEq Owner]
    (ownerOf : Row → Owner) (owner : Owner) (row : Row) :
    (isolation ownerOf owner).sees row = decide (ownerOf row = owner) := rfl

@[simp] theorem RowPolicy.isolation_takes {Row Owner : Type} [DecidableEq Owner]
    (ownerOf : Row → Owner) (owner : Owner) (row : Row) :
    (isolation ownerOf owner).takes row = decide (ownerOf row = owner) := rfl

/-- The policy is about rows of one kind: no others are seen, and no others are left. -/
structure RowPolicy.IsAbout {Row : Type} (policy : RowPolicy Row) (own : Row → Bool) : Prop where
  sees : ∀ row, policy.sees row = true → own row = true
  takes : ∀ row, policy.takes row = true → own row = true

theorem RowPolicy.isAbout_isolation {Row Owner : Type} [DecidableEq Owner] (ownerOf : Row → Owner)
    (owner : Owner) : (isolation ownerOf owner).IsAbout fun row => ownerOf row = owner :=
  ⟨fun _ h => h, fun _ h => h⟩

/-- Why a statement left everything as it was. -/
inductive Rejection where
  | byPolicy
  | bySchema
deriving DecidableEq, Repr

/-- A statement that is up to the checks and the keys. -/
def Rejection.orSchema {α : Type} : Option α → Except Rejection α
  | some value => .ok value
  | none => .error .bySchema

@[simp] theorem Rejection.orSchema_eq_ok {α : Type} {outcome : Option α} {value : α} :
    Rejection.orSchema outcome = .ok value ↔ outcome = some value := by
  cases outcome <;> simp [orSchema]

@[simp] theorem Rejection.orSchema_ne_byPolicy {α : Type} {outcome : Option α} :
    Rejection.orSchema outcome ≠ .error .byPolicy := by
  cases outcome <;> simp [orSchema]

namespace Table

variable {Row : Type} [Schema Row] (policy : RowPolicy Row)

/-! ### The statements of a session -/

/-- What a query of the session works on. -/
def seen (table : Table Row) : List Row := table.rows.filter policy.sees

/-- `INSERT` of the session. -/
def insertUnder (row : Row) (table : Table Row) : Except Rejection (Table Row) :=
  if policy.takes row then Rejection.orSchema (table.insert row) else .error .byPolicy

/-- The new row is held against the policy before any conflict is looked for. -/
def insertUnlessUnder (conflict : Row → Bool) (row : Row) (table : Table Row) :
    Except Rejection (Bool × Table Row) :=
  if policy.takes row then Rejection.orSchema (table.insertUnless conflict row)
  else .error .byPolicy

/-- `UPDATE` of the session: it changes what the session sees. -/
def updateUnder (chosen : Row → Bool) (change : Row → Row) (table : Table Row) :
    Except Rejection (Table Row) :=
  if (table.seen policy).all fun row => !chosen row || policy.takes (change row) then
    Rejection.orSchema (table.updateWhere (fun row => policy.sees row && chosen row) change)
  else .error .byPolicy

/-- A conflict with a row that the session does not see is a violation of the policy, not an
update that finds nothing. -/
def upsertUnder (conflict : Row → Bool) (change : Row → Row) (row : Row) (table : Table Row) :
    Except Rejection (Table Row) :=
  if policy.takes row && table.rows.all fun stored =>
      !conflict stored || (policy.sees stored && policy.takes (change stored)) then
    Rejection.orSchema (table.upsert conflict change row)
  else .error .byPolicy

/-- `DELETE` of the session. -/
def deleteUnder (chosen : Row → Bool) (table : Table Row) : Table Row :=
  table.deleteWhere fun row => policy.sees row && chosen row

/-! ### Where the policy has nothing against it -/

section Allowed

variable {policy} {chosen conflict : Row → Bool} {change : Row → Row} {row : Row}
  {table : Table Row}

theorem insertUnder_of_takes (htakes : policy.takes row = true) :
    table.insertUnder policy row = Rejection.orSchema (table.insert row) := if_pos htakes

theorem insertUnlessUnder_of_takes (htakes : policy.takes row = true) :
    table.insertUnlessUnder policy conflict row =
      Rejection.orSchema (table.insertUnless conflict row) :=
  if_pos htakes

theorem updateUnder_of_takes
    (htakes : ∀ stored, policy.sees stored = true → policy.takes (change stored) = true) :
    table.updateUnder policy chosen change =
      Rejection.orSchema (table.updateWhere (fun row => policy.sees row && chosen row) change) := by
  refine if_pos (List.all_eq_true.2 fun stored hstored => ?_)
  rw [htakes stored (List.mem_filter.1 hstored).2, Bool.or_true]

/-- An upsert of a row the session may leave, on a row it sees and may leave changed. -/
theorem upsertUnder_of_takes (htakes : policy.takes row = true)
    (hsees : ∀ stored, conflict stored = true →
      policy.sees stored = true ∧ policy.takes (change stored) = true) :
    table.upsertUnder policy conflict change row =
      Rejection.orSchema (table.upsert conflict change row) := by
  refine if_pos ?_
  rw [htakes, Bool.true_and]
  refine List.all_eq_true.2 fun stored _ => ?_
  cases hconflict : conflict stored with
  | false => rfl
  | true =>
    obtain ⟨hseen, hchanged⟩ := hsees stored hconflict
    rw [hseen, hchanged]
    rfl

theorem find?_seen {wanted wantedHere : Row → Bool}
    (hsame : ∀ stored, (policy.sees stored && wantedHere stored) = wanted stored) :
    (table.seen policy).find? wantedHere = table.find? wanted := by
  rw [seen, find?, List.find?_filter]
  congr 1
  funext stored
  rw [← hsame stored]
  simp

theorem filter_seen {wanted wantedHere : Row → Bool}
    (hsame : ∀ stored, (policy.sees stored && wantedHere stored) = wanted stored) :
    (table.seen policy).filter wantedHere = table.rows.filter wanted := by
  rw [seen, List.filter_filter]
  congr 1
  funext stored
  rw [← hsame stored, Bool.and_comm]

end Allowed

/-! ### What a statement leaves alone -/

/-- Two tables have the same rows, those of one kind apart. -/
def SameBeyond (own : Row → Bool) (before after : Table Row) : Prop :=
  before.rows.filter (fun row => !own row) = after.rows.filter fun row => !own row

@[refl] theorem SameBeyond.refl (own : Row → Bool) (table : Table Row) :
    SameBeyond own table table := rfl

theorem SameBeyond.trans {own : Row → Bool} {first second third : Table Row}
    (h : SameBeyond own first second) (h' : SameBeyond own second third) :
    SameBeyond own first third := Eq.trans h h'

/-- Two tables with the same rows beyond the kind have the same of each other kind. -/
theorem SameBeyond.filter_eq {own other : Row → Bool} {before after : Table Row}
    (h : SameBeyond own before after) (hother : ∀ row, other row = true → own row = false) :
    before.rows.filter other = after.rows.filter other := by
  have hkeep : ∀ rows : List Row,
      (rows.filter fun row => !own row).filter other = rows.filter other := by
    intro rows
    rw [List.filter_filter]
    refine List.filter_congr fun row _ => ?_
    cases hrow : other row with
    | false => rfl
    | true => rw [hother row hrow]; rfl
  calc before.rows.filter other = (before.rows.filter fun row => !own row).filter other :=
        (hkeep before.rows).symm
    _ = (after.rows.filter fun row => !own row).filter other := by rw [h]
    _ = after.rows.filter other := hkeep after.rows

section Beyond

variable {policy} {own : Row → Bool} {chosen conflict : Row → Bool} {change : Row → Row}
  {row : Row} {table table' : Table Row} (about : policy.IsAbout own)

omit [Schema Row] in
/-- Rows that are changed among the own ones, into own ones, leave the others. -/
theorem filter_map_beyond {rows : List Row}
    (hchosen : ∀ stored ∈ rows, chosen stored = true →
      own stored = true ∧ own (change stored) = true) :
    (rows.map fun stored => if chosen stored then change stored else stored).filter
      (fun stored => !own stored) = rows.filter fun stored => !own stored := by
  induction rows with
  | nil => rfl
  | cons stored rows ih =>
    have hrest := ih fun other hother => hchosen other (List.mem_cons_of_mem _ hother)
    rw [List.map_cons, List.filter_cons, List.filter_cons, hrest]
    split
    · rename_i hstored
      obtain ⟨hown, hchanged⟩ := hchosen stored List.mem_cons_self hstored
      rw [hown, hchanged]
      rfl
    · rfl

theorem sameBeyond_of_insert (hown : own row = true) (h : table.insert row = some table') :
    SameBeyond own table table' := by
  rw [SameBeyond, rows_of_insert h, List.filter_append]
  simp [hown]

theorem sameBeyond_of_updateWhere
    (hchosen : ∀ stored ∈ table.rows, chosen stored = true →
      own stored = true ∧ own (change stored) = true)
    (h : table.updateWhere chosen change = some table') : SameBeyond own table table' := by
  rw [SameBeyond, rows_of_updateWhere h, filter_map_beyond hchosen]

include about

theorem sameBeyond_of_insertUnder (h : table.insertUnder policy row = .ok table') :
    SameBeyond own table table' := by
  unfold insertUnder at h
  split at h
  · rename_i htakes
    exact sameBeyond_of_insert (about.takes row htakes) (Rejection.orSchema_eq_ok.1 h)
  · cases h

theorem sameBeyond_of_insertUnlessUnder {isNew : Bool}
    (h : table.insertUnlessUnder policy conflict row = .ok (isNew, table')) :
    SameBeyond own table table' := by
  unfold insertUnlessUnder at h
  split at h
  · rename_i htakes
    rcases insertUnless_cases (Rejection.orSchema_eq_ok.1 h) with ⟨-, -, rfl⟩ | ⟨-, -, hinsert⟩
    · rfl
    · exact sameBeyond_of_insert (about.takes row htakes) hinsert
  · cases h

theorem sameBeyond_of_updateUnder (h : table.updateUnder policy chosen change = .ok table') :
    SameBeyond own table table' := by
  unfold updateUnder at h
  split at h
  · rename_i hall
    refine sameBeyond_of_updateWhere (fun stored hstored hchosen => ?_)
      (Rejection.orSchema_eq_ok.1 h)
    obtain ⟨hsees, hwanted⟩ := Bool.and_eq_true_iff.1 hchosen
    have hallowed := List.all_eq_true.1 hall stored (List.mem_filter.2 ⟨hstored, hsees⟩)
    rw [hwanted] at hallowed
    exact ⟨about.sees stored hsees, about.takes _ hallowed⟩
  · cases h

theorem sameBeyond_of_upsertUnder (h : table.upsertUnder policy conflict change row = .ok table') :
    SameBeyond own table table' := by
  unfold upsertUnder at h
  split at h
  · rename_i hall
    obtain ⟨htakes, hstored⟩ := Bool.and_eq_true_iff.1 hall
    rcases upsert_cases (Rejection.orSchema_eq_ok.1 h) with ⟨-, hupdate⟩ | ⟨-, hinsert⟩
    · refine sameBeyond_of_updateWhere (fun stored hmem hconflict => ?_) hupdate
      have hallowed := List.all_eq_true.1 hstored stored hmem
      rw [hconflict] at hallowed
      obtain ⟨hsees, hchanged⟩ := Bool.and_eq_true_iff.1 hallowed
      exact ⟨about.sees stored hsees, about.takes _ hchanged⟩
    · exact sameBeyond_of_insert (about.takes row htakes) hinsert
  · cases h

theorem sameBeyond_of_deleteUnder : SameBeyond own table (table.deleteUnder policy chosen) := by
  rw [SameBeyond, deleteUnder, deleteWhere, List.filter_filter]
  refine List.filter_congr fun stored _ => ?_
  cases hown : own stored with
  | true => rfl
  | false =>
    have hsees : policy.sees stored = false :=
      Bool.eq_false_iff.2 fun hsees => Bool.false_ne_true (hown ▸ about.sees stored hsees)
    rw [hsees]
    rfl

end Beyond

end Table

end StoreProgram
