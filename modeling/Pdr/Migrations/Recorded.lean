import Pdr.Migrations.Printed
import Pdr.StoreProgram.Upholds

/-!
# What a call records

The registry is to tell what was applied: each migration once, from the file with the recorded
checksum, in the order of the versions. The calls themselves go by membership: pending is what
has no row, whatever its version, and a directory with nothing in it is not compared at all.
Where what is pending is greater than what is recorded, the rows and the committed migrations
stay one and the same list through all of a call.

## Main definitions

* `Pdr.Migrations.Tells`: the registry tells what was committed.
* `Pdr.Migrations.EndsWell`: a call that finds a difference commits nothing, and one that
  returns zero leaves the registry equal to the directory.
* `Pdr.Migrations.IsOrderly`: what has to be so before a call.
* `Pdr.Migrations.IsRecorded`: the invariant.

## Main results

* `Pdr.Migrations.upholds_applyAll`: the loop over the pending migrations.
* `Pdr.Migrations.upholds_apply`: an orderly call upholds what is recorded and ends well.
-/

namespace Pdr.Migrations

open Python StoreProgram Program

variable {Rest : Type}

/-! ### What is told -/

/-- A version has a row if and only if its text was committed; the row carries the checksum of
the file that the text is from; and the versions were committed in ascending order, so none of
them twice. -/
structure Tells (tools : Tools) (w : World Rest) : Prop where
  registered : ∀ version, (∃ row ∈ w.rows, row.version = version) ↔
    ∃ migration ∈ w.committed, migration.version = version
  recorded : ∀ migration ∈ w.committed, migration.row ∈ w.rows ∧ migration.IsRead tools
  ascending : w.committed.Pairwise fun a b => a.version < b.version

/-- A call that finds a row without its file commits nothing, and after one that returns zero
the rows are those of the migrations in the directory. -/
structure EndsWell (tools : Tools) (directory : Directory) (w : World Rest)
    (outcome : Except Failure Nat) (w' : World Rest) : Prop where
  refuses : ∀ migrations, load tools directory = .ok migrations →
    (∃ row ∈ w.rows, ∀ migration ∈ migrations, migration.row ≠ row) → w'.committed = w.committed
  equals : outcome = .ok 0 →
    ∃ migrations, load tools directory = .ok migrations ∧ w'.rows = migrations.map (·.row)

/-- The text of a migration leaves the rows of the registry as they are and all of its
statements closed, whatever else is in the database. -/
def Migration.LeavesRegistry (script : Script Rest) (migration : Migration) : Prop :=
  ∀ rest registry, (∃ stderr, script rest migration.sql registry = .failed stderr) ∨
    ∃ registry', script rest migration.sql registry = .closed registry' ∧
      rowsOf registry' = rowsOf registry

/-- What has to be so before a call, if nothing stops the call before it applies anything: with
no files there are no rows, and each file without a row has a greater version than all rows and
leaves the registry alone. -/
def IsOrderly (tools : Tools) (script : Script Rest) (directory : Directory) (w : World Rest) :
    Prop :=
  ∀ migrations, load tools directory = .ok migrations → firstUnsupported tools migrations = none →
    (migrations = [] → w.rows = []) ∧
      (mismatches migrations (appliedOf w.rows) = [] →
        ∀ migration ∈ pendingOf migrations (appliedOf w.rows),
          (∀ row ∈ w.rows, row.version < migration.version) ∧ migration.LeavesRegistry script)

/-! ### The invariant -/

/-- The rows are those of the committed migrations, one by one. -/
structure IsRecorded (tools : Tools) (w : World Rest) : Prop where
  rows : w.rows = w.committed.map (·.row)
  read : ∀ migration ∈ w.committed, migration.IsRead tools
  ascending : w.committed.Pairwise fun a b => a.version < b.version

namespace IsRecorded

variable {tools : Tools} {w : World Rest}

theorem tells (h : IsRecorded tools w) : Tells tools w where
  registered version := by
    rw [h.rows]
    constructor
    · rintro ⟨row, hrow, rfl⟩
      obtain ⟨migration, hmem, rfl⟩ := List.mem_map.1 hrow
      exact ⟨migration, hmem, rfl⟩
    · rintro ⟨migration, hmem, rfl⟩
      exact ⟨migration.row, List.mem_map_of_mem hmem, rfl⟩
  recorded migration hmem := ⟨h.rows ▸ List.mem_map_of_mem hmem, h.read migration hmem⟩
  ascending := h.ascending

theorem rows_ascending (h : IsRecorded tools w) :
    w.rows.Pairwise fun a b => a.version < b.version := by
  rw [h.rows, List.pairwise_map]
  exact h.ascending

theorem rows_distinct (h : IsRecorded tools w) :
    w.rows.Pairwise fun a b => a.version ≠ b.version :=
  h.rows_ascending.imp Nat.ne_of_lt

end IsRecorded

/-! ### The calls of `psql` -/

section Calls

variable {tools : Tools} {script : Script Rest} {w w' : World Rest}

/-- Registry and commits are the same. -/
def SameRecord (w w' : World Rest) : Prop :=
  w'.registry = w.registry ∧ w'.committed = w.committed

theorem SameRecord.rows (h : SameRecord w w') : w'.rows = w.rows :=
  congrArg rowsOf h.1

theorem SameRecord.isRecorded (h : SameRecord w w') (hw : IsRecorded tools w) :
    IsRecorded tools w' where
  rows := by rw [h.rows, h.2, hw.rows]
  read := h.2 ▸ hw.read
  ascending := h.2 ▸ hw.ascending

/-- A call of `psql` leaves no trace, or the database has done its work; a value is returned in
the second case only. -/
theorem runSql_cases (query : Query) (w : World Rest) :
    (SameRecord w (runSql script query w).2 ∧
        ∃ failure, (runSql script query w).1 = .error failure) ∨
      ∃ rest fates answer w', serve script rest { w with fates := fates } query = .ok (answer, w') ∧
        (runSql script query w).2 = w' ∧
        ∀ value, (runSql script query w).1 = .ok value → value = answer := by
  have hsame : ∀ fates, SameRecord w { w with fates := fates } := fun _ => ⟨rfl, rfl⟩
  unfold runSql
  split
  · exact Or.inl ⟨⟨rfl, rfl⟩, _, rfl⟩
  · exact Or.inl ⟨hsame _, _, rfl⟩
  · exact Or.inl ⟨hsame _, _, rfl⟩
  · rename_i rest fates _
    cases hserve : serve script rest { w with fates := fates } query with
    | ok served =>
      exact Or.inr ⟨rest, fates, served.1, served.2, hserve, rfl,
        fun value hvalue => (Except.ok.inj hvalue).symm⟩
    | error failure => exact Or.inl ⟨hsame fates, failure, rfl⟩
  · rename_i rest stderr fates _
    cases hserve : serve script rest { w with fates := fates } query with
    | ok served =>
      exact Or.inr
        ⟨rest, fates, served.1, served.2, hserve, rfl, fun value hvalue => nomatch hvalue⟩
    | error failure => exact Or.inl ⟨hsame fates, failure, rfl⟩

/-- Whether the registry exists is answered as it is, or not at all. -/
theorem runSql_registryExists (w : World Rest) :
    SameRecord w (runSql script .registryExists w).2 ∧
      ∀ answer, (runSql script .registryExists w).1 = .ok answer →
        answer = (if w.registry.isSome then "t\n" else "f\n").toList := by
  rcases (runSql_cases .registryExists w : (_ ∧ ∃ failure, (runSql script _ w).1 = _) ∨ _) with
    ⟨hsame, failure, hfailure⟩ | ⟨rest, fates, answer, w', hserve, hafter, hvalue⟩
  · exact ⟨hsame, fun answer hanswer => by rw [hfailure] at hanswer; cases hanswer⟩
  · obtain ⟨rfl, rfl⟩ := Prod.mk.inj (Except.ok.inj hserve)
    exact ⟨hafter ▸ ⟨rfl, rfl⟩, hvalue⟩

/-- What is applied is answered as it is stored, or not at all. -/
theorem runSql_appliedVersions {table : Table RegistryRow} (h : w.registry = some table) :
    SameRecord w (runSql script .appliedVersions w).2 ∧
      ∀ answer, (runSql script .appliedVersions w).1 = .ok answer →
        answer = printRows table.rows := by
  rcases (runSql_cases .appliedVersions w : (_ ∧ ∃ failure, (runSql script _ w).1 = _) ∨ _) with
    ⟨hsame, failure, hfailure⟩ | ⟨rest, fates, answer, w', hserve, hafter, hvalue⟩
  · exact ⟨hsame, fun answer hanswer => by rw [hfailure] at hanswer; cases hanswer⟩
  · simp only [serve, h] at hserve
    obtain ⟨rfl, rfl⟩ := Prod.mk.inj (Except.ok.inj hserve)
    exact ⟨hafter ▸ ⟨h.symm, rfl⟩, hvalue⟩

/-- A transaction that is committed adds the migration and its row. -/
theorem transaction_eq_ok {rest : Rest} {migration : Migration}
    (hleaves : migration.LeavesRegistry script)
    (h : transaction script rest migration w = .ok w') :
    w'.rows = w.rows ++ [migration.row] ∧ w'.committed = w.committed ++ [migration] := by
  unfold transaction at h
  rcases hleaves rest w.registry with ⟨stderr, hfailed⟩ | ⟨registry', hclosed, hrows⟩
  · rw [hfailed] at h
    cases h
  · rw [hclosed] at h
    cases registry' with
    | none => cases h
    | some table =>
      cases hinsert : table.insert migration.row with
      | none => simp only [hinsert] at h; cases h
      | some table' =>
        simp only [hinsert] at h
        obtain rfl := Except.ok.inj h
        refine ⟨?_, rfl⟩
        change table'.rows = rowsOf w.registry ++ [migration.row]
        rw [Table.rows_of_insert hinsert, ← hrows, rowsOf_some]

/-- A migration is applied, or nothing is; a value is returned in the first case only. -/
theorem runSql_applyOne {migration : Migration} (hleaves : migration.LeavesRegistry script)
    (w : World Rest) :
    (SameRecord w (runSql script (.applyOne migration) w).2 ∧
        ∃ failure, (runSql script (.applyOne migration) w).1 = .error failure) ∨
      (runSql script (.applyOne migration) w).2.rows = w.rows ++ [migration.row] ∧
        (runSql script (.applyOne migration) w).2.committed = w.committed ++ [migration] := by
  rcases (runSql_cases (.applyOne migration) w : (_ ∧ ∃ _, (runSql script _ w).1 = _) ∨ _) with
    hfailed | ⟨rest, fates, answer, w', hserve, hafter, -⟩
  · exact Or.inl hfailed
  · refine Or.inr ?_
    rw [hafter]
    cases hdone : transaction script rest migration { w with fates := fates } with
    | error failure =>
      simp only [serve, hdone] at hserve
      cases hserve
    | ok done =>
      simp only [serve, hdone] at hserve
      obtain ⟨-, rfl⟩ := Prod.mk.inj (Except.ok.inj hserve)
      exact transaction_eq_ok (w := { w with fates := fates }) hleaves hdone

end Calls

/-! ### What the functions uphold -/

section Functions

variable {β : Type} {tools : Tools} {script : Script Rest} {w : World Rest} {P : World Rest → Prop}

/-- A predicate of the registry and the commits. -/
def IsOfRecord (P : World Rest → Prop) : Prop := ∀ w w', SameRecord w w' → P w → P w'

theorem isOfRecord_sameRecord (w : World Rest) : IsOfRecord (SameRecord w) :=
  fun _ _ h before => ⟨h.1.trans before.1, h.2.trans before.2⟩

theorem isOfRecord_isRecorded : IsOfRecord (IsRecorded tools : World Rest → Prop) :=
  fun _ _ h before => h.isRecorded before

theorem upholds_printLine (hP : IsOfRecord P) (start : P w) (stream : Stream) (line : Str) :
    (printLine stream line).Upholds (machine script) P (fun _ => SameRecord w) w := by
  refine ⟨start, ?_⟩
  exact ⟨hP w _ ⟨rfl, rfl⟩ start, rfl, rfl⟩

/-- A call of `psql` and what is done with its answer. -/
theorem upholds_runSql_bind {query : Query} {next : Str → Psql β}
    {R : Except Failure β → World Rest → Prop} (start : P w) (after : P (runSql script query w).2)
    (failed : ∀ failure, (runSql script query w).1 = .error failure →
      R (.error failure) (runSql script query w).2)
    (second : ∀ answer, (runSql script query w).1 = .ok answer →
      (next answer).Upholds (machine script) P R (runSql script query w).2) :
    (perform (Op.runSql query) >>= next : Psql β).Upholds (machine script) P R w := by
  refine ⟨start, ?_⟩
  change (ofExcept (runSql script query w).1 >>= next : Psql β).Upholds (machine script) P R
    (runSql script query w).2
  cases hanswer : (runSql script query w).1 with
  | ok answer => exact second answer hanswer
  | error failure => exact ⟨after, failed failure hanswer⟩

theorem upholds_printLines (hP : IsOfRecord P) (stream : Stream) (lines : List Str)
    {w' : World Rest} (hsame : SameRecord w w') (start : P w') :
    (printLines stream lines).Upholds (machine script) P (fun _ => SameRecord w) w' := by
  induction lines generalizing w' with
  | nil => exact ⟨start, hsame⟩
  | cons line lines ih =>
    refine (upholds_printLine hP start stream line).bind (fun error w'' _ h => ?_)
      fun _ w'' hw'' h => ih (isOfRecord_sameRecord w w' w'' h hsame) hw''
    exact isOfRecord_sameRecord w w' w'' h hsame

theorem upholds_printLine_return (hP : IsOfRecord P) (start : P w) (stream : Stream) (line : Str)
    (code : Nat) :
    (do printLine stream line; return code : Psql Nat).Upholds (machine script) P
      (fun outcome w' => SameRecord w w' ∧ ∀ value, outcome = .ok value → value = code) w := by
  refine (upholds_printLine hP start stream line).bind (fun error w' _ h => ?_)
    fun _ w' hw' h => ⟨hw', h, fun value hvalue => (Except.ok.inj hvalue).symm⟩
  exact ⟨h, fun value hvalue => nomatch hvalue⟩

theorem upholds_printLines_return (hP : IsOfRecord P) (start : P w) (stream : Stream)
    (lines : List Str) (code : Nat) :
    (do printLines stream lines; return code : Psql Nat).Upholds (machine script) P
      (fun outcome w' => SameRecord w w' ∧ ∀ value, outcome = .ok value → value = code) w := by
  refine (upholds_printLines hP stream lines ⟨rfl, rfl⟩ start).bind (fun error w' _ h => ?_)
    fun _ w' hw' h => ⟨hw', h, fun value hvalue => (Except.ok.inj hvalue).symm⟩
  exact ⟨h, fun value hvalue => nomatch hvalue⟩

theorem upholds_registryExists (hP : IsOfRecord P) (start : P w) :
    registryExists.Upholds (machine script) P
      (fun outcome w' => SameRecord w w' ∧
        ∀ isThere, outcome = .ok isThere → isThere = w.registry.isSome) w := by
  obtain ⟨hsame, hanswer⟩ : SameRecord w (runSql script _ w).2 ∧ _ := runSql_registryExists w
  refine upholds_runSql_bind start (hP _ _ hsame start)
    (fun failure _ => ⟨hsame, fun isThere hvalue => nomatch hvalue⟩) fun answer h => ?_
  refine ⟨hP _ _ hsame start, hsame, fun isThere hvalue => ?_⟩
  rw [← Except.ok.inj hvalue, hanswer answer h]
  generalize w.registry.isSome = stored
  cases stored <;> decide

theorem upholds_appliedVersions (hP : IsOfRecord P) (start : P w) {table : Table RegistryRow}
    (htable : w.registry = some table) (decimals : Decimals) :
    (appliedVersions decimals).Upholds (machine script) P
      (fun outcome w' => SameRecord w w' ∧
        ∀ applied, outcome = .ok applied → applied = appliedOf w.rows) w := by
  obtain ⟨hsame, hanswer⟩ : SameRecord w (runSql script _ w).2 ∧ _ :=
    runSql_appliedVersions htable
  refine upholds_runSql_bind start (hP _ _ hsame start)
    (fun failure _ => ⟨hsame, fun applied hvalue => nomatch hvalue⟩) fun answer h => ?_
  rw [hanswer answer h, readVersions_printRows]
  refine ⟨hP _ _ hsame start, hsame, fun applied hvalue => ?_⟩
  rw [← Except.ok.inj hvalue, World.rows, htable, rowsOf_some]

/-- One more migration is recorded, if its version is greater than all of before. -/
theorem IsRecorded.add {w' : World Rest} {migration : Migration} (h : IsRecorded tools w)
    (hread : migration.IsRead tools) (hgreater : ∀ row ∈ w.rows, row.version < migration.version)
    (hrows : w'.rows = w.rows ++ [migration.row])
    (hcommitted : w'.committed = w.committed ++ [migration]) : IsRecorded tools w' where
  rows := by rw [hrows, hcommitted, h.rows, List.map_append, List.map_singleton]
  read other hother := by
    rw [hcommitted] at hother
    rcases List.mem_append.1 hother with hother | hother
    · exact h.read other hother
    · exact List.mem_singleton.1 hother ▸ hread
  ascending := by
    rw [hcommitted]
    refine List.pairwise_append.2 ⟨h.ascending, List.pairwise_singleton _ _, ?_⟩
    intro other hother last hlast
    rw [List.mem_singleton.1 hlast]
    refine hgreater other.row ?_
    rw [h.rows]
    exact List.mem_map_of_mem hother

theorem upholds_applyOne {migration : Migration} (start : IsRecorded tools w)
    (hread : migration.IsRead tools) (hgreater : ∀ row ∈ w.rows, row.version < migration.version)
    (hleaves : migration.LeavesRegistry script) :
    (applyOne migration).Upholds (machine script) (IsRecorded tools)
      (fun outcome w' => outcome = .ok () → w'.rows = w.rows ++ [migration.row]) w := by
  have hcases := runSql_applyOne hleaves w
  have hafter : IsRecorded tools (runSql script (.applyOne migration) w).2 := by
    rcases hcases with ⟨hsame, -⟩ | ⟨hrows, hcommitted⟩
    · exact hsame.isRecorded start
    · exact start.add hread hgreater hrows hcommitted
  refine upholds_runSql_bind start hafter (fun failure _ hvalue => nomatch hvalue)
    fun answer hanswer => ⟨hafter, fun _ => ?_⟩
  rcases hcases with ⟨-, failure, hfailure⟩ | ⟨hrows, -⟩
  · exact nomatch hfailure.symm.trans hanswer
  · exact hrows

/-- The loop over the pending migrations: each of them is greater than what is recorded when its
turn comes, so what is recorded stays in order whatever the turn ends with. -/
theorem upholds_applyAll {pending : List Migration} (start : IsRecorded tools w)
    (hread : ∀ migration ∈ pending, migration.IsRead tools)
    (hleaves : ∀ migration ∈ pending, migration.LeavesRegistry script)
    (hgreater : ∀ migration ∈ pending, ∀ row ∈ w.rows, row.version < migration.version)
    (hascending : pending.Pairwise fun a b => a.version < b.version) :
    (applyAll pending).Upholds (machine script) (IsRecorded tools)
      (fun outcome w' => outcome = .ok () → w'.rows = w.rows ++ pending.map (·.row)) w := by
  induction pending generalizing w with
  | nil => exact ⟨start, fun _ => by simp⟩
  | cons migration pending ih =>
    obtain ⟨hfirst, hrest⟩ := List.pairwise_cons.1 hascending
    refine (upholds_printLine isOfRecord_isRecorded start _ _).bind
      (fun error w' _ _ hvalue => nomatch hvalue) fun _ w₁ hw₁ hsame => ?_
    have hgreater₁ : ∀ row ∈ w₁.rows, row.version < migration.version := by
      rw [hsame.rows]
      exact hgreater migration List.mem_cons_self
    refine (upholds_applyOne hw₁ (hread migration List.mem_cons_self) hgreater₁
      (hleaves migration List.mem_cons_self)).bind
      (fun error w' _ _ hvalue => nomatch hvalue) fun _ w₂ hw₂ hrows => ?_
    have hrows₂ : w₂.rows = w.rows ++ [migration.row] := by rw [hrows rfl, hsame.rows]
    refine (ih hw₂ (fun other hother => hread other (List.mem_cons_of_mem _ hother))
      (fun other hother => hleaves other (List.mem_cons_of_mem _ hother)) ?_ hrest).mono
      (fun _ h => h) fun outcome w' _ h hvalue => ?_
    · intro other hother row hrow
      rw [hrows₂] at hrow
      rcases List.mem_append.1 hrow with hrow | hrow
      · exact hgreater other (List.mem_cons_of_mem _ hother) row hrow
      · rw [List.mem_singleton.1 hrow]
        exact hfirst other hother
    · rw [h hvalue, hrows₂, List.map_cons, List.append_assoc, List.singleton_append]

/-- Rows and pending migrations together are the migrations of the directory. -/
theorem rows_eq_map {migrations : List Migration} {w' : World Rest} (start : IsRecorded tools w)
    (hend : IsRecorded tools w') (hascending : migrations.Pairwise fun a b => a.version < b.version)
    (hmatch : mismatches migrations (appliedOf w.rows) = [])
    (hrows : w'.rows = w.rows ++ (pendingOf migrations (appliedOf w.rows)).map (·.row)) :
    w'.rows = migrations.map (·.row) := by
  have hall := (mismatches_eq_nil_iff start.rows_distinct hascending).1 hmatch
  have hirrefl : Std.Irrefl fun a b : RegistryRow => a.version < b.version :=
    ⟨fun a => Nat.lt_irrefl a.version⟩
  have hasymm : Std.Asymm fun a b : RegistryRow => a.version < b.version :=
    ⟨fun a b => Nat.lt_asymm⟩
  refine List.Pairwise.eq_of_mem_iff hend.rows_ascending (List.pairwise_map.2 hascending)
    fun row => ?_
  rw [hrows, List.mem_append, List.mem_map, List.mem_map]
  constructor
  · rintro (hrow | ⟨migration, hpending, rfl⟩)
    · exact hall row hrow
    · exact ⟨migration, (mem_pendingOf.1 hpending).1, rfl⟩
  · rintro ⟨migration, hmem, rfl⟩
    by_cases hthere : ∃ row ∈ w.rows, row.version = migration.version
    · obtain ⟨row, hrow, hversion⟩ := hthere
      obtain ⟨other, hother, rfl⟩ := hall row hrow
      exact Or.inl (eq_of_version_eq hascending hother hmem hversion ▸ hrow)
    · exact Or.inr ⟨migration, mem_pendingOf.2 ⟨hmem, fun row hrow hversion =>
        hthere ⟨row, hrow, hversion⟩⟩, rfl⟩

/-- What is pending is applied, and then nothing is. -/
theorem upholds_applyPending {migrations : List Migration} (start : IsRecorded tools w)
    (hread : ∀ migration ∈ migrations, migration.IsRead tools)
    (hascending : migrations.Pairwise fun a b => a.version < b.version)
    (hmatch : mismatches migrations (appliedOf w.rows) = [])
    (horderly : ∀ migration ∈ pendingOf migrations (appliedOf w.rows),
      (∀ row ∈ w.rows, row.version < migration.version) ∧ migration.LeavesRegistry script) :
    (applyPending migrations (appliedOf w.rows)).Upholds (machine script) (IsRecorded tools)
      (fun outcome w' => outcome = .ok 0 → w'.rows = migrations.map (·.row)) w := by
  unfold applyPending
  simp only
  split
  · rename_i hnone
    refine (upholds_printLine_return isOfRecord_isRecorded start _ _ 0).mono (fun _ h => h)
      fun outcome w' hw' h _ => rows_eq_map start hw' hascending hmatch ?_
    rw [h.1.rows, hnone, List.map_nil, List.append_nil]
  · have hpending : ∀ migration ∈ pendingOf migrations (appliedOf w.rows),
        migration ∈ migrations := fun migration h => (mem_pendingOf.1 h).1
    refine (upholds_applyAll start (fun migration h => hread migration (hpending migration h))
      (fun migration h => (horderly migration h).2) (fun migration h => (horderly migration h).1)
      (hascending.sublist List.filter_sublist)).bind
      (fun error w' _ _ hvalue => nomatch hvalue) fun _ w₁ hw₁ hrows => ?_
    refine (upholds_printLine_return isOfRecord_isRecorded hw₁ _ _ 0).mono (fun _ h => h)
      fun outcome w' hw' h _ => rows_eq_map start hw' hascending hmatch ?_
    rw [h.1.rows, hrows rfl]

theorem rows_of_isNone (h : w.registry.isSome = false) : w.rows = [] := by
  rw [World.rows, Option.not_isSome_iff_eq_none.1 (Bool.eq_false_iff.1 h), rowsOf_none]

/-- A call that is orderly upholds what is recorded. Where registry and files differ it does
nothing but read. -/
theorem upholds_commandApply {migrations : List Migration} (decimals : Decimals)
    (start : IsRecorded tools w) (hread : ∀ migration ∈ migrations, migration.IsRead tools)
    (hascending : migrations.Pairwise fun a b => a.version < b.version)
    (hempty : migrations = [] → w.rows = [])
    (horderly : mismatches migrations (appliedOf w.rows) = [] →
      ∀ migration ∈ pendingOf migrations (appliedOf w.rows),
        (∀ row ∈ w.rows, row.version < migration.version) ∧ migration.LeavesRegistry script) :
    (commandApply decimals migrations).Upholds (machine script) (IsRecorded tools)
      (fun outcome w' =>
        (mismatches migrations (appliedOf w.rows) ≠ [] → w'.committed = w.committed) ∧
          (outcome = .ok 0 → w'.rows = migrations.map (·.row))) w := by
  have hkept : IsOfRecord (IsRecorded tools : World Rest → Prop) := isOfRecord_isRecorded
  -- What is left to do once it is known that registry and files agree.
  have hagree : ∀ w', IsRecorded tools w' → SameRecord w w' →
      mismatches migrations (appliedOf w.rows) = [] →
      (applyPending migrations (appliedOf w.rows)).Upholds (machine script) (IsRecorded tools)
        (fun outcome w' =>
          (mismatches migrations (appliedOf w.rows) ≠ [] → w'.committed = w.committed) ∧
            (outcome = .ok 0 → w'.rows = migrations.map (·.row))) w' := by
    intro w' hw' hsame hmatch
    have hrows := hsame.rows
    rw [← hrows] at hmatch horderly ⊢
    exact (upholds_applyPending hw' hread hascending hmatch (horderly hmatch)).mono (fun _ h => h)
      fun outcome w'' _ h => ⟨fun hmismatch => absurd hmatch hmismatch, h⟩
  cases migrations with
  | nil =>
    refine (upholds_printLine_return hkept start _ _ 0).mono (fun _ h => h)
      fun outcome w' _ h => ⟨fun _ => h.1.2, fun _ => ?_⟩
    rw [h.1.rows, hempty rfl, List.map_nil]
  | cons first others =>
    refine (upholds_registryExists hkept start).bind
      (fun error w' _ h => ⟨fun _ => h.1.2, fun hvalue => nomatch hvalue⟩)
      fun isThere w₁ hw₁ h => ?_
    obtain ⟨hsame₁, hisThere⟩ := h
    cases hthere : isThere with
    | false =>
      have hrows : w.rows = [] := rows_of_isNone (by rw [← hisThere isThere rfl, hthere])
      rw [hrows] at hagree ⊢
      simp only [Bool.false_eq_true, if_false]
      split
      · refine (upholds_printLine_return hkept hw₁ _ _ 1).mono (fun _ h => h)
          fun outcome w' _ h => ⟨fun _ => h.1.2.trans hsame₁.2, fun hvalue => ?_⟩
        exact absurd (h.2 0 hvalue) (by decide)
      · refine hagree w₁ hw₁ hsame₁ ?_
        exact (mismatches_eq_nil_iff .nil hascending).2 fun row hrow => absurd hrow List.not_mem_nil
    | true =>
      obtain ⟨table, htable⟩ := Option.isSome_iff_exists.1
        ((hisThere isThere rfl).symm.trans hthere)
      have htable₁ : w₁.registry = some table := hsame₁.1.trans htable
      simp only [if_true]
      refine (upholds_appliedVersions hkept hw₁ htable₁ decimals).bind
        (fun error w' _ h => ⟨fun _ => h.1.2.trans hsame₁.2, fun hvalue => nomatch hvalue⟩)
        fun applied w₂ hw₂ h => ?_
      obtain ⟨hsame₂, happlied⟩ := h
      have hsame : SameRecord w w₂ := ⟨hsame₂.1.trans hsame₁.1, hsame₂.2.trans hsame₁.2⟩
      rw [happlied applied rfl, hsame₁.rows]
      split
      · refine (upholds_printLines_return hkept hw₂ _ _ 1).mono (fun _ h => h)
          fun outcome w' _ h => ⟨fun _ => h.1.2.trans hsame.2, fun hvalue => ?_⟩
        exact absurd (h.2 0 hvalue) (by decide)
      · rename_i hmatch
        exact hagree w₂ hw₂ hsame (not_not.1 hmatch)

/-- A call of the script that is orderly upholds what is recorded and ends well. -/
theorem upholds_apply {directory : Directory} (start : IsRecorded tools w)
    (horderly : IsOrderly tools script directory w) :
    (apply tools directory).Upholds (machine script) (IsRecorded tools)
      (EndsWell tools directory w) w := by
  have hkept : IsOfRecord (IsRecorded tools : World Rest → Prop) := isOfRecord_isRecorded
  have hnothing : ∀ {outcome w'}, SameRecord w w' → outcome ≠ .ok 0 →
      EndsWell tools directory w outcome w' := fun hsame hcode =>
    ⟨fun _ _ _ => hsame.2, fun hvalue => absurd hvalue hcode⟩
  unfold apply
  cases hload : load tools directory with
  | error failure =>
    cases failure with
    | migration text =>
      refine (upholds_printLine_return hkept start _ _ 1).mono (fun _ h => h)
        fun outcome w' _ h => hnothing h.1 fun hvalue => ?_
      exact absurd (h.2 0 hvalue) (by decide)
    | database text => exact ⟨start, hnothing ⟨rfl, rfl⟩ (fun h => nomatch h)⟩
    | uncaught => exact ⟨start, hnothing ⟨rfl, rfl⟩ (fun h => nomatch h)⟩
  | ok migrations =>
    have hascending := pairwise_load hload
    cases hsupported : firstUnsupported tools migrations with
    | some problems =>
      simp only [hsupported]
      refine (upholds_printLines_return hkept start _ _ 1).mono (fun _ h => h)
        fun outcome w' _ h => hnothing h.1 fun hvalue => ?_
      exact absurd (h.2 0 hvalue) (by decide)
    | none =>
      simp only [hsupported]
      obtain ⟨hempty, hpending⟩ := horderly migrations hload hsupported
      have hmismatch : (∃ row ∈ w.rows, ∀ migration ∈ migrations, migration.row ≠ row) →
          mismatches migrations (appliedOf w.rows) ≠ [] := by
        rintro ⟨row, hrow, hnone⟩ hmatch
        obtain ⟨migration, hmem, hsame⟩ :=
          (mismatches_eq_nil_iff start.rows_distinct hascending).1 hmatch row hrow
        exact hnone migration hmem hsame
      have hrefuses : ∀ w' : World Rest, (mismatches migrations (appliedOf w.rows) ≠ [] →
            w'.committed = w.committed) → ∀ migrations', load tools directory = .ok migrations' →
          (∃ row ∈ w.rows, ∀ migration ∈ migrations', migration.row ≠ row) →
          w'.committed = w.committed := by
        intro w' hsame migrations' hload' hrow
        obtain rfl := Except.ok.inj (hload.symm.trans hload')
        exact hsame (hmismatch hrow)
      refine (upholds_commandApply tools.decimals start (isRead_of_load hload) hascending hempty
        hpending).tryCatch (fun value w' _ h => ?_) fun failure w' hw' h => ?_
      · exact ⟨hrefuses w' h.1, fun hvalue => ⟨migrations, hload, h.2 hvalue⟩⟩
      · cases failure with
        | database text =>
          refine (upholds_printLine_return hkept hw' _ _ 2).mono (fun _ h => h)
            fun outcome w'' _ h' => ⟨hrefuses w'' fun hmismatch => ?_, fun hvalue => ?_⟩
          · exact h'.1.2.trans (h.1 hmismatch)
          · exact absurd (h'.2 0 hvalue) (by decide)
        | migration text => exact ⟨hw', hrefuses w' h.1, fun hvalue => nomatch hvalue⟩
        | uncaught => exact ⟨hw', hrefuses w' h.1, fun hvalue => nomatch hvalue⟩

end Functions

end Pdr.Migrations
