import Pdr.Migrations.Apply

/-!
# The registry as it is printed and read

`psql` prints a row to a line, and the script takes the lines apart again. No digit of a version
or of a checksum is a space, a bar or the end of a line, so what is read is what is stored, by
ascending version.

## Main definitions

* `Pdr.Migrations.appliedOf`: what the script is to know of a registry.

## Main results

* `Pdr.Migrations.readVersions_printRows`: what is printed is read back.
* `Pdr.Migrations.mismatches_eq_nil_iff`: there is no complaint exactly if each row is that of
  a migration in the directory.
* `Pdr.Migrations.mem_pendingOf`: what is pending.
-/

namespace Pdr.Migrations

open Python StoreProgram

/-- The versions and checksums of the rows, by ascending version. -/
def appliedOf (rows : List RegistryRow) : Dict Int Str :=
  (rows.insertionSort (·.version ≤ ·.version)).map fun row => ((row.version : Int), row.checksum.1)

/-- The line of a row. -/
def printRow (row : RegistryRow) : Str := str row.version ++ '|' :: row.checksum.1

/-! ### Digits -/

theorem isSpace_of_isHexDigit {c : Char} (h : isHexDigit c = true) : isSpace c = false := by
  rcases Bool.or_eq_true_iff.1 h with hdigit | hletter
  · exact isSpace_of_isDigit hdigit
  · simp only [Bool.and_eq_true, decide_eq_true_eq] at hletter
    have hlow : 97 ≤ c.toNat := hletter.1
    have hhigh : c.toNat ≤ 102 := hletter.2
    simp only [isSpace, List.contains_cons, List.contains_nil, Bool.or_eq_false_iff,
      Bool.and_eq_false_iff, decide_eq_false_iff_not, beq_eq_false_iff_ne, and_true]
    omega

theorem endsLine_of_isSpace {c : Char} (h : isSpace c = false) : endsLine c = false :=
  Bool.eq_false_iff.2 fun hends => by
    rw [isSpace_of_endsLine hends] at h
    cases h

theorem isSpace_of_mem_checksum {checksum : Checksum} {c : Char} (h : c ∈ checksum.1) :
    isSpace c = false :=
  isSpace_of_isHexDigit (checksum.2.2 c h)

theorem isSpace_of_mem_printRow {row : RegistryRow} {c : Char} (h : c ∈ printRow row) :
    isSpace c = false := by
  rcases List.mem_append.1 h with hversion | hrest
  · exact isSpace_of_isDigit (isDigit_of_mem_str hversion)
  · rcases List.mem_cons.1 hrest with rfl | hchecksum
    · decide
    · exact isSpace_of_mem_checksum hchecksum

theorem strip_of_no_space {s : Str} (h : ∀ c ∈ s, isSpace c = false) : strip s = s :=
  strip_eq_self (fun c hc => h c (List.mem_of_mem_head? hc))
    fun c hc => h c (List.mem_of_getLast? hc)

/-! ### Reading what was printed -/

theorem printRows_eq (rows : List RegistryRow) :
    printRows rows =
      ((rows.insertionSort (·.version ≤ ·.version)).map printRow).flatMap (· ++ ['\n']) := by
  rw [printRows, List.flatMap_map]
  rfl

theorem splitlines_printRows (rows : List RegistryRow) :
    splitlines (printRows rows) =
      (rows.insertionSort (·.version ≤ ·.version)).map printRow := by
  rw [printRows_eq]
  refine splitlines_flatMap fun line hline c hc => ?_
  obtain ⟨row, -, rfl⟩ := List.mem_map.1 hline
  exact endsLine_of_isSpace (isSpace_of_mem_printRow hc)

theorem partition_printRow (row : RegistryRow) :
    partition '|' (printRow row) = (str row.version, ['|'], row.checksum.1) := by
  refine partition_append fun hbar => ?_
  exact absurd (isDigit_of_mem_str hbar) (by decide)

theorem int_version (decimals : Decimals) {row : RegistryRow} (h : Schema.check row = true) :
    int decimals (str row.version) = some (row.version : Int) := by
  refine int_str ?_
  have hbound : row.version ≤ 2147483647 := of_decide_eq_true h
  have hlength : (str row.version).length ≤ 10 :=
    (Nat.length_toDigits_le_iff (by omega) (by omega)).2 (by omega)
  exact Nat.le_trans hlength (by decide)

/-- The loop over the lines of rows, no two of them of one version. -/
theorem foldlM_printRow (decimals : Decimals) {rows : List RegistryRow} {applied : Dict Int Str}
    (hcheck : ∀ row ∈ rows, Schema.check row = true)
    (hdistinct : rows.Pairwise fun a b => a.version ≠ b.version)
    (hnew : ∀ row ∈ rows, (row.version : Int) ∉ applied.keys) :
    (rows.map printRow).foldlM (fun applied line =>
        if strip line = [] then .ok applied
        else
          let (version, _, checksum) := partition '|' line
          match int decimals version with
          | none => .error .uncaught
          | some version => .ok (applied.set version (strip checksum))) applied =
      (.ok (applied ++ rows.map fun row => ((row.version : Int), row.checksum.1)) :
        Except Failure (Dict Int Str)) := by
  induction rows generalizing applied with
  | nil => simp [pure, Except.pure]
  | cons row rows ih =>
    have hline : strip (printRow row) ≠ [] := by
      rw [strip_of_no_space fun c hc => isSpace_of_mem_printRow hc]
      simp [printRow]
    have hchecksum : strip row.checksum.1 = row.checksum.1 :=
      strip_of_no_space fun c hc => isSpace_of_mem_checksum hc
    obtain ⟨hfirst, hrest⟩ := List.pairwise_cons.1 hdistinct
    have hset : applied.set (row.version : Int) row.checksum.1 = _ :=
      Dict.set_of_not_mem (hnew row List.mem_cons_self)
    have hlater : ∀ other ∈ rows, (other.version : Int) ∉
        (applied ++ [((row.version : Int), row.checksum.1)]).keys := by
      intro other hother hkey
      rw [Dict.keys, List.map_append, List.mem_append] at hkey
      rcases hkey with hkey | hkey
      · exact hnew other (List.mem_cons_of_mem row hother) hkey
      · exact hfirst other hother (Int.ofNat.inj (List.mem_singleton.1 hkey)).symm
    rw [List.map_cons, List.foldlM_cons]
    simp only [if_neg hline, partition_printRow,
      int_version decimals (hcheck row List.mem_cons_self), hchecksum, hset]
    change List.foldlM _ _ _ = _
    rw [ih (fun other hother => hcheck other (List.mem_cons_of_mem row hother)) hrest hlater]
    simp

/-- What `psql` prints of a registry is read back as it is stored. -/
theorem readVersions_printRows (decimals : Decimals) (table : Table RegistryRow) :
    readVersions decimals (printRows table.rows) = .ok (appliedOf table.rows) := by
  have hperm := List.perm_insertionSort
    (fun a b : RegistryRow => a.version ≤ b.version) table.rows
  have hdistinct : table.rows.Pairwise fun a b => a.version ≠ b.version :=
    table.distinct.imp fun hclash hsame => hclash (decide_eq_true hsame)
  unfold readVersions
  rw [splitlines_printRows]
  refine (foldlM_printRow decimals (fun row hrow => table.checked row (hperm.subset hrow))
    (hdistinct.perm hperm.symm fun hne => Ne.symm hne) ?_).trans ?_
  · exact fun row _ => List.not_mem_nil
  · rfl

/-! ### What is applied -/

variable {rows : List RegistryRow} {migrations : List Migration}

theorem mem_appliedOf {version : Int} {checksum : Str} :
    (version, checksum) ∈ appliedOf rows ↔
      ∃ row ∈ rows, (row.version : Int) = version ∧ row.checksum.1 = checksum := by
  simp only [appliedOf, List.mem_map, List.mem_insertionSort, Prod.mk.injEq]

theorem mem_keys_appliedOf {version : Int} :
    version ∈ (appliedOf rows).keys ↔ ∃ row ∈ rows, (row.version : Int) = version := by
  simp only [Dict.keys, appliedOf, List.map_map, List.mem_map, List.mem_insertionSort,
    Function.comp_apply]

theorem nodup_keys_appliedOf (h : rows.Pairwise fun a b => a.version ≠ b.version) :
    (appliedOf rows).keys.Nodup := by
  rw [Dict.keys, appliedOf, List.map_map, List.Nodup, List.pairwise_map]
  have hperm := List.perm_insertionSort (fun a b : RegistryRow => a.version ≤ b.version) rows
  refine (h.perm hperm.symm fun hne => Ne.symm hne).imp fun hne hsame => hne ?_
  exact Int.ofNat.inj hsame

theorem mem_pendingOf {migration : Migration} :
    migration ∈ pendingOf migrations (appliedOf rows) ↔
      migration ∈ migrations ∧ ∀ row ∈ rows, row.version ≠ migration.version := by
  rw [pendingOf, List.mem_filter, decide_eq_true_eq, mem_keys_appliedOf]
  simp only [not_exists, not_and, Int.natCast_inj, ne_eq]

/-- There is no complaint exactly if each row is that of a migration. -/
theorem mismatches_eq_nil_iff (hrows : rows.Pairwise fun a b => a.version ≠ b.version)
    (hmigrations : migrations.Pairwise fun a b => a.version < b.version) :
    mismatches migrations (appliedOf rows) = [] ↔
      ∀ row ∈ rows, ∃ migration ∈ migrations, migration.row = row := by
  have hkeys := nodup_keys_appliedOf hrows
  rw [mismatches, List.append_eq_nil_iff, List.map_eq_nil_iff]
  constructor
  · rintro ⟨hchanged, hmissing⟩ row hrow
    have hkey :
        (row.version : Int) ∈ migrations.map fun migration => (migration.version : Int) := by
      by_contra habsent
      have hmem : (row.version : Int) ∈ ((appliedOf rows).keys.filter
          (· ∉ migrations.map fun migration => (migration.version : Int))).insertionSort
            (· ≤ ·) := by
        rw [List.mem_insertionSort, List.mem_filter]
        exact ⟨mem_keys_appliedOf.2 ⟨row, hrow, rfl⟩, decide_eq_true habsent⟩
      rw [hmissing] at hmem
      cases hmem
    obtain ⟨migration, hmem, hversion⟩ := List.mem_map.1 hkey
    have hversion : migration.version = row.version := Int.ofNat.inj hversion
    refine ⟨migration, hmem, ?_⟩
    have hget : (appliedOf rows).get? (migration.version : Int) = some row.checksum.1 :=
      (Dict.get?_eq_some_iff hkeys).2 (mem_appliedOf.2 ⟨row, hrow, by rw [hversion], rfl⟩)
    have hnone := List.filterMap_eq_nil_iff.1 hchanged migration hmem
    simp only [hget] at hnone
    split at hnone
    · cases hnone
    · rename_i hsame
      have hchecksum : row.checksum = migration.checksum := Subtype.ext (not_not.1 hsame)
      rw [Migration.row, hversion, ← hchecksum]
  · intro hall
    constructor
    · refine List.filterMap_eq_nil_iff.2 fun migration hmem => ?_
      cases hget : (appliedOf rows).get? (migration.version : Int) with
      | none => rfl
      | some recorded =>
        obtain ⟨row, hrow, hversion, hchecksum⟩ :=
          mem_appliedOf.1 ((Dict.get?_eq_some_iff hkeys).1 hget)
        obtain ⟨other, hother, rfl⟩ := hall row hrow
        rw [← hchecksum, eq_of_version_eq hmigrations hother hmem (Int.ofNat.inj hversion)]
        simp [Migration.row]
    · refine List.eq_nil_iff_forall_not_mem.2 fun version hversion => ?_
      rw [List.mem_insertionSort, List.mem_filter] at hversion
      obtain ⟨row, hrow, rfl⟩ := mem_keys_appliedOf.1 hversion.1
      obtain ⟨migration, hmem, rfl⟩ := hall row hrow
      exact of_decide_eq_true hversion.2 (List.mem_map_of_mem hmem)

end Pdr.Migrations
