import Mathlib.Data.List.Pairwise
import Mathlib.Data.List.Sort
import Mathlib.Data.List.Lex
import Pdr.Python.Files
import Pdr.Python.Int

/-!
# The directory of migrations

A migration is a file whose name carries its version. The directory is read as a whole: a file
with another name, a version that occurs twice or a text the parser does not understand makes
the reading fail, and then no migration is known at all. What is read is ordered by version.

## Main definitions

* `Pdr.Migrations.Entry`, `Pdr.Migrations.Directory`: what lies in the directory.
* `Pdr.Migrations.Migration`: a migration as it was read.
* `Pdr.Migrations.Tools`: what the reading needs from elsewhere.
* `Pdr.Migrations.load`: the migrations of a directory, by ascending version.

## Main results

* `Pdr.Migrations.pairwise_load`: versions ascend strictly.
* `Pdr.Migrations.load_eq_ok`: each file of a migration is read once, and nothing else is.
* `Pdr.Migrations.isRead_of_load`: text and checksum are those of the file.
-/

namespace Pdr.Migrations

open Python

/-- What lies in a directory under a name. -/
structure Entry where
  name : Str
  isDir : Bool
  bytes : ByteArray

/-- What lies in the directory; there may be no directory. -/
abbrev Directory := Option (List Entry)

/-- The digits of a checksum. -/
def isHexDigit (c : Char) : Bool := c.isDigit || ('a' ≤ c && c ≤ 'f')

/-- The 64 digits that `hexdigest` makes of a `sha256`. -/
abbrev Checksum := {digits : Str // digits.length = 64 ∧ ∀ c ∈ digits, isHexDigit c = true}

/-- A migration, as far as applying it needs it. -/
structure Migration where
  path : Entry
  version : Nat
  name : Str
  sql : Str
  checksum : Checksum

namespace Migration

/-- The name of the file of an entry. -/
def fileName (migration : Migration) : Str := migration.path.name

end Migration

/-- How a call of a script ends early: the reading refuses, the database refuses, or an
exception that nobody catches. -/
inductive Failure where
  | migration (text : Str)
  | database (text : Str)
  | uncaught
deriving DecidableEq

/-- What reading a directory uses: the digits of Unicode, the digest, and the parser, which
refuses a text or lists what is unsupported in it. -/
structure Tools where
  decimals : Decimals
  sha256 : ByteArray → Checksum
  parse : Str → Str → Except Str Unit
  unsupported : Str → Str → List Str

theorem eq_of_version_eq {migrations : List Migration} {a b : Migration}
    (h : migrations.Pairwise fun a b => a.version < b.version) (ha : a ∈ migrations)
    (hb : b ∈ migrations) (hversion : a.version = b.version) : a = b := by
  by_contra hne
  have hapart : Std.Symm fun a b : Migration => a.version ≠ b.version :=
    ⟨fun _ _ h => Ne.symm h⟩
  exact (h.imp fun h => Nat.ne_of_lt h).forall ha hb hne hversion

/-! ### Names of files -/

/-- `path.suffix`. -/
def suffix (name : Str) : Str :=
  match partition '.' name.reverse with
  | (ending, '.' :: _, stem) =>
    if ending ≠ [] ∧ stem ≠ [] then '.' :: ending.reverse else []
  | _ => []

/-- What the name of a migration is made of. -/
def isNameChar (c : Char) : Bool := ('a' ≤ c && c ≤ 'z') || c.isDigit || c = '_'

/-- `FILE_NAME`: `^V(\d{3,})__([a-z0-9_]+)\.sql$`, with its two groups. -/
def matchFileName (decimals : Decimals) (name : Str) : Option (Str × Str) :=
  match name with
  | 'V' :: rest =>
    let digits := rest.takeWhile fun c => (decimals.value c).isSome
    match rest.dropWhile fun c => (decimals.value c).isSome with
    | '_' :: '_' :: rest =>
      let stem := rest.takeWhile isNameChar
      let ending := rest.dropWhile isNameChar
      if 3 ≤ digits.length ∧ stem ≠ [] ∧
          (ending = ".sql".toList ∨ ending = ".sql\n".toList) then
        some (digits, stem)
      else none
    | _ => none
  | _ => none

/-- A directory, or a file that is none of SQL, is passed over. -/
def isSkipped (path : Entry) : Bool := path.isDir || suffix path.name ≠ ".sql".toList

/-! ### Reading the directory -/

section Load

variable (tools : Tools)

/-- The migration of a file whose name has the right form. -/
def readMigration (path : Entry) (version : Nat) (name : Str) : Except Failure Migration := do
  let sql ← (readText path.bytes).elim (.error .uncaught) .ok
  let checksum := tools.sha256 path.bytes
  (tools.parse sql path.name).mapError .migration
  return ⟨path, version, name, sql, checksum⟩

/-- One turn of the loop over the directory. -/
def loadEntry (loaded : List Migration) (path : Entry) : Except Failure (List Migration) :=
  if isSkipped path then .ok loaded
  else
    match matchFileName tools.decimals path.name with
    | none =>
      .error (.migration
        (path.name ++ ": имя не по правилу V001__короткое_имя.sql".toList))
    | some (digits, name) =>
      match int tools.decimals digits with
      | none => .error .uncaught
      | some number =>
        match loaded.find? (·.version = number.toNat) with
        | some other =>
          .error (.migration
            (path.name ++ ": версия ".toList ++ str number ++ " уже занята файлом ".toList ++
              other.fileName ++ ". Номер выдаётся один раз.".toList))
        | none => do
          let migration ← readMigration tools path number.toNat name
          return loaded ++ [migration]

/-- The migrations of the directory by ascending version. -/
def load (directory : Directory) : Except Failure (List Migration) :=
  match directory with
  | none => .ok []
  | some entries => do
    let migrations ← (entries.insertionSort (·.name ≤ ·.name)).foldlM (loadEntry tools) []
    return migrations.insertionSort (·.version ≤ ·.version)

variable {tools}

/-- Text and checksum of a migration are those of its file. -/
structure Migration.IsRead (tools : Tools) (migration : Migration) : Prop where
  sql : readText migration.path.bytes = some migration.sql
  checksum : migration.checksum = tools.sha256 migration.path.bytes

theorem readMigration_eq_ok {path : Entry} {version : Nat} {name : Str} {migration : Migration}
    (h : readMigration tools path version name = .ok migration) :
    migration.path = path ∧ migration.version = version ∧ migration.IsRead tools := by
  unfold readMigration at h
  cases hsql : readText path.bytes with
  | none => rw [hsql] at h; cases h
  | some sql =>
    rw [hsql] at h
    cases hparse : tools.parse sql path.name with
    | error text => simp [hparse, Except.mapError, bind, Except.bind] at h
    | ok done =>
      simp [hparse, Except.mapError, bind, Except.bind, pure, Except.pure] at h
      subst h
      exact ⟨rfl, rfl, hsql, rfl⟩

/-- A file is passed over, or one migration of a new version is read from it. -/
theorem loadEntry_eq_ok {loaded loaded' : List Migration} {path : Entry}
    (h : loadEntry tools loaded path = .ok loaded') :
    (isSkipped path = true ∧ loaded' = loaded) ∨
      ∃ migration, isSkipped path = false ∧ loaded' = loaded ++ [migration] ∧
        migration.path = path ∧ migration.IsRead tools ∧
        ∀ other ∈ loaded, other.version ≠ migration.version := by
  unfold loadEntry at h
  split at h
  · rename_i hskipped
    exact Or.inl ⟨hskipped, (Except.ok.inj h).symm⟩
  · rename_i hsql
    refine Or.inr ?_
    cases hname : matchFileName tools.decimals path.name with
    | none => rw [hname] at h; cases h
    | some groups =>
    cases hnumber : int tools.decimals groups.1 with
    | none => simp only [hname, hnumber] at h; cases h
    | some number =>
    cases hfound : loaded.find? (·.version = number.toNat) with
    | some other => simp only [hname, hnumber, hfound] at h; cases h
    | none =>
    cases hread : readMigration tools path number.toNat groups.2 with
    | error failure => simp only [hname, hnumber, hfound, hread] at h; cases h
    | ok migration =>
      simp only [hname, hnumber, hfound, hread] at h
      obtain ⟨hpath, hversion, hisRead⟩ := readMigration_eq_ok hread
      refine ⟨migration, Bool.eq_false_iff.2 hsql, (Except.ok.inj h).symm, hpath, hisRead,
        fun other hother hsame => ?_⟩
      rw [hversion] at hsame
      exact List.find?_eq_none.1 hfound other hother (decide_eq_true hsame)

/-- A file whose name has the right form, of a version that is new. -/
theorem loadEntry_of_readMigration {loaded : List Migration} {path : Entry} {digits name : Str}
    {number : Int} {migration : Migration} (hskipped : isSkipped path = false)
    (hname : matchFileName tools.decimals path.name = some (digits, name))
    (hnumber : int tools.decimals digits = some number)
    (hnew : ∀ other ∈ loaded, other.version ≠ number.toNat)
    (hread : readMigration tools path number.toNat name = .ok migration) :
    loadEntry tools loaded path = .ok (loaded ++ [migration]) := by
  have hfound : loaded.find? (·.version = number.toNat) = none :=
    List.find?_eq_none.2 fun other hother hsame => hnew other hother (of_decide_eq_true hsame)
  rw [loadEntry, if_neg (Bool.eq_false_iff.1 hskipped), hname]
  simp only [hnumber, hfound, hread]
  rfl

/-- What the loop over the directory has read: one migration for each file so far, no two of
one version. -/
theorem foldlM_loadEntry {paths : List Entry} {loaded loaded' : List Migration}
    (h : paths.foldlM (loadEntry tools) loaded = .ok loaded')
    (hread : ∀ migration ∈ loaded, migration.IsRead tools)
    (hversions : loaded.Pairwise fun a b => a.version ≠ b.version) :
    loaded'.map (·.path) = loaded.map (·.path) ++ paths.filter (fun path => !isSkipped path) ∧
      (∀ migration ∈ loaded', migration.IsRead tools) ∧
      loaded'.Pairwise fun a b => a.version ≠ b.version := by
  induction paths generalizing loaded with
  | nil =>
    obtain rfl := Except.ok.inj h
    exact ⟨by simp, hread, hversions⟩
  | cons path paths ih =>
    rw [List.foldlM_cons] at h
    cases hentry : loadEntry tools loaded path with
    | error failure => rw [hentry] at h; cases h
    | ok between =>
      rw [hentry] at h
      rcases loadEntry_eq_ok hentry with
        ⟨hskipped, rfl⟩ | ⟨migration, hsql, rfl, hpath, hisRead, hnew⟩
      · obtain ⟨hpaths, hlater⟩ := ih h hread hversions
        exact ⟨by rw [hpaths]; simp [hskipped], hlater⟩
      · have hread' : ∀ other ∈ loaded ++ [migration], other.IsRead tools := by
          intro other hother
          rcases List.mem_append.1 hother with hother | hother
          · exact hread other hother
          · exact List.mem_singleton.1 hother ▸ hisRead
        have hversions' : (loaded ++ [migration]).Pairwise fun a b => a.version ≠ b.version := by
          refine List.pairwise_append.2 ⟨hversions, List.pairwise_singleton _ _, ?_⟩
          intro other hother last hlast
          exact List.mem_singleton.1 hlast ▸ hnew other hother
        obtain ⟨hpaths, hlater⟩ := ih h hread' hversions'
        exact ⟨by rw [hpaths]; simp [hsql, hpath], hlater⟩

/-- A directory that was read: the files of SQL in it, each of them read, by ascending version. -/
theorem load_eq_ok {entries : List Entry} {migrations : List Migration}
    (h : load tools (some entries) = .ok migrations) :
    (migrations.map (·.path)).Perm (entries.filter fun path => !isSkipped path) ∧
      (∀ migration ∈ migrations, migration.IsRead tools) ∧
      migrations.Pairwise fun a b => a.version < b.version := by
  unfold load at h
  cases hloop : (entries.insertionSort (·.name ≤ ·.name)).foldlM (loadEntry tools) [] with
  | error failure => simp only [hloop] at h; cases h
  | ok loaded =>
    simp only [hloop] at h
    obtain rfl := Except.ok.inj h
    obtain ⟨hpaths, hread, hversions⟩ := foldlM_loadEntry hloop (by simp) .nil
    have hperm := List.perm_insertionSort (fun a b : Migration => a.version ≤ b.version) loaded
    refine ⟨?_, fun migration hmem => hread migration (hperm.subset hmem), ?_⟩
    · refine (hperm.map _).trans ?_
      rw [hpaths]
      exact ((List.perm_insertionSort _ entries).filter _)
    · have hdistinct := hversions.perm hperm.symm fun hne => Ne.symm hne
      have hascending := List.pairwise_insertionSort
        (fun a b : Migration => a.version ≤ b.version) loaded
      exact hascending.imp₂ (fun _ _ hle hne => lt_of_le_of_ne hle hne) hdistinct

/-- Versions ascend strictly. -/
theorem pairwise_load {directory : Directory} {migrations : List Migration}
    (h : load tools directory = .ok migrations) :
    migrations.Pairwise fun a b => a.version < b.version := by
  cases directory with
  | none =>
    obtain rfl := Except.ok.inj h
    exact .nil
  | some entries => exact (load_eq_ok h).2.2

theorem isRead_of_load {directory : Directory} {migrations : List Migration}
    (h : load tools directory = .ok migrations) :
    ∀ migration ∈ migrations, migration.IsRead tools := by
  cases directory with
  | none =>
    obtain rfl := Except.ok.inj h
    exact fun migration hmem => absurd hmem List.not_mem_nil
  | some entries => exact (load_eq_ok h).2.1

end Load

end Pdr.Migrations
