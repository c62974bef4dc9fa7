import Mathlib.Data.List.Infix
import Pdr.Migrations.Directory
import Pdr.Python.Dict
import Pdr.StoreProgram.Program
import Pdr.StoreProgram.Table

/-!
# Applying migrations

A migration is applied by `psql`, in one transaction with the row that says so in the registry.
Everything else about a call is text: `psql` prints the registry, the call compares it with the
directory, and refuses where the two disagree. What a migration does to the registry besides
is the migration's own matter, and whether `psql` succeeds is nobody's; both are taken from
outside.

## Main definitions

* `Pdr.Migrations.World`: the registry, what was committed so far, and what `psql` will do.
* `Pdr.Migrations.Op`, `Pdr.Migrations.machine`: what a call does to the world.
* `Pdr.Migrations.commandApply`: the command of the source.
* `Pdr.Migrations.apply`: the call of the script that applies a directory.
-/

namespace Pdr.Migrations

open Python StoreProgram Program

/-! ### The registry -/

/-- A row of `schema_version`. -/
structure RegistryRow where
  version : Nat
  checksum : Checksum
deriving DecidableEq

/-- The version is a primary key, of type `integer`. -/
instance registrySchema : Schema RegistryRow where
  check row := decide (row.version ≤ 2147483647)
  clash a b := decide (a.version = b.version)
  clash_symm _ _ h := decide_eq_true (of_decide_eq_true h).symm

/-- The table, unless it does not exist. -/
abbrev Registry := Option (Table RegistryRow)

/-- The rows of a registry, none if it is not there. -/
def rowsOf (registry : Registry) : List RegistryRow := registry.elim [] (·.rows)

@[simp] theorem rowsOf_none : rowsOf none = [] := rfl

@[simp] theorem rowsOf_some (table : Table RegistryRow) : rowsOf (some table) = table.rows := rfl

/-- The row that records a migration. -/
def Migration.row (migration : Migration) : RegistryRow := ⟨migration.version, migration.checksum⟩

/-! ### The database -/

/-- How a transaction stands where the text of a migration ends: one of its statements failed;
all of them are done; or the last one is still open, so that the statement which follows is
taken for a part of it. -/
inductive ScriptEnd where
  | failed (stderr : Str)
  | closed (registry : Registry)
  | open_ (registry : Registry)

/-- What becomes of a call of `psql`: the program is missing; it fails without a trace in the
database; it does its work against a database in this state; or it does, and the connection
breaks before it can tell. -/
inductive Fate (Rest : Type) where
  | missing
  | fails (stderr : Str)
  | answers (rest : Rest)
  | breaks (rest : Rest) (stderr : Str)

/-- What the texts of migrations do to the registry, depending on the rest of the database. -/
abbrev Script (Rest : Type) := Rest → Str → Registry → ScriptEnd

/-- Where a line is printed to. -/
inductive Stream where
  | stdout
  | stderr
deriving DecidableEq

/-- The registry, the migrations whose text was committed, what will become of the next calls
of `psql`, and what was printed. -/
structure World (Rest : Type) where
  registry : Registry
  committed : List Migration
  fates : List (Fate Rest)
  printed : List (Stream × Str)

/-- The rows of the registry. -/
def World.rows {Rest : Type} (w : World Rest) : List RegistryRow := rowsOf w.registry

/-! ### The calls -/

/-- What `psql` is called for. -/
inductive Query where
  | registryExists
  | appliedVersions
  | applyOne (migration : Migration)

/-- What a script does besides computing. -/
inductive Op where
  | print (stream : Stream) (line : Str)
  | runSql (query : Query)

/-- `psql` is answered for by what it prints. -/
abbrev Answer : Op → Type
  | .print .. => Unit
  | .runSql _ => Str

/-- The name of the registry. -/
def registryName : Str := "schema_version".toList

/-- `result.stderr.strip() or …`. -/
def databaseError (stderr : Str) : Failure :=
  .database (if strip stderr = [] then "psql завершился с ошибкой".toList else strip stderr)

/-- One line of output for each row, by ascending version. -/
def printRows (rows : List RegistryRow) : Str :=
  (rows.insertionSort (·.version ≤ ·.version)).flatMap fun row =>
    str row.version ++ '|' :: row.checksum.1 ++ ['\n']

section Database

variable {Rest : Type} (script : Script Rest)

/-- The transaction of a migration: its text, then the row, or nothing. -/
def transaction (rest : Rest) (migration : Migration) (w : World Rest) :
    Except Failure (World Rest) :=
  match script rest migration.sql w.registry with
  | .failed stderr => .error (databaseError stderr)
  | .open_ registry =>
    .ok { w with registry := registry, committed := w.committed ++ [migration] }
  | .closed none => .error (databaseError "relation \"schema_version\" does not exist".toList)
  | .closed (some table) =>
    match table.insert migration.row with
    | none => .error (databaseError "the row breaks a constraint".toList)
    | some table =>
      .ok { w with registry := some table, committed := w.committed ++ [migration] }

/-- What `psql` does against a database in the given state, with what it prints. -/
def serve (rest : Rest) (w : World Rest) : Query → Except Failure (Str × World Rest)
  | .registryExists => .ok ((if w.registry.isSome then "t\n" else "f\n").toList, w)
  | .appliedVersions =>
    match w.registry with
    | none => .error (databaseError "relation \"schema_version\" does not exist".toList)
    | some table => .ok (printRows table.rows, w)
  | .applyOne migration => (transaction script rest migration w).map fun w => ([], w)

/-- `run_sql`: a call of `psql`, with what becomes of it. -/
def runSql (query : Query) (w : World Rest) : Except Failure Str × World Rest :=
  match w.fates with
  | [] => (.error (databaseError []), w)
  | .missing :: fates =>
    (.error (.database "нет psql: применять миграции нечем".toList), { w with fates := fates })
  | .fails stderr :: fates => (.error (databaseError stderr), { w with fates := fates })
  | .answers rest :: fates =>
    match serve script rest { w with fates := fates } query with
    | .ok (answer, w) => (.ok answer, w)
    | .error failure => (.error failure, { w with fates := fates })
  | .breaks rest stderr :: fates =>
    match serve script rest { w with fates := fates } query with
    | .ok (_, w) => (.error (databaseError stderr), w)
    | .error failure => (.error failure, { w with fates := fates })

/-- What a script does to the world. -/
def machine : Machine Answer Failure (World Rest) where
  exec
    | .print stream line, w => (.ok (), { w with printed := w.printed ++ [(stream, line)] })
    | .runSql query, w => runSql script query w

end Database

/-! ### The functions of `migrate.py` -/

/-- The programs over `psql`. -/
abbrev Psql (α : Type) := Program Answer Failure α

/-- `print`. -/
def printLine (stream : Stream) (line : Str) : Psql Unit := perform (Op.print stream line)

/-- Lines that are printed one after another. -/
def printLines (stream : Stream) : List Str → Psql Unit
  | [] => return ()
  | line :: lines => do
    printLine stream line
    printLines stream lines

/-- `registry_exists`. -/
def registryExists : Psql Bool := do
  let answer ← perform (Op.runSql .registryExists)
  return strip answer = "t".toList

/-- The loop over the lines that `psql` printed. -/
def readVersions (decimals : Decimals) (answer : Str) : Except Failure (Dict Int Str) :=
  (splitlines answer).foldlM
    (fun applied line =>
      if strip line = [] then .ok applied
      else
        let (version, _, checksum) := partition '|' line
        match int decimals version with
        | none => .error .uncaught
        | some version => .ok (applied.set version (strip checksum)))
    []

/-- `applied_versions`. -/
def appliedVersions (decimals : Decimals) : Psql (Dict Int Str) := do
  let answer ← perform (Op.runSql .appliedVersions)
  ofExcept (readVersions decimals answer)

/-- `apply_one`. -/
def applyOne (migration : Migration) : Psql Unit := do
  let _ ← perform (Op.runSql (.applyOne migration))
  return ()

/-- The complaint about a file whose text was changed. -/
def changedText (migration : Migration) (recorded : Str) : Str :=
  migration.fileName ++ ": содержимое изменилось после применения.\n".toList ++
    "    в реестре: ".toList ++ recorded ++ "\n    на диске:  ".toList ++ migration.checksum.1 ++
    "\n    Применённую миграцию не редактируют. Верните файл как был и ".toList ++
    "напишите новую миграцию.".toList

/-- The complaint about a file that is gone. -/
def missingText (version : Int) : Str :=
  "версия ".toList ++ str version ++ " применена к базе, но файла для неё нет. ".toList ++
    "Удалять применённые миграции нельзя — историю базы это не отменяет.".toList

/-- Where registry and files differ. -/
def mismatches (migrations : List Migration) (applied : Dict Int Str) : List Str :=
  let byVersion := migrations.map fun migration => (migration.version : Int)
  (migrations.filterMap fun migration =>
    match applied.get? (migration.version : Int) with
    | none => none
    | some recorded =>
      if recorded ≠ migration.checksum.1 then some (changedText migration recorded) else none) ++
  ((applied.keys.filter (· ∉ byVersion)).insertionSort (· ≤ ·)).map missingText

/-- The migrations that are not in the registry. -/
def pendingOf (migrations : List Migration) (applied : Dict Int Str) : List Migration :=
  migrations.filter fun migration => (migration.version : Int) ∉ applied.keys

/-- The loop over the pending migrations. -/
def applyAll : List Migration → Psql Unit
  | [] => return ()
  | migration :: pending => do
    printLine .stdout ("применяю ".toList ++ migration.fileName)
    applyOne migration
    applyAll pending

/-- What is left of `command_apply` when it is known what is applied. -/
def applyPending (migrations : List Migration) (applied : Dict Int Str) : Psql Nat := do
  let pending := pendingOf migrations applied
  if pending = [] then
    printLine .stdout ("Применять нечего: все ".toList ++ str migrations.length ++
      " миграций уже в реестре.".toList)
    return 0
  else
    applyAll pending
    printLine .stdout ("Применено миграций: ".toList ++ str pending.length ++
      ". Всего в реестре: ".toList ++ str migrations.length ++ ".".toList)
    return 0

/-- `command_apply`. -/
def commandApply (decimals : Decimals) : List Migration → Psql Nat
  | [] => do
    printLine .stdout "миграций нет — применять нечего".toList
    return 0
  | first :: others => do
    let migrations := first :: others
    if ← registryExists then
      let applied ← appliedVersions decimals
      let problems := mismatches migrations applied
      if problems ≠ [] then
        printLines .stderr problems
        return 1
      else
        applyPending migrations applied
    else if ¬ registryName <:+: lower first.sql then
      printLine .stderr ("реестра ".toList ++ registryName ++
        " нет, и первая миграция (".toList ++ first.fileName ++ ") его не заводит. ".toList ++
        "Механизм не сможет записать, что он что-то применил.".toList)
      return 1
    else
      applyPending migrations []

/-- The first migration with something unsupported in it: what is unsupported. -/
def firstUnsupported (tools : Tools) (migrations : List Migration) : Option (List Str) :=
  (migrations.map fun migration => tools.unsupported migration.sql migration.fileName).find?
    (· ≠ [])

/-- What is left of a call that the database has ended. -/
def onDatabaseError : Failure → Psql Nat
  | .database text => do
    printLine .stderr text
    return 2
  | failure => raise failure

/-- `main(["apply", "--dir", …])`. -/
def apply (tools : Tools) (directory : Directory) : Psql Nat :=
  match load tools directory with
  | .error (.migration text) => do
    printLine .stderr text
    return 1
  | .error failure => raise failure
  | .ok migrations =>
    match firstUnsupported tools migrations with
    | some problems => do
      printLines .stderr problems
      return 1
    | none => (commandApply tools.decimals migrations).tryCatch onDatabaseError

end Pdr.Migrations
