import Mathlib.Data.List.Lex
import Mathlib.Data.List.Sort
import Pdr.ProductEvents.Block
import Pdr.Python.Files

/-!
# The registry of events and the snapshot

The registry describes the events as they are now; the snapshot keeps the fields of each type
and version that was ever published. An update reads both, refuses what would take a field away
or change its kind, and writes the snapshot anew.

## Main definitions

* `Pdr.ProductEvents.parseEvents`, `Pdr.ProductEvents.parsePublished`: the two readers.
* `Pdr.ProductEvents.renderPublished`: the snapshot as text.
* `Pdr.ProductEvents.currentSnapshot`, `Pdr.ProductEvents.frozenSchemaViolations`.
* `Pdr.ProductEvents.update`: the command of the source.
-/

namespace Pdr.ProductEvents

open Python

/-- What the interpreter brings along: Unicode, and how many calls of `parse_block` may be open
besides the two that each snapshot needs. -/
structure Interpreter where
  unicode : Unicode
  spareFrames : Nat

/-- The fields of an event with their kinds. -/
abbrev Fields := Dict Str Str

/-- For each type and version its fields. -/
abbrev Snapshot := Dict (Str × Int) Fields

/-- Where the registry lies. -/
def eventsPath : Str := "configs/product-events.yaml".toList

/-- Where the snapshot lies. -/
def publishedPath : Str := "configs/product-events.published.yaml".toList

section Read

variable (interpreter : Interpreter)

/-- `parse_block` from the top level of a text. -/
def parseTopBlock (total : Nat) (lines : List Str) : Except Failure (Value × List Str) :=
  parseBlock total (interpreter.spareFrames + 2) lines 0

variable {interpreter} in
theorem length_of_parseTopBlock {total : Nat} {lines rest : List Str} {value : Value}
    (h : parseTopBlock interpreter total lines = .ok (value, rest)) :
    rest.length ≤ lines.length :=
  (suffix_of_parseBlock h).length_le

/-- A line that the parser does not understand. -/
def notUnderstood (total : Nat) (line : Str) (after : List Str) : Str :=
  eventsPath ++ ":".toList ++ lineNumber total after ++ ": разбор не понял строку «".toList ++
    (strip line).take 40 ++ "». ".toList ++
    "На верхнем уровне бывают только имена событий вида контекст.что_произошло:".toList

/-- The loop of `parse_events` from a line on. -/
def parseEventsFrom (total : Nat) (lines : List Str) (events : Dict Str (Dict Str Value)) :
    Except Failure (Dict Str (Dict Str Value)) :=
  match lines with
  | [] => .ok events
  | line :: after =>
    if isPassedOver line then parseEventsFrom total after events
    else if line.head?.any isSpace then .error (.events (notUnderstood total line after))
    else
      let (name, separator, rest) := partition ':' line
      if separator = [] ∨ strip rest ≠ [] then .error (.events (notUnderstood total line after))
      else if name ∈ events.keys then
        .error (.events (eventsPath ++ ":".toList ++ lineNumber total after ++
          ": событие ".toList ++ name ++ " описано второй раз".toList))
      else
        match _h : parseTopBlock interpreter total after with
        | .ok (.dict block, rest) => parseEventsFrom total rest (events.set name block)
        | .ok _ =>
          .error (.events (eventsPath ++ ": у события ".toList ++ name ++
            " тело не похоже на набор полей".toList))
        | .error (.events text) =>
          .error (.events (eventsPath ++ ": у события ".toList ++ name ++ " ".toList ++ text))
        | .error failure => .error failure
termination_by lines.length
decreasing_by
  · simp
  · have hle := length_of_parseTopBlock _h
    simp only [List.length_cons]
    omega

/-- `parse_events`: the events of the registry with what is said about them. -/
def parseEvents (text : Str) : Except Failure (Dict Str (Dict Str Value)) :=
  parseEventsFrom interpreter (splitlines text).length (splitlines text) []

/-- What the type in a key is made of. -/
def isKeyChar (c : Char) : Bool :=
  ('a' ≤ c && c ≤ 'z') || ('0' ≤ c && c ≤ '9') || c = '_' || c = '.'

/-- `PUBLISHED_KEY`: `^([a-z][a-z0-9_.]*)@(\d+)$`, with its two groups. -/
def matchPublishedKey (decimals : Decimals) (key : Str) : Option (Str × Str) :=
  match key.takeWhile isKeyChar, key.dropWhile isKeyChar with
  | first :: name, '@' :: rest =>
    let digits := rest.takeWhile fun c => (decimals.value c).isSome
    let ending := rest.dropWhile fun c => (decimals.value c).isSome
    if 'a' ≤ first ∧ first ≤ 'z' ∧ digits ≠ [] ∧ (ending = [] ∨ ending = ['\n']) then
      some (first :: name, digits)
    else none
  | _, _ => none

/-- The fields of a block, each value as text. -/
def fieldsOf (unicode : Unicode) (block : Dict Str Value) : Fields :=
  block.map fun item => (item.1, item.2.str unicode)

/-- The loop of `parse_published` from a line on. -/
def parsePublishedFrom (total : Nat) (lines : List Str) (published : Snapshot) :
    Except Failure Snapshot :=
  match lines with
  | [] => .ok published
  | line :: after =>
    if isPassedOver line then parsePublishedFrom total after published
    else if line.head?.any isSpace then
      .error (.events (publishedPath ++ ":".toList ++ lineNumber total after ++
        ": разбор не понял строку «".toList ++ (strip line).take 40 ++ "»".toList))
    else
      let key := strip (partition ':' line).1
      match matchPublishedKey interpreter.unicode.toDecimals key with
      | none =>
        .error (.events (publishedPath ++ ":".toList ++ lineNumber total after ++ ": «".toList ++
          key ++ "» не похоже на «тип@версия». Снимок пишется ".toList ++
          "машиной: python3 scripts/check_product_events.py --update".toList))
      | some (name, digits) =>
        match _h : parseTopBlock interpreter total after with
        | .ok (.dict block, rest) =>
          match int interpreter.unicode.toDecimals digits with
          | none => .error .uncaught
          | some version =>
            parsePublishedFrom total rest
              (published.set (name, version) (fieldsOf interpreter.unicode block))
        | .ok _ =>
          .error (.events (publishedPath ++ ": у ".toList ++ key ++
            " тело не похоже на набор полей".toList))
        | .error failure => .error failure
termination_by lines.length
decreasing_by
  · simp
  · have hle := length_of_parseTopBlock _h
    simp only [List.length_cons]
    omega

/-- `parse_published`: the snapshot that a text stands for. -/
def parsePublished (text : Str) : Except Failure Snapshot :=
  parsePublishedFrom interpreter (splitlines text).length (splitlines text) []

/-- The entry of an event, if it has fields and its version is a number. -/
def snapshotEntry (item : Str × Dict Str Value) : Option ((Str × Int) × Fields) :=
  match item.2.get? "fields".toList with
  | some (.dict fields) =>
    let version := (item.2.get? "version".toList).elim "None".toList (·.str interpreter.unicode)
    (int interpreter.unicode.toDecimals version).map fun number =>
      ((item.1, number), fields.map fun field =>
        (field.1,
          match field.2 with
          | .dict body => (Dict.get? "type".toList body).elim [] (·.str interpreter.unicode)
          | _ => []))
  | _ => none

/-- `current_snapshot`. -/
def currentSnapshot (events : Dict Str (Dict Str Value)) : Snapshot :=
  Dict.update [] (events.filterMap (snapshotEntry interpreter))

end Read

/-! ### The snapshot as text -/

/-- Keys by name and then by version. -/
def KeyLe (a b : Str × Int) : Prop := a.1 < b.1 ∨ a.1 = b.1 ∧ a.2 ≤ b.2

instance decidableKeyLe (a b : Str × Int) : Decidable (KeyLe a b) :=
  inferInstanceAs (Decidable (a.1 < b.1 ∨ a.1 = b.1 ∧ a.2 ≤ b.2))

/-- The entries in the order of their keys. -/
def sortedEntries (snapshot : Snapshot) : List ((Str × Int) × Fields) :=
  snapshot.insertionSort fun a b => KeyLe a.1 b.1

/-- The fields in the order of their names. -/
def sortedFields (fields : Fields) : List (Str × Str) :=
  fields.insertionSort fun a b => a.1 ≤ b.1

/-- The lines of the comment in front. -/
def headLines : List Str :=
  ["# Опубликованные схемы продуктовых событий. Файл пишет машина:".toList,
    "# python3 scripts/check_product_events.py --update (make product-events-lock).".toList,
    "#".toList,
    "# Он существует ради одного правила: ОПУБЛИКОВАННАЯ СХЕМА НЕ МЕНЯЕТСЯ. Поле можно".toList,
    "# добавить — старый читатель не заметит нового поля. Убрать или переименовать".toList,
    "# нельзя: старые записи остаются в таблице и читаются тем же кодом. Нужно убрать —".toList,
    "# поднимите версию: снимок получит новую строку, а старая останется навсегда.".toList,
    "#".toList,
    "# Строки исчезнувших версий отсюда НЕ удаляются: событие убрали из реестра, а".toList,
    "# записи о нём в базе остались, и читать их кто-то будет.".toList]

/-- The comment in front. -/
def head : Str := headLines.flatMap (· ++ ['\n'])

/-- `f"  {field}: {kind}\n"`. -/
def renderField (field : Str × Str) : Str :=
  ' ' :: ' ' :: field.1 ++ ':' :: ' ' :: field.2 ++ ['\n']

/-- `f"\n{name}@{version}:\n"` and the fields. -/
def renderEntry (entry : (Str × Int) × Fields) : Str :=
  '\n' :: entry.1.1 ++ '@' :: str entry.1.2 ++ [':', '\n'] ++
    (sortedFields entry.2).flatMap renderField

/-- `render_published`. -/
def renderPublished (snapshot : Snapshot) : Str :=
  head ++ (sortedEntries snapshot).flatMap renderEntry

/-! ### Updating -/

/-- A field of the snapshot that is missing or of another kind now. -/
def fieldViolation (name : Str) (version : Int) (current : Fields) (field : Str × Str) :
    Option Str :=
  match current.get? field.1 with
  | none =>
    some (eventsPath ++ ": у события ".toList ++ name ++ " версии ".toList ++ str version ++
      " пропало поле «".toList ++ field.1 ++ "». ".toList ++
      "Опубликованная схема не меняется: старые записи остаются в таблице и ".toList ++
      "читаются тем же кодом. Нужно убрать поле — поднимите версию".toList)
  | some kind =>
    if kind ≠ field.2 then
      some (eventsPath ++ ": у события ".toList ++ name ++ " версии ".toList ++ str version ++
        " поле «".toList ++ field.1 ++ "» сменило тип ".toList ++
        "«".toList ++ field.2 ++ "» на «".toList ++ kind ++
        "». Это та же смена схемы: читатель ".toList ++
        "старых записей ждёт прежний тип. Поднимите версию".toList)
    else none

/-- `frozen_schema_violations`. -/
def frozenSchemaViolations (current published : Snapshot) : List Str :=
  (sortedEntries published).flatMap fun entry =>
    match current.get? entry.1 with
    | none => []
    | some fields => (sortedFields entry.2).filterMap (fieldViolation entry.1.1 entry.1.2 fields)

/-- What an update leaves behind: its result, the file of the snapshot, and what it printed. -/
structure Outcome where
  result : Except Failure Nat
  published : Option ByteArray
  stdout : List Str
  stderr : List Str

/-- An exception that nobody catches. -/
def crashed (published : Option ByteArray) : Outcome := ⟨.error .uncaught, published, [], []⟩

/-- What is left of an update when both files were read. -/
def writeSnapshot (current snapshot : Snapshot) (published : Option ByteArray) : Outcome :=
  let refusals := frozenSchemaViolations current snapshot
  if refusals ≠ [] then
    ⟨.ok 1, published, [], refusals ++
      ["Снимок НЕ обновлён. Обход правила не состоит из одной команды: поднимите версию ".toList ++
        "события, и снимок получит новую строку, а старая останется.".toList]⟩
  else
    let merged := snapshot.update current
    ⟨.ok 0, some (writeText (renderPublished merged)),
      ["Снимок опубликованных схем записан: ".toList ++ publishedPath ++
        ", пар «тип + версия»: ".toList ++ str merged.length], []⟩

/-- `update`, with the bytes of the registry and of the snapshot, if there are such files. -/
def update (interpreter : Interpreter) (registry published : Option ByteArray) : Outcome :=
  match registry.bind readText with
  | none => crashed published
  | some text =>
    match parseEvents interpreter text with
    | .error .uncaught => crashed published
    | .error (.events text) => ⟨.ok 1, published, [], [text]⟩
    | .ok events =>
      let current := currentSnapshot interpreter events
      match published with
      | none => writeSnapshot current [] none
      | some bytes =>
        match readText bytes with
        | none => crashed published
        | some text =>
          match parsePublished interpreter text with
          | .error .uncaught => crashed published
          | .error (.events text) => ⟨.ok 1, published, [], [text]⟩
          | .ok snapshot => writeSnapshot current snapshot published

end Pdr.ProductEvents
