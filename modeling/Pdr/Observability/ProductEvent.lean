import Mathlib.Data.List.Infix
import Pdr.Core.Uuid

/-!
# Product events

A product event says what somebody did without saying who he is: a type, a version of its
schema, a tenant, a role, a moment and fields. A field that names a person is refused when the
event is made.

## Main definitions

* `Pdr.Observability.Value`, `Pdr.Observability.Fields`
* `Pdr.Observability.anonymityBreach`: the first field that names a person.
* `Pdr.Observability.ProductEvent`, made by `ProductEvent.compose`.
* `Pdr.Observability.record`: the contract other contexts use.
-/

namespace Pdr

/-- The text as a person reads it. Bytes that are no UTF-8 have no such text. -/
def shown (text : Text) : String := (String.fromUTF8? ⟨text.toArray⟩).getD ""

end Pdr

namespace Pdr.Observability

/-! ### The contract's values -/

/-- `Role`: all that an event knows of a person. -/
inductive Role where
  | tutor
  | student
  | guardian
  | system
deriving DecidableEq, Repr

/-- The kinds of the values. -/
inductive ValueKind where
  | count
  | minutes
  | hours
  | days
  | flag
  | bucket
  | code
  | reference
  | score
deriving DecidableEq, Repr

/-- The value of a field. A reference to a person cannot be made. -/
inductive Value where
  | count (number : Int)
  | minutes (number : Int)
  | hours (number : Int)
  | days (number : Int)
  | flag (yes : Bool)
  | bucket (text : Text)
  | code (text : Text)
  | reference {tag : IdTag} (notPerson : tag ≠ .person) (id : StrongId tag)
  | score (number : Int)

namespace Value

/-- The kind of a value. -/
def kind : Value → ValueKind
  | count _ => .count
  | minutes _ => .minutes
  | hours _ => .hours
  | days _ => .days
  | flag _ => .flag
  | bucket _ => .bucket
  | code _ => .code
  | reference .. => .reference
  | score _ => .score

/-- `Text`: what a value without a text answers is empty. -/
def text : Value → Text
  | bucket text => text
  | code text => text
  | reference _ id => id.toText
  | _ => []

end Value

/-- `Fields`: names with values, in the order of the names. -/
structure Fields where
  entries : List (Text × Value)
  sorted : (entries.map (·.1)).Pairwise (· < ·)

/-- The names of the fields. -/
def Fields.names (fields : Fields) : List Text := fields.entries.map (·.1)

/-! ### What is refused -/

/-- `kFirstVersion`. -/
def kFirstVersion : Int := 1

/-- `kPersonWords`. -/
def kPersonWords : List Text :=
  [ascii "person", ascii "email", ascii "phone", ascii "login", ascii "name", ascii "passport"]

/-- A small letter of ASCII. -/
def isLower (symbol : UInt8) : Bool := 97 ≤ symbol && symbol ≤ 122

/-- A digit. -/
def isDigit (symbol : UInt8) : Bool := 48 ≤ symbol && symbol ≤ 57

/-- What a name is made of. -/
def isNameSymbol (symbol : UInt8) : Bool := isLower symbol || isDigit symbol || symbol = 95

/-- `IsNamePart`. -/
def isNamePart : Text → Bool
  | [] => false
  | first :: rest => isLower first && (first :: rest).all isNameSymbol

/-- `IsEventType`: the parts before and after the first dot, if there is one. -/
def isEventType (type : Text) : Bool :=
  match type.idxOf? 46 with
  | none => false
  | some dot => isNamePart (type.take dot) && isNamePart (type.drop (dot + 1))

/-- `Contains`. -/
def contains (name word : Text) : Bool := word <:+: name

/-- The name is `id`, or ends in `_id` and is longer than that. -/
def isIdentifierName (name : Text) : Bool :=
  name = ascii "id" || (3 < name.length && ascii "_id" <:+ name)

/-- A code or a bucket whose text reads as an identifier. -/
def carriesIdentifier (value : Value) : Bool :=
  (value.kind = .code || value.kind = .bucket) && (parseUuid value.text).isSome

/-- A refusal of an event. -/
def refuse (code detail : String) : Error := ⟨.validation, code, detail⟩

/-- What the loop of `AnonymityBreach` finds in one field. -/
def breachOf (name : Text) (value : Value) : Option Error :=
  if isIdentifierName name then
    some (refuse "person_in_product_event" ("поле «" ++ shown name ++
      "» — идентификатор. В продуктовом событии его нет: ссылка только на арендатора и роль"))
  else match kPersonWords.find? (contains name) with
    | some word => some (refuse "person_in_product_event" ("поле «" ++ shown name ++
        "» именует человека («" ++ shown word ++ "»). Событие обезличено на уровне записи"))
    | none =>
      if carriesIdentifier value then
        some (refuse "person_in_product_event" ("поле «" ++ shown name ++
          "» несёт идентификатор под видом кода. Код — это перечень, а не ссылка; ссылкой " ++
          "бывает Reference, и человеком она не бывает по устройству типа"))
      else none

/-- `AnonymityBreach`. -/
def anonymityBreach (fields : Fields) : Option Error :=
  fields.entries.findSome? fun (name, value) => breachOf name value

/-! ### Events -/

/-- `ProductEvent`. -/
structure ProductEvent where
  tenant : TenantId
  type : Text
  version : Int
  actor : Role
  occurredAt : Int
  fields : Fields

/-- `ProductEvent::Compose`. -/
def ProductEvent.compose (tenant : TenantId) (type : Text) (version : Int) (actor : Role)
    (occurredAt : Int) (fields : Fields) : Result ProductEvent :=
  if !isEventType type then
    .error (refuse "event_type_malformed" ("«" ++ shown type ++
      "» не похоже на имя события. Имя — «контекст.что_произошло»: по нему видно издателя"))
  else if version < kFirstVersion then
    .error (refuse "event_version_below_one"
      ("версия схемы меньше единицы. Схема без версии запрещена: менять её придётся, " ++
        "и не один раз"))
  else if fields.entries.isEmpty then
    .error (refuse "event_without_fields"
      ("событие без полей ничего не измеряет. Реестр вопросов называет, что именно нужно " ++
        "посчитать: docs/product/open-questions.md"))
  else match anonymityBreach fields with
    | some breach => .error breach
    | none => .ok ⟨tenant, type, version, actor, occurredAt, fields⟩

/-- `ContractService::Record`: an event that is made goes into the stream. -/
def record (stream : List ProductEvent) (tenant : TenantId) (type : Text) (version : Int)
    (actor : Role) (occurredAt : Int) (fields : Fields) : Result Unit × List ProductEvent :=
  match ProductEvent.compose tenant type version actor occurredAt fields with
  | .error failure => (.error failure, stream)
  | .ok event => (.ok (), stream ++ [event])

/-! ### What is known of an event that was made -/

theorem breachOf_eq_none {name : Text} {value : Value} :
    breachOf name value = none ↔ isIdentifierName name = false ∧
      (∀ word ∈ kPersonWords, contains name word = false) ∧ carriesIdentifier value = false := by
  unfold breachOf
  cases hid : isIdentifierName name with
  | true => simp
  | false =>
    cases hword : kPersonWords.find? (contains name) with
    | some word =>
      have hcontains := List.find?_some hword
      have hmem := List.mem_of_find?_eq_some hword
      simp only [Bool.false_eq_true, if_false, reduceCtorEq, false_iff]
      rintro ⟨-, hnone, -⟩
      exact Bool.false_ne_true ((hnone word hmem).symm.trans hcontains)
    | none =>
      have hnone : ∀ word ∈ kPersonWords, contains name word = false := fun word hmem =>
        Bool.eq_false_iff.2 (List.find?_eq_none.1 hword word hmem)
      cases carriesIdentifier value with
      | true => simp
      | false => exact ⟨fun _ => ⟨rfl, hnone, rfl⟩, fun _ => rfl⟩

theorem anonymityBreach_eq_none {fields : Fields} :
    anonymityBreach fields = none ↔
      ∀ entry ∈ fields.entries, breachOf entry.1 entry.2 = none := by
  rw [anonymityBreach, List.findSome?_eq_none_iff]

/-- An event is made of what is in order, and of nothing else. -/
theorem ProductEvent.compose_eq_ok {tenant : TenantId} {type : Text} {version : Int}
    {actor : Role} {occurredAt : Int} {fields : Fields} {event : ProductEvent} :
    compose tenant type version actor occurredAt fields = .ok event ↔
      isEventType type = true ∧ kFirstVersion ≤ version ∧ fields.entries ≠ [] ∧
        anonymityBreach fields = none ∧
        event = ⟨tenant, type, version, actor, occurredAt, fields⟩ := by
  unfold compose
  split
  · rename_i htype
    refine ⟨nofun, fun ⟨hshaped, _⟩ => ?_⟩
    rw [hshaped] at htype
    cases htype
  · rename_i htype
    have hshaped : isEventType type = true := by simpa using htype
    split
    · rename_i hversion
      exact ⟨nofun, fun ⟨_, hfrom, _⟩ => absurd hfrom (by omega)⟩
    · rename_i hversion
      split
      · rename_i hempty
        exact ⟨nofun, fun ⟨_, _, hsome, _⟩ => absurd (List.isEmpty_iff.1 hempty) hsome⟩
      · rename_i hsome
        have hfields : fields.entries ≠ [] := fun h => hsome (List.isEmpty_iff.2 h)
        split
        · rename_i breach hbreach
          refine ⟨nofun, fun ⟨_, _, _, hnone, _⟩ => ?_⟩
          rw [hbreach] at hnone
          cases hnone
        · rename_i hnone
          constructor
          · intro h
            exact ⟨hshaped, by omega, hfields, hnone, (Except.ok.inj h).symm⟩
          · rintro ⟨-, -, -, -, rfl⟩
            rfl

end Pdr.Observability
