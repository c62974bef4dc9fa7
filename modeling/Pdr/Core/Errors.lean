/-!
# Refusals and exceptions

A scenario ends in one of three ways: with a value, with a refusal of the domain, or with
an exception. A refusal is a value of the domain with a machine code by which a client tells
refusals apart; an exception is what a store throws when a statement breaks its schema, and
what the code throws where it finds itself in a state it holds impossible.

## Main definitions

* `Pdr.Error`: a refusal, with its kind, its code and its detail.
* `Pdr.Fault`: what ends a scenario that returns no value.
-/

namespace Pdr

/-- The kinds of refusal. The source's list ends with a boundary mark that no error carries. -/
inductive ErrorKind where
  | validation
  | notFound
  | conflict
  | forbidden
deriving DecidableEq, Repr

/-- A refusal: its kind, the stable code a client reads, the detail for a person. -/
structure Error where
  kind : ErrorKind
  code : String
  detail : String := ""
deriving DecidableEq, Repr

/-- A value or a refusal. -/
abbrev Result (α : Type) : Type := Except Error α

/-- What can be thrown past a scenario. -/
inductive Exception where
  /-- A statement broke a key or a check of the named table. -/
  | schemaViolation (table : String)
  /-- The code found what it holds impossible, and says so with this text. -/
  | runtime (what : String)
deriving DecidableEq, Repr

/-- How a scenario ends when it returns no value. -/
inductive Fault where
  | refused (error : Error)
  | thrown (exception : Exception)
deriving DecidableEq, Repr

/-- A refusal inside a scenario ends the scenario. -/
def Result.orRefuse {α : Type} (result : Result α) : Except Fault α :=
  result.mapError .refused

@[simp] theorem Result.orRefuse_ok {α : Type} (value : α) :
    Result.orRefuse (.ok value : Result α) = .ok value := rfl

@[simp] theorem Result.orRefuse_error {α : Type} (error : Error) :
    Result.orRefuse (.error error : Result α) = .error (.refused error) := rfl

@[simp] theorem Result.orRefuse_eq_ok {α : Type} (result : Result α) (value : α) :
    result.orRefuse = .ok value ↔ result = .ok value := by
  cases result <;> simp

theorem bind_eq_ok {ε α β : Type} {result : Except ε α} {next : α → Except ε β} {value : β} :
    result >>= next = .ok value ↔ ∃ given, result = .ok given ∧ next given = .ok value := by
  cases result with
  | error error => exact ⟨nofun, fun ⟨_, h, _⟩ => nomatch h⟩
  | ok given => exact ⟨fun h => ⟨given, rfl, h⟩, fun ⟨_, hgiven, h⟩ => by cases hgiven; exact h⟩

end Pdr
