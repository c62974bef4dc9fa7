import Pdr.Core.Types

/-!
# The key of a repeated request

A client that lost its connection repeats the request under the key it sent the first time.
The server keeps, for each key, the fingerprint of the body and, once the operation is done,
the answer.

## Main definitions

* `Pdr.Http.IdempotencyKey`, `Pdr.Http.RequestFingerprint`: what a client sends and what is
  kept of its body.
* `Pdr.Http.Method.mutating`: the methods that need a key.
* `Pdr.Http.SavedAnswer`, `Pdr.Http.Claim`: what a repeat is answered with.
* `Pdr.Http.KeyLifetime`: how long a key protects.
-/

namespace Pdr.Http

/-- `Printable`: an ASCII symbol that is neither a space nor a control. -/
def printable (symbol : UInt8) : Bool := 32 < symbol && symbol < 127

/-- `Hex`: a lower-case hexadecimal digit. -/
def hex (symbol : UInt8) : Bool :=
  (48 ≤ symbol && symbol ≤ 57) || (97 ≤ symbol && symbol ≤ 102)

/-- The least length of a key. -/
def IdempotencyKey.shortest : Nat := 8

/-- The greatest length of a key. -/
def IdempotencyKey.longest : Nat := 255

/-- The key that a client makes up. -/
structure IdempotencyKey where
  value : Text
  fits : IdempotencyKey.shortest ≤ value.length ∧ value.length ≤ IdempotencyKey.longest
  isPrintable : value.all printable = true
deriving DecidableEq

/-- `IdempotencyKey::Parse`. -/
def IdempotencyKey.parse (text : Text) : Result IdempotencyKey :=
  if hshort : text.length < shortest then
    .error ⟨.validation, "idempotency_key_too_short",
      "короткий ключ столкнётся с чужим в первый же день"⟩
  else if hlong : longest < text.length then
    .error ⟨.validation, "idempotency_key_too_long", "ключ длиннее допустимого"⟩
  else if hprintable : text.all printable = true then
    .ok ⟨text, ⟨Nat.le_of_not_lt hshort, Nat.le_of_not_lt hlong⟩, hprintable⟩
  else
    .error ⟨.validation, "idempotency_key_malformed",
      "ключ приходит от клиента и уходит в журнал: печатаемые знаки без пробелов"⟩

/-- A parsed key is the text it was parsed from. -/
theorem IdempotencyKey.value_of_parse {text : Text} {key : IdempotencyKey}
    (h : parse text = .ok key) : key.value = text := by
  unfold parse at h
  split at h
  · cases h
  · split at h
    · cases h
    · split at h
      · cases h
        rfl
      · cases h

theorem IdempotencyKey.parse_value (key : IdempotencyKey) : parse key.value = .ok key := by
  have hshort : ¬ key.value.length < shortest := Nat.not_lt.2 key.fits.1
  have hlong : ¬ longest < key.value.length := Nat.not_lt.2 key.fits.2
  rw [parse, dif_neg hshort, dif_neg hlong, dif_pos key.isPrintable]

/-- The digits of SHA-256. -/
def RequestFingerprint.fingerprintLength : Nat := 64

/-- The fingerprint of a request's body. The body itself is not kept. -/
structure RequestFingerprint where
  value : Text
  wellFormed : value.length = RequestFingerprint.fingerprintLength ∧ value.all hex = true
deriving DecidableEq

/-- `RequestFingerprint::Parse`. -/
def RequestFingerprint.parse (text : Text) : Result RequestFingerprint :=
  if h : text.length = fingerprintLength ∧ text.all hex = true then .ok ⟨text, h⟩
  else .error ⟨.validation, "request_fingerprint_malformed",
    "отпечаток — шестьдесят четыре знака от 0 до f в нижнем регистре"⟩

/-- The method of a request; `boundary` stands for every method that is not listed. -/
inductive Method where
  | get | head | options | post | put | patch | delete | boundary
deriving DecidableEq, Repr

/-- `Mutating`: whether the request changes something, and so needs a key. -/
def Method.mutating : Method → Bool
  | .post | .put | .patch | .delete => true
  | .get | .head | .options | .boundary => false

/-- What was answered the first time. -/
structure SavedAnswer where
  status : Int := 0
  body : Text := []
deriving DecidableEq, Repr

/-- How an attempt to take a key ended: the key is ours, or its operation is done, or its
operation goes on. The source's list ends with a boundary mark that no claim carries. -/
inductive ClaimOutcome where
  | taken
  | replay
  | inFlight
deriving DecidableEq, Repr

/-- What taking a key comes to. -/
structure Claim where
  outcome : ClaimOutcome := .taken
  answer : SavedAnswer := {}
deriving DecidableEq, Repr

/-- The shortest lifetime, in hours. -/
def KeyLifetime.shortestHours : Int := 1

/-- The longest lifetime, in hours. -/
def KeyLifetime.longestHours : Int := 720

/-- The microseconds of an hour. -/
def KeyLifetime.hour : Int := 3600000000

/-- How long a key protects from a repeat, in microseconds. -/
structure KeyLifetime where
  value : Int
  inRange : KeyLifetime.shortestHours * KeyLifetime.hour ≤ value ∧
    value ≤ KeyLifetime.longestHours * KeyLifetime.hour
deriving DecidableEq

/-- `KeyLifetime::Compose`. -/
def KeyLifetime.compose (hours : Int) : Result KeyLifetime :=
  if h : shortestHours ≤ hours ∧ hours ≤ longestHours then
    have hvalue : shortestHours * hour ≤ hours * hour ∧ hours * hour ≤ longestHours * hour := by
      simp only [shortestHours, longestHours, hour] at h ⊢
      omega
    .ok ⟨hours * hour, hvalue⟩
  else .error ⟨.validation, "idempotency_lifetime_out_of_range",
    "срок жизни ключа вне допустимого"⟩

/-- `KeyLifetime::ExpiresFrom`. -/
def KeyLifetime.expiresFrom (lifetime : KeyLifetime) (now : Int) : Int := now + lifetime.value

end Pdr.Http
