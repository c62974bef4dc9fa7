import Pdr.Core.Errors

/-!
# Texts, identifiers and moments

## Main definitions

* `Pdr.Text`: a text as the bytes it is made of.
* `Pdr.StrongId`: sixteen bytes with a tag that keeps a person from standing for a tenant.
* `Pdr.formatUuid`: an identifier as text.

A moment (`core::Instant`) and the distance between two moments (`Instant::Duration`) are
integers, in microseconds, of the Unix clock for a moment. They are unbounded: the source
counts them in 64 bits and leaves sums beyond that range to its callers.
-/

namespace Pdr

/-- A text is its bytes: lengths and searches in the source count bytes. -/
abbrev Text : Type := List UInt8

/-- The bytes of a text that has ASCII characters only. -/
def ascii (text : String) : Text := text.toList.map fun symbol => symbol.toNat.toUInt8

/-- The bytes of a text. -/
def utf8 (text : String) : Text := text.toUTF8.toList

/-- What an identifier is of. -/
inductive IdTag where
  | tenant
  | person
  | token
  | session
  | guardianship
  | consent
  | roleAssignment
  | lesson
deriving DecidableEq, Repr

/-- Sixteen bytes that name one thing of the tagged kind. -/
structure StrongId (tag : IdTag) where
  bytes : Vector UInt8 16
deriving DecidableEq, Repr

/-- `TenantId`. -/
abbrev TenantId : Type := StrongId .tenant

/-- `PersonId`. -/
abbrev PersonId : Type := StrongId .person

/-- The digits of the hexadecimal record, lower case. -/
def uuidDigits : Text := ascii "0123456789abcdef"

/-- One byte as two digits. -/
def formatByte (byte : UInt8) : Text :=
  [uuidDigits.getD (byte >>> 4).toNat 0, uuidDigits.getD (byte &&& 0x0F).toNat 0]

/-- Sixteen bytes as text, with a hyphen before bytes 4, 6, 8 and 10. -/
def formatUuid (bytes : Vector UInt8 16) : Text :=
  bytes.toList.zipIdx.flatMap fun (byte, index) =>
    (if index = 4 ∨ index = 6 ∨ index = 8 ∨ index = 10 then ascii "-" else []) ++
      formatByte byte

/-- `ToString` of an identifier. -/
def StrongId.toText {tag : IdTag} (id : StrongId tag) : Text := formatUuid id.bytes

/-- The name of a time zone. -/
structure TimeZone where
  name : Text
deriving DecidableEq, Repr

end Pdr
