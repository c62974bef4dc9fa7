import Mathlib.Data.List.Basic
import Mathlib.Data.Char
import Pdr.Python.Str

/-!
# Files as text

`Path.read_text(encoding="utf-8")` decodes the bytes of a file and makes one newline of each
way to end a line; `Path.write_text(…, encoding="utf-8")` only encodes.

## Main definitions

* `Python.readText`, `Python.writeText`.

## Main results

* `Python.readText_writeText`: what was written is read back, if there is no carriage return
  in it.
-/

namespace Python

/-- The newlines of text mode. -/
def newlines : Str → Str
  | [] => []
  | '\r' :: '\n' :: rest => '\n' :: newlines rest
  | '\r' :: rest => '\n' :: newlines rest
  | c :: rest => c :: newlines rest

/-- `path.read_text(encoding="utf-8")`; bytes that encode no text are an error. -/
def readText (bytes : ByteArray) : Option Str :=
  bytes.utf8Decode?.map fun characters => newlines characters.toList

/-- `path.write_text(text, encoding="utf-8")`. -/
def writeText (text : Str) : ByteArray := (String.ofList text).toByteArray

theorem newlines_eq_self {text : Str} (h : '\r' ∉ text) : newlines text = text := by
  induction text with
  | nil => rfl
  | cons c rest ih =>
    obtain ⟨hc, hrest⟩ := List.ne_and_not_mem_of_not_mem_cons h
    rw [newlines, ih hrest]
    · exact fun rest' hr => absurd hr hc.symm
    · exact fun hr => hc hr.symm

theorem readText_writeText {text : Str} (h : '\r' ∉ text) :
    readText (writeText text) = some text := by
  rw [readText, writeText, String.toByteArray_ofList, List.utf8Decode?_utf8Encode]
  exact congrArg some (newlines_eq_self h)

theorem writeText_inj {a b : Str} : writeText a = writeText b ↔ a = b := by
  rw [writeText, writeText, String.toByteArray_inj, String.ofList_inj]

end Python
