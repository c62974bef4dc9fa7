import Mathlib.Data.BitVec

/-!
# Sets of listed values as bits

Roles, scopes and capabilities are short closed lists, and a set of them is one byte: each
value of the list has its bit.

## Main definitions

* `Pdr.Listed`: a type whose values each have a bit of a byte.
* `Pdr.BitSet`: a set of such values.

## Main results

* `Pdr.BitSet.has_insert`, `Pdr.BitSet.has_erase`: what a changed set has.
-/

namespace Pdr

instance neZeroOfBits : NeZero 8 := ⟨by decide⟩

/-- A closed list of values, each with its own bit of a byte. -/
class Listed (α : Type) where
  bit : α → Fin 8
  bit_injective : ∀ a b, bit a = bit b → a = b

/-- A set of listed values. -/
structure BitSet (α : Type) where
  bits : BitVec 8 := 0
deriving DecidableEq, Repr

namespace BitSet

variable {α : Type} [Listed α]

/-- The set with no values. -/
def empty : BitSet α := {}

/-- `With`: the set and one more value. -/
def insert (value : α) (set : BitSet α) : BitSet α :=
  ⟨set.bits ||| BitVec.twoPow 8 (Listed.bit value)⟩

/-- `Without`: the set and one value less. -/
def erase (value : α) (set : BitSet α) : BitSet α :=
  ⟨set.bits &&& ~~~BitVec.twoPow 8 (Listed.bit value)⟩

/-- `Has`. -/
def has (set : BitSet α) (value : α) : Bool :=
  set.bits.getLsbD (Listed.bit value)

/-- `Of`: the set of the values of a list. -/
def ofList (values : List α) : BitSet α :=
  values.foldl (fun set value => set.insert value) empty

@[simp] theorem has_empty (value : α) : (empty : BitSet α).has value = false := by
  simp [has, empty]

@[simp] theorem has_insert [DecidableEq α] (set : BitSet α) (value other : α) :
    (set.insert value).has other = (set.has other || decide (other = value)) := by
  have hbit : decide ((Listed.bit other : ℕ) = Listed.bit value) = decide (other = value) :=
    decide_eq_decide.2 ⟨fun h => Listed.bit_injective _ _ (Fin.ext h), fun h => h ▸ rfl⟩
  have hlt : (Listed.bit other : ℕ) < 8 := (Listed.bit other).isLt
  simp only [has, insert, BitVec.getLsbD_or, BitVec.getLsbD_twoPow, (Listed.bit value).isLt,
    decide_true, Bool.true_and]
  rw [← hbit]
  simp only [eq_comm]

@[simp] theorem has_erase [DecidableEq α] (set : BitSet α) (value other : α) :
    (set.erase value).has other = (set.has other && !decide (other = value)) := by
  have hbit : decide ((Listed.bit other : ℕ) = Listed.bit value) = decide (other = value) :=
    decide_eq_decide.2 ⟨fun h => Listed.bit_injective _ _ (Fin.ext h), fun h => h ▸ rfl⟩
  have hlt : (Listed.bit other : ℕ) < 8 := (Listed.bit other).isLt
  simp only [has, erase, BitVec.getLsbD_and, BitVec.getLsbD_not, BitVec.getLsbD_twoPow, hlt,
    (Listed.bit value).isLt, decide_true, Bool.true_and]
  rw [← hbit]
  simp only [eq_comm]

theorem insert_insert_comm (set : BitSet α) (first second : α) :
    (set.insert first).insert second = (set.insert second).insert first := by
  simp only [insert, BitVec.or_assoc, mk.injEq]
  rw [BitVec.or_comm (BitVec.twoPow 8 (Listed.bit first))]

theorem has_ofList [DecidableEq α] (values : List α) (value : α) :
    (ofList values).has value = decide (value ∈ values) := by
  have general : ∀ set : BitSet α,
      (values.foldl (fun set value => set.insert value) set).has value =
        (set.has value || decide (value ∈ values)) := by
    induction values with
    | nil => simp
    | cons first values ih =>
      intro set
      rw [List.foldl_cons, ih, has_insert]
      simp [Bool.or_assoc, Bool.decide_or]
  simpa [ofList] using general empty

end BitSet

end Pdr
