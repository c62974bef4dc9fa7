import Mathlib.Algebra.Order.Group.Unbundled.Int
import Mathlib.Order.Basic

/-!
# Signed numbers of 64 bits that must not overflow

In a language where the overflow of a signed number is undefined, a computation has a value only as
long as every step fits. Each operation here gives a number or nothing, so that a computation with a
value is one in which no step overflowed, and its steps are those of whole numbers.

## Main definitions

* `Signed64`: the numbers, and `Signed64.Fits`: the whole numbers among them.
* `Signed64.add`, `Signed64.sub`, `Signed64.neg`, `Signed64.mul`, `Signed64.div`: the operations.

## Main results

* `Signed64.of_eq_some_iff`, `Signed64.exists_of`: what fits.
* `Signed64.exists_div`: a quotient is defined but for one pair.
* `Signed64.lt_tdiv_iff_of_nonpos`, `Signed64.lt_tdiv_iff_of_neg`: a bound that was divided.
-/

/-- A whole number that a signed number of 64 bits can be. -/
def Signed64.Fits (n : Int) : Prop := -9223372036854775808 ≤ n ∧ n ≤ 9223372036854775807

instance Signed64.decidableFits : DecidablePred Signed64.Fits := fun n =>
  inferInstanceAs (Decidable (-9223372036854775808 ≤ n ∧ n ≤ 9223372036854775807))

/-- A signed number of 64 bits. -/
structure Signed64 where
  value : Int
  fits : Signed64.Fits value
deriving DecidableEq

namespace Signed64

/-- The least number. -/
def least : Signed64 := ⟨-9223372036854775808, by decide⟩

/-- The greatest number. -/
def greatest : Signed64 := ⟨9223372036854775807, by decide⟩

/-- The number that a whole number is, if it fits. -/
def of (n : Int) : Option Signed64 := if h : Fits n then some ⟨n, h⟩ else none

/-- The sum, where it fits. -/
def add (a b : Signed64) : Option Signed64 := of (a.value + b.value)

/-- The difference, where it fits. -/
def sub (a b : Signed64) : Option Signed64 := of (a.value - b.value)

/-- The number with the other sign, where it fits. -/
def neg (a : Signed64) : Option Signed64 := of (-a.value)

/-- The product, where it fits. -/
def mul (a b : Signed64) : Option Signed64 := of (a.value * b.value)

/-- A quotient is rounded towards zero, and there is none by zero. -/
def div (a b : Signed64) : Option Signed64 :=
  if b.value = 0 then none else of (a.value.tdiv b.value)

/-- A second condition that is computed only if the first one holds. -/
def andThen (first : Bool) (second : Option Bool) : Option Bool :=
  if first then second else some false

variable {n m d : Int} {a b c : Signed64}

theorem of_eq_some_iff : of n = some a ↔ a.value = n := by
  obtain ⟨value, hvalue⟩ := a
  unfold of
  split
  · simp [eq_comm]
  · rename_i hn
    refine iff_of_false (by simp) ?_
    rintro rfl
    exact hn hvalue

theorem of_value (a : Signed64) : of a.value = some a := of_eq_some_iff.2 rfl

theorem exists_of (h : Fits n) : ∃ a, of n = some a ∧ a.value = n := ⟨⟨n, h⟩, dif_pos h, rfl⟩

theorem eq_least_iff : a = least ↔ a.value = -9223372036854775808 := by
  obtain ⟨value, hvalue⟩ := a
  rw [least, mk.injEq]

/-! ### Quotients -/

/-- A quotient is defined, but for that by zero and that of the least number by minus one. -/
theorem exists_div (hzero : b.value ≠ 0) (hneg : a.value = least.value → b.value ≠ -1) :
    ∃ c, div a b = some c ∧ c.value = a.value.tdiv b.value := by
  have hfits : Fits (a.value.tdiv b.value) := by
    have hbound := Int.natAbs_tdiv_le_natAbs a.value b.value
    obtain ⟨hleast, hgreatest⟩ := a.fits
    by_cases ha : a.value = least.value
    · have hb := hneg ha
      change a.value = -9223372036854775808 at ha
      rcases Int.lt_or_gt_of_ne hzero with hnegative | hpositive
      · have hhalf : (a.value.tdiv b.value).natAbs ≤ a.value.natAbs / 2 := by
          rw [Int.natAbs_tdiv]
          exact Nat.div_le_div_left (by omega) (by decide)
        unfold Fits
        omega
      · have hsign := Int.tdiv_nonneg (show 0 ≤ -a.value by omega) hpositive.le
        rw [Int.neg_tdiv] at hsign
        unfold Fits
        omega
    · change a.value ≠ -9223372036854775808 at ha
      unfold Fits
      omega
  obtain ⟨c, hc, hvalue⟩ := exists_of hfits
  exact ⟨c, by rw [div, if_neg hzero, hc], hvalue⟩

/-- A number below a quotient of what is not positive. -/
theorem lt_tdiv_iff_of_nonpos (hn : n ≤ 0) (hd : 0 < d) : m < n.tdiv d ↔ m * d < n := by
  have hquotient : n.tdiv d = -(-n / d) := by
    rw [← Int.tdiv_eq_ediv_of_nonneg (Int.neg_nonneg_of_nonpos hn), Int.neg_tdiv, neg_neg]
  calc m < n.tdiv d ↔ -n / d < -m := by omega
    _ ↔ -n < -m * d := Int.ediv_lt_iff_lt_mul hd
    _ ↔ m * d < n := by rw [Int.neg_mul, Int.neg_lt_neg_iff]

/-- A number below a quotient by what is negative. -/
theorem lt_tdiv_iff_of_neg (hn : 0 ≤ n) (hd : d < 0) : m < n.tdiv d ↔ n < m * d := by
  have hquotient : n.tdiv d = -(n / -d) := by
    rw [← Int.tdiv_eq_ediv_of_nonneg hn, Int.tdiv_neg, neg_neg]
  calc m < n.tdiv d ↔ n / -d < -m := by omega
    _ ↔ n < -m * -d := Int.ediv_lt_iff_lt_mul (by omega)
    _ ↔ n < m * d := by rw [Int.neg_mul_neg]

end Signed64
