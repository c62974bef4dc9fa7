import Pdr.Core.Types
import Pdr.Patterns.Signed64

/-!
# Money

An amount is a number of minor units and a currency. Sums, differences and products are refused
where the currencies differ and where the result does not fit; the guards that find this out are
computed in the same numbers and must not overflow themselves. Those of sums and products refuse
exactly what does not fit. That of differences negates the second amount, so it sets aside the
least number, which has no negative, and with it differences that fit.

## Main definitions

* `Pdr.CurrencyCode`, `Pdr.Money`, with `Money.plus`, `Money.minus` and `Money.times`; where a step
  of a computation overflows, it has no value.
* `Pdr.Money.IsExact`: an answer that is the exact result wherever that fits.

## Main results

* `Pdr.addOverflows_eq`, `Pdr.mulOverflows_eq`: the guards.
* `Pdr.Money.arithmetic_is_exact_iff`: where the arithmetic is exact.
* `Pdr.Money.minus_refuses_a_difference`: a difference that fits and is refused.
-/

namespace Pdr

open Signed64 (Fits andThen greatest least)

/-! ### Guards -/

/-- `AddOverflows`. -/
def addOverflows (left right : Signed64) : Option Bool := do
  if ← andThen (0 < right.value) (do return (← greatest.sub right).value < left.value) then
    return true
  else if ← andThen (right.value < 0) (do return left.value < (← least.sub right).value) then
    return true
  else return false

/-- `MulOverflows`. -/
def mulOverflows (left right : Signed64) : Option Bool := do
  if left.value = 0 ∨ right.value = 0 then return false
  else if left.value = -1 then return right = least
  else if right.value = -1 then return left = least
  else if 0 < left.value then
    if 0 < right.value then return (← greatest.div right).value < left.value
    else return right.value < (← least.div left).value
  else if 0 < right.value then return left.value < (← least.div right).value
  else return left.value < (← greatest.div right).value

private theorem ite_some (overflows : Bool) :
    (if overflows = true then some true else some false) = some overflows := by
  cases overflows <;> rfl

/-- The guard of sums finds out what does not fit, and computes nothing that does not. -/
theorem addOverflows_eq (left right : Signed64) :
    addOverflows left right = some (decide (¬ Fits (left.value + right.value))) := by
  obtain ⟨hleft, hleft'⟩ := left.fits
  obtain ⟨hright, hright'⟩ := right.fits
  rw [addOverflows]
  rcases Int.lt_trichotomy 0 right.value with hpositive | hzero | hnegative
  · obtain ⟨bound, hbound, hvalue⟩ := Signed64.exists_of
      (show Fits (9223372036854775807 - right.value) by unfold Fits; omega)
    have hsub : greatest.sub right = some bound := hbound
    have hnot : ¬ right.value < 0 := by omega
    simp only [andThen, hpositive, hnot, hsub, hvalue, decide_true, decide_false, if_true,
      Option.bind_eq_bind, Option.bind_some, Option.pure_def, Bool.false_eq_true, if_false]
    rw [ite_some, Option.some.injEq, decide_eq_decide]
    unfold Fits
    omega
  · have hnot : ¬ 0 < right.value ∧ ¬ right.value < 0 := by omega
    have hfits : Fits (left.value + right.value) := by unfold Fits; omega
    simp [andThen, hnot, hfits]
  · obtain ⟨bound, hbound, hvalue⟩ := Signed64.exists_of
      (show Fits (-9223372036854775808 - right.value) by unfold Fits; omega)
    have hsub : least.sub right = some bound := hbound
    have hnot : ¬ 0 < right.value := by omega
    simp only [andThen, hnegative, hnot, hsub, hvalue, decide_true, decide_false, if_true,
      Option.bind_eq_bind, Option.bind_some, Option.pure_def, Bool.false_eq_true, if_false]
    rw [ite_some, Option.some.injEq, decide_eq_decide]
    unfold Fits
    omega

/-- The guard of products finds out what does not fit, and computes nothing that does not. -/
theorem mulOverflows_eq (left right : Signed64) :
    mulOverflows left right = some (decide (¬ Fits (left.value * right.value))) := by
  obtain ⟨hleft, hleft'⟩ := left.fits
  obtain ⟨hright, hright'⟩ := right.fits
  rw [mulOverflows]
  by_cases hzero : left.value = 0 ∨ right.value = 0
  · have hfits : Fits (left.value * right.value) := by
      rcases hzero with h | h <;> simp [h, Fits]
    simp [hzero, hfits]
  rw [if_neg hzero]
  obtain ⟨hl, hr⟩ := not_or.1 hzero
  by_cases hminus : left.value = -1
  · rw [if_pos hminus, Option.pure_def, Option.some.injEq, decide_eq_decide, hminus,
      Signed64.eq_least_iff]
    unfold Fits
    omega
  rw [if_neg hminus]
  by_cases hminus' : right.value = -1
  · rw [if_pos hminus', Option.pure_def, Option.some.injEq, decide_eq_decide, hminus',
      Signed64.eq_least_iff]
    unfold Fits
    omega
  rw [if_neg hminus']
  have hgreatest : ∀ {d : Signed64}, d.value ≠ 0 → ∃ q, greatest.div d = some q ∧
      q.value = (9223372036854775807 : Int).tdiv d.value := fun hd =>
    Signed64.exists_div hd fun h => absurd h (by decide)
  have hleast : ∀ {d : Signed64}, d.value ≠ 0 → d.value ≠ -1 → ∃ q, least.div d = some q ∧
      q.value = (-9223372036854775808 : Int).tdiv d.value := fun hd hminus =>
    Signed64.exists_div hd fun _ => hminus
  have hupper : (0 : Int) ≤ 9223372036854775807 := by decide
  have hlower : (-9223372036854775808 : Int) ≤ 0 := by decide
  -- what bounds a factor is the quotient of a bound by the other factor
  by_cases hpositive : 0 < left.value
  · rw [if_pos hpositive]
    by_cases hpositive' : 0 < right.value
    · obtain ⟨bound, hbound, hvalue⟩ := hgreatest hr
      have hproduct := Int.mul_pos hpositive hpositive'
      rw [if_pos hpositive', hbound]
      simp only [Option.bind_eq_bind, Option.bind_some, Option.pure_def, Option.some.injEq,
        decide_eq_decide, hvalue, Int.tdiv_eq_ediv_of_nonneg hupper,
        Int.ediv_lt_iff_lt_mul hpositive']
      unfold Fits
      omega
    · obtain ⟨bound, hbound, hvalue⟩ := hleast hl hminus
      have hproduct := Int.mul_neg_of_pos_of_neg hpositive (show right.value < 0 by omega)
      rw [if_neg hpositive', hbound]
      simp only [Option.bind_eq_bind, Option.bind_some, Option.pure_def, Option.some.injEq,
        decide_eq_decide, hvalue, Signed64.lt_tdiv_iff_of_nonpos hlower hpositive]
      rw [Int.mul_comm]
      unfold Fits
      omega
  · rw [if_neg hpositive]
    by_cases hpositive' : 0 < right.value
    · obtain ⟨bound, hbound, hvalue⟩ := hleast hr hminus'
      have hproduct := Int.mul_neg_of_neg_of_pos (show left.value < 0 by omega) hpositive'
      rw [if_pos hpositive', hbound]
      simp only [Option.bind_eq_bind, Option.bind_some, Option.pure_def, Option.some.injEq,
        decide_eq_decide, hvalue, Signed64.lt_tdiv_iff_of_nonpos hlower hpositive']
      unfold Fits
      omega
    · obtain ⟨bound, hbound, hvalue⟩ := hgreatest hr
      have hnegative : right.value < 0 := by omega
      have hproduct := Int.mul_pos_of_neg_of_neg (show left.value < 0 by omega) hnegative
      rw [if_neg hpositive', hbound]
      simp only [Option.bind_eq_bind, Option.bind_some, Option.pure_def, Option.some.injEq,
        decide_eq_decide, hvalue, Signed64.lt_tdiv_iff_of_neg hupper hnegative]
      unfold Fits
      omega

/-! ### Amounts -/

/-- `IsUpperLatin`. -/
def isUpperLatin (symbol : UInt8) : Bool := 65 ≤ symbol && symbol ≤ 90

/-- Three upper-case letters. -/
structure CurrencyCode where
  letters : Text
  wellFormed : letters.length = 3 ∧ letters.all isUpperLatin = true
deriving DecidableEq

/-- `CurrencyCode::Parse`. -/
def CurrencyCode.parse (text : Text) : Option CurrencyCode :=
  if h : text.length = 3 ∧ text.all isUpperLatin = true then some ⟨text, h⟩ else none

/-- An amount. -/
structure Money where
  minorUnits : Signed64
  currency : CurrencyCode
deriving DecidableEq

namespace Money

variable (money other : Money) (factor : Signed64)

/-- `Money::Plus`. -/
def plus : Option (Option Money) := do
  if money.currency ≠ other.currency then return none
  else if ← addOverflows money.minorUnits other.minorUnits then return none
  else return some ⟨← money.minorUnits.add other.minorUnits, money.currency⟩

/-- `Money::Minus`: the second amount is negated for the guard. -/
def minus : Option (Option Money) := do
  if money.currency ≠ other.currency then return none
  else if other.minorUnits = least then return none
  else if ← addOverflows money.minorUnits (← other.minorUnits.neg) then return none
  else return some ⟨← money.minorUnits.sub other.minorUnits, money.currency⟩

/-- `Money::Times`. -/
def times : Option (Option Money) := do
  if ← mulOverflows money.minorUnits factor then return none
  else return some ⟨← money.minorUnits.mul factor, money.currency⟩

/-- No step overflows; there is an answer exactly if it may be given and the exact result fits; and
the answer is that result in the currency. -/
def IsExact (computed : Option (Option Money)) (may : Prop) (exact : Int)
    (currency : CurrencyCode) : Prop :=
  ∃ answer, computed = some answer ∧ (answer.isSome = true ↔ may ∧ Fits exact) ∧
    ∀ result ∈ answer, result.minorUnits.value = exact ∧ result.currency = currency

variable {money other factor}

/-- An exact answer is one that a guard lets through exactly where the result fits. -/
theorem isExact_of_guard {exact : Int} {guard : Option Bool} {operation : Option Signed64}
    {currency : CurrencyCode} (hguard : guard = some (decide (¬ Fits exact)))
    (hoperation : operation = Signed64.of exact) :
    IsExact (do
      if ← guard then return none
      else return some ⟨← operation, currency⟩) True exact currency := by
  rw [hguard, hoperation]
  by_cases hfits : Fits exact
  · obtain ⟨result, hresult, hvalue⟩ := Signed64.exists_of hfits
    refine ⟨some ⟨result, currency⟩, by simp [hfits, hresult], by simp [hfits], ?_⟩
    rintro _ ⟨⟩
    exact ⟨hvalue, rfl⟩
  · exact ⟨none, by simp [hfits], by simp [hfits], by simp⟩

theorem isExact_refusal {may : Prop} (h : ¬ may) (exact : Int) (currency : CurrencyCode) :
    IsExact (some none) may exact currency :=
  ⟨none, rfl, by simp [h], by simp⟩

theorem IsExact.of_true {computed : Option (Option Money)} {may : Prop} {exact : Int}
    {currency : CurrencyCode} (h : IsExact computed True exact currency) (hmay : may) :
    IsExact computed may exact currency := by
  obtain ⟨answer, hanswer, hfits, hresult⟩ := h
  exact ⟨answer, hanswer, by rw [hfits, true_and, and_iff_right hmay], hresult⟩

theorem isExact_plus (money other : Money) :
    IsExact (money.plus other) (money.currency = other.currency)
      (money.minorUnits.value + other.minorUnits.value) money.currency := by
  unfold plus
  by_cases hsame : money.currency = other.currency
  · rw [if_neg (not_not.2 hsame)]
    exact (isExact_of_guard (addOverflows_eq _ _) rfl).of_true hsame
  · rw [if_pos hsame]
    exact isExact_refusal hsame _ _

theorem isExact_times (money : Money) (factor : Signed64) :
    IsExact (money.times factor) True (money.minorUnits.value * factor.value) money.currency :=
  isExact_of_guard (mulOverflows_eq _ _) rfl

theorem exists_neg {number : Signed64} (h : number ≠ least) :
    ∃ negative, number.neg = some negative ∧ negative.value = -number.value := by
  refine Signed64.exists_of ?_
  obtain ⟨hlower, hupper⟩ := number.fits
  rw [Ne, Signed64.eq_least_iff] at h
  unfold Fits
  omega

/-- Differences are exact but for those that fit and begin from the least number. -/
theorem isExact_minus_iff (money other : Money) :
    IsExact (money.minus other) (money.currency = other.currency)
      (money.minorUnits.value - other.minorUnits.value) money.currency ↔
    ¬ (money.currency = other.currency ∧ other.minorUnits = least ∧
      money.minorUnits.value < 0) := by
  unfold minus
  by_cases hsame : money.currency = other.currency
  · rw [if_neg (not_not.2 hsame)]
    by_cases hleast : other.minorUnits = least
    · rw [if_pos hleast]
      obtain ⟨hlower, hupper⟩ := money.minorUnits.fits
      have hvalue := Signed64.eq_least_iff.1 hleast
      constructor
      · rintro ⟨answer, hanswer, hfits, -⟩ ⟨-, -, hnegative⟩
        obtain rfl : none = answer := Option.some.inj hanswer
        refine absurd (hfits.2 ⟨hsame, ?_⟩) (by simp)
        unfold Fits
        omega
      · intro hnot
        refine ⟨none, rfl, iff_of_false (by simp) ?_, by simp⟩
        rintro ⟨-, hfits⟩
        unfold Fits at hfits
        exact hnot ⟨hsame, hleast, by omega⟩
    · rw [if_neg hleast]
      refine iff_of_true ?_ fun hbad => hleast hbad.2.1
      obtain ⟨negative, hnegative, hvalue⟩ := exists_neg hleast
      rw [hnegative, Option.bind_eq_bind, Option.bind_some]
      refine (isExact_of_guard ?_ rfl).of_true hsame
      rw [addOverflows_eq, hvalue, ← Int.sub_eq_add_neg]
  · rw [if_pos hsame]
    exact iff_of_true (isExact_refusal hsame _ _) fun hbad => hsame hbad.1

/-- **Where the arithmetic is exact.** For all amounts and factors no step overflows in a sum, a
difference or a product; sums and products have an answer exactly where they may and the result
fits, and it is exact. So have differences, exactly if it is not the case that the currencies agree,
the second amount is the least number and the first is negative. -/
theorem arithmetic_is_exact_iff (money other : Money) (factor : Signed64) :
    (IsExact (money.plus other) (money.currency = other.currency)
        (money.minorUnits.value + other.minorUnits.value) money.currency ∧
      IsExact (money.minus other) (money.currency = other.currency)
        (money.minorUnits.value - other.minorUnits.value) money.currency ∧
      IsExact (money.times factor) True (money.minorUnits.value * factor.value)
        money.currency) ↔
    ¬ (money.currency = other.currency ∧ other.minorUnits = least ∧
      money.minorUnits.value < 0) := by
  rw [← isExact_minus_iff]
  constructor
  · exact fun h => h.2.1
  · exact fun h => ⟨isExact_plus money other, h, isExact_times money factor⟩

/-- The currency of the examples. -/
def rubles : CurrencyCode := ⟨ascii "RUB", by decide +kernel⟩

/-- **A difference that fits is refused.** From minus one the least number can be taken away: the
greatest number is left. -/
theorem minus_refuses_a_difference :
    minus ⟨⟨-1, by decide⟩, rubles⟩ ⟨least, rubles⟩ = some none ∧
      Fits (-1 - least.value) ∧ -1 - least.value = greatest.value :=
  ⟨rfl, by decide, by decide⟩

end Money

end Pdr
