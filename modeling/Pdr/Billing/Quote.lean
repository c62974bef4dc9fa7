import Pdr.Core.Errors
import Pdr.Core.Money

/-!
# The price of a package of lessons

A tutor's tariff says what one lesson costs. The price of a package is that much for each of its
lessons, or a refusal; the code of the tariff comes as a raw text, and the product is computed in
numbers of 64 bits that must not overflow.

## Main definitions

* `Pdr.Billing.packagePrice`, `Pdr.Billing.quoteLessonPackage`, `Pdr.Billing.quotePackage`: the
  contract, from the inside out.

## Main results

* `Pdr.Billing.quote_is_exact`: which prices are quoted.
-/

namespace Pdr.Billing

/-! ### Tariffs -/

/-- `IsAllowed`: an upper-case letter, a digit or a hyphen. -/
def isAllowed (symbol : UInt8) : Bool :=
  65 ≤ symbol && symbol ≤ 90 || 48 ≤ symbol && symbol ≤ 57 || symbol = 45

/-- The form of a code: from 3 to 32 symbols that are allowed, with no hyphen at either end. -/
def IsTariffCode (text : Text) : Prop :=
  3 ≤ text.length ∧ text.length ≤ 32 ∧ text.head? ≠ some 45 ∧ text.getLast? ≠ some 45 ∧
    text.all isAllowed = true

instance : DecidablePred IsTariffCode := fun text =>
  inferInstanceAs (Decidable (3 ≤ text.length ∧ text.length ≤ 32 ∧ text.head? ≠ some 45 ∧
    text.getLast? ≠ some 45 ∧ text.all isAllowed = true))

/-- What a tutor calls his service in what he agrees with a student. -/
structure TariffCode where
  text : Text
  wellFormed : IsTariffCode text
deriving DecidableEq

/-- `TariffCode::Parse`. -/
def TariffCode.parse (text : Text) : Option TariffCode :=
  if h : IsTariffCode text then some ⟨text, h⟩ else none

/-- What one lesson costs. -/
structure Tariff where
  code : TariffCode
  pricePerLesson : Money

/-! ### Packages -/

/-- A count of lessons that buys nothing. -/
def lessonsNotPositive : Error :=
  ⟨.validation, "lessons_not_positive", "в пакете должно быть хотя бы одно занятие"⟩

/-- A price that has no value in kopecks. -/
def packagePriceOverflow : Error :=
  ⟨.validation, "package_price_overflow", "столько занятий в пакет не помещается"⟩

theorem fits_lessons (lessons : Int32) : Signed64.Fits lessons.toInt := by
  have hlower := lessons.le_toInt
  have hupper := lessons.toInt_lt
  unfold Signed64.Fits
  omega

/-- `static_cast` to 64 bits. -/
def widened (lessons : Int32) : Signed64 := ⟨lessons.toInt, fits_lessons lessons⟩

/-- `PackagePrice`. There is no outcome if a step overflows. -/
def packagePrice (tariff : Tariff) (lessons : Int32) : Option (Result Money) := do
  if lessons.toInt ≤ 0 then return .error lessonsNotPositive
  else match ← tariff.pricePerLesson.times (widened lessons) with
    | none => return .error packagePriceOverflow
    | some total => return .ok total

/-- The detail names the code; a code is ASCII. -/
def tariffNotFound (code : TariffCode) : Error :=
  ⟨.notFound, "tariff_not_found",
    "тарифа " ++ String.ofList (code.text.map fun byte => Char.ofNat byte.toNat) ++ " нет"⟩

/-- `QuoteLessonPackage::Execute`, over the port `TariffRepository`. -/
def quoteLessonPackage (findByCode : TariffCode → Option Tariff) (code : TariffCode)
    (lessons : Int32) : Option (Result Money) :=
  match findByCode code with
  | none => some (.error (tariffNotFound code))
  | some tariff => packagePrice tariff lessons

/-- A code without a tariff. -/
def tariffCodeInvalid : Error :=
  ⟨.validation, "tariff_code_invalid", "код тарифа не похож на код тарифа"⟩

/-- `ContractService::QuotePackage`. -/
def quotePackage (findByCode : TariffCode → Option Tariff) (tariffCode : Text) (lessons : Int32) :
    Option (Result Money) :=
  match TariffCode.parse tariffCode with
  | none => some (.error tariffCodeInvalid)
  | some code => quoteLessonPackage findByCode code lessons

/-! ### What is quoted -/

/-- A price that was quoted: the code is a tariff's, there is at least one lesson, and the price is
that of one lesson so many times, in its currency. -/
structure IsQuote (findByCode : TariffCode → Option Tariff) (tariffCode : Text) (lessons : Int32)
    (total : Money) : Prop where
  known : ∃ code tariff, TariffCode.parse tariffCode = some code ∧
    findByCode code = some tariff ∧
    total.minorUnits.value = tariff.pricePerLesson.minorUnits.value * lessons.toInt ∧
    total.currency = tariff.pricePerLesson.currency
  positive : 0 < lessons.toInt

theorem packagePrice_spec (tariff : Tariff) (lessons : Int32) :
    ∃ answer, packagePrice tariff lessons = some answer ∧ ∀ total, answer = .ok total ↔
      (0 < lessons.toInt ∧
        total.minorUnits.value = tariff.pricePerLesson.minorUnits.value * lessons.toInt ∧
        total.currency = tariff.pricePerLesson.currency) := by
  rw [packagePrice]
  by_cases hpositive : lessons.toInt ≤ 0
  · rw [if_pos hpositive]
    refine ⟨_, rfl, fun total => iff_of_false (by simp) ?_⟩
    rintro ⟨hlessons, -⟩
    omega
  · rw [if_neg hpositive]
    obtain ⟨answer, hanswer, hfits, hresult⟩ :=
      Money.isExact_times tariff.pricePerLesson (widened lessons)
    rw [true_and] at hfits
    rw [hanswer]
    cases answer with
    | none =>
      refine ⟨_, rfl, fun total => iff_of_false (by simp) ?_⟩
      rintro ⟨-, hvalue, -⟩
      have hproduct : Signed64.Fits (tariff.pricePerLesson.minorUnits.value * lessons.toInt) :=
        hvalue ▸ total.minorUnits.fits
      exact absurd (hfits.2 hproduct) Bool.false_ne_true
    | some price =>
      obtain ⟨hvalue, hcurrency⟩ := hresult price rfl
      refine ⟨_, rfl, fun total => ⟨?_, ?_⟩⟩
      · intro h
        obtain rfl := Except.ok.inj h
        exact ⟨by omega, hvalue, hcurrency⟩
      · rintro ⟨-, hsame, hsame'⟩
        obtain ⟨⟨units, hunits⟩, currency⟩ := price
        obtain ⟨⟨units', hunits'⟩, currency'⟩ := total
        obtain rfl : units = units' := hvalue.trans hsame.symm
        obtain rfl : currency = currency' := hcurrency.trans hsame'.symm
        rfl

/-- **Which prices are quoted.** Whatever tariffs there are, whatever text comes as a code and
however many lessons are asked for, no step overflows, and a price is quoted exactly if it is the
price of one lesson so many times and can be written in 64 bits. -/
theorem quote_is_exact (findByCode : TariffCode → Option Tariff) (tariffCode : Text)
    (lessons : Int32) :
    ∃ answer, quotePackage findByCode tariffCode lessons = some answer ∧
      ∀ total, answer = .ok total ↔ IsQuote findByCode tariffCode lessons total := by
  rw [quotePackage]
  cases hcode : TariffCode.parse tariffCode with
  | none =>
    refine ⟨_, rfl, fun total => iff_of_false (by simp) ?_⟩
    rintro ⟨⟨code, -, hknown, -⟩, -⟩
    rw [hcode] at hknown
    cases hknown
  | some code =>
    dsimp only
    rw [quoteLessonPackage]
    cases htariff : findByCode code with
    | none =>
      refine ⟨_, rfl, fun total => iff_of_false (by simp) ?_⟩
      rintro ⟨⟨other, tariff, hknown, hfound, -⟩, -⟩
      obtain rfl := Option.some.inj (hcode.symm.trans hknown)
      rw [htariff] at hfound
      cases hfound
    | some tariff =>
      obtain ⟨answer, hanswer, hspec⟩ := packagePrice_spec tariff lessons
      refine ⟨answer, hanswer, fun total => (hspec total).trans ⟨?_, ?_⟩⟩
      · rintro ⟨hpositive, hprice⟩
        exact ⟨⟨code, tariff, hcode, htariff, hprice⟩, hpositive⟩
      · rintro ⟨⟨other, found, hknown, hfound, hprice⟩, hpositive⟩
        obtain rfl := Option.some.inj (hcode.symm.trans hknown)
        obtain rfl := Option.some.inj (htariff.symm.trans hfound)
        exact ⟨hpositive, hprice⟩

end Pdr.Billing
