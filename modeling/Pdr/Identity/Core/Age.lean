import Pdr.Calendar.Civil
import Pdr.Core.BitSet
import Pdr.Core.Types

/-!
# Birth dates, ages and what comes with age

An age is never stored: it is asked at a moment. A threshold of some years can be met in
two ways, by the moment a person turns that old and by the years of age at a moment.

## Main definitions

* `Pdr.Identity.BirthDate`: a date the calendar has, in the years 1900 to 2200.
* `Pdr.Identity.AgeStatus.turnsAt`: the first moment of the birthday of so many years.
* `Pdr.Identity.AgeStatus.at`: the age at a moment.
* `Pdr.Identity.AgeThresholds`, `Pdr.Identity.Capability`: what is allowed from which age.
-/

namespace Pdr.Identity

/-- `kEarliestYear`. -/
def earliestYear : Int := 1900
/-- `kLatestYear`. -/
def latestYear : Int := 2200

/-- A day of birth. -/
structure BirthDate where
  value : Civil.Date
  exists_ : value.ok = true
  thinkable : earliestYear ≤ value.year ∧ value.year ≤ latestYear
deriving DecidableEq, Repr

theorem thinkable_heldYear {year : Int} (h : earliestYear ≤ year ∧ year ≤ latestYear) :
    earliestYear ≤ Civil.heldYear year ∧ Civil.heldYear year ≤ latestYear := by
  have hfits : Civil.FitsYear year :=
    ⟨Int.le_trans (by decide) h.1, Int.le_trans h.2 (by decide)⟩
  rwa [Civil.heldYear_of_fits hfits]

/-- `BirthDate::Of`. A month and a day are held in one byte, a year in two. -/
def BirthDate.of (year : Int) (month day : Nat) : Result BirthDate :=
  let value : Civil.Date := ⟨Civil.heldYear year, month % 256, day % 256⟩
  if hok : value.okHeld = true then
    if hyear : earliestYear ≤ year ∧ year ≤ latestYear then
      .ok ⟨value, (Bool.and_eq_true_iff.1 hok).2, thinkable_heldYear hyear⟩
    else .error ⟨.validation, "birth_date_invalid", "год рождения похож на опечатку"⟩
  else .error ⟨.validation, "birth_date_invalid", "такой даты не бывает в календаре"⟩

/-- The microseconds of one day. -/
def microsOfDay : Int := 86400 * 1000000

/-- `CivilDayOf`: the date of a moment, by UTC, with the year in 16 bits. -/
def civilDayOf (moment : Int) : Civil.Date :=
  let date := Civil.dateOf (moment / microsOfDay)
  { date with year := Civil.heldYear date.year }

/-- An age: full years at a moment. -/
structure AgeStatus where
  bornOn : BirthDate
  moment : Int
  years : Int
deriving DecidableEq, Repr

namespace AgeStatus

/-- `AgeStatus::TurnsAt`: midnight of the birthday. A birthday the calendar has not, which is
29 February in a common year, is the day after the month's last. -/
def turnsAt (bornOn : BirthDate) (years : Int) : Int :=
  let born := bornOn.value
  let birthday : Civil.Date := ⟨Civil.heldYear (born.year + years), born.month, born.day⟩
  let day :=
    if birthday.okHeld then Civil.daysOf birthday
    else Civil.daysOf { birthday with day := Civil.lastDay birthday.year birthday.month } + 1
  day * microsOfDay

/-- `AgeStatus::At`. -/
def «at» (bornOn : BirthDate) (moment : Int) : Result AgeStatus :=
  let today := civilDayOf moment
  let born := bornOn.value
  let beforeBirthday :=
    today.month < born.month || (today.month = born.month && today.day < born.day)
  let years := today.year - born.year - (if beforeBirthday then 1 else 0)
  if years < 0 then
    .error ⟨.validation, "age_before_birth", "дата рождения позже сегодняшнего дня"⟩
  else .ok ⟨bornOn, moment, years⟩

/-- `Reached`. -/
def reached (age : AgeStatus) (thresholdYears : Int) : Bool := thresholdYears ≤ age.years

end AgeStatus

/-! ### Thresholds and capabilities -/

/-- The ages at which something changes; `boundary` marks the end of the source's list. -/
inductive AgeThreshold where
  | slotsAndReviews
  | ownPayments
  | majority
  | boundary
deriving DecidableEq, Repr

/-- `kYoungestThinkable`. -/
def youngestThinkable : Int := 6
/-- `kOldestThinkable`. -/
def oldestThinkable : Int := 21

/-- The years of each threshold. -/
structure AgeThresholds where
  slotsAndReviews : Int
  ownPayments : Int
  majority : Int
  thinkable : youngestThinkable ≤ slotsAndReviews ∧ majority ≤ oldestThinkable
  ordered : slotsAndReviews ≤ ownPayments ∧ ownPayments ≤ majority
deriving DecidableEq, Repr

/-- `AgeThresholds::Compose`. -/
def AgeThresholds.compose (slotsAndReviews ownPayments majority : Int) :
    Result AgeThresholds :=
  if hrange : ∀ years ∈ [slotsAndReviews, ownPayments, majority],
      youngestThinkable ≤ years ∧ years ≤ oldestThinkable then
    if hordered : slotsAndReviews ≤ ownPayments ∧ ownPayments ≤ majority then
      .ok ⟨slotsAndReviews, ownPayments, majority,
        ⟨(hrange slotsAndReviews (by simp)).1, (hrange majority (by simp)).2⟩, hordered⟩
    else .error ⟨.validation, "age_thresholds_out_of_order",
      "пороги идут не по возрастанию: право приходит раньше предыдущего"⟩
  else .error ⟨.validation, "age_threshold_out_of_range",
    "возрастной порог самостоятельности вне мыслимых пределов"⟩

/-- `AgeThresholds::Years`. -/
def AgeThresholds.years (thresholds : AgeThresholds) : AgeThreshold → Int
  | .slotsAndReviews => thresholds.slotsAndReviews
  | .ownPayments => thresholds.ownPayments
  | .majority | .boundary => thresholds.majority

/-- What a person may do by age; `boundary` marks the end of the source's list. -/
inductive Capability where
  | moveOwnSlots
  | writeReview
  | decideOwnGuardianAccess
  | payOwnMoney
  | chooseTutor
  | boundary
deriving DecidableEq, Repr

instance : Listed Capability where
  bit
    | .moveOwnSlots => 0
    | .writeReview => 1
    | .decideOwnGuardianAccess => 2
    | .payOwnMoney => 3
    | .chooseTutor => 4
    | .boundary => 5
  bit_injective := by intro a b; cases a <;> cases b <;> decide

/-- `kEveryCapability`. -/
def everyCapability : List Capability :=
  [.moveOwnSlots, .writeReview, .decideOwnGuardianAccess, .payOwnMoney, .chooseTutor]

/-- What somebody of an age may do. -/
abbrev Capabilities : Type := BitSet Capability

/-- `ArrivesWith`. -/
def arrivesWith : Capability → AgeThreshold
  | .moveOwnSlots | .writeReview | .decideOwnGuardianAccess | .boundary => .slotsAndReviews
  | .payOwnMoney | .chooseTutor => .ownPayments

/-- `Compute`: the capabilities of an age. -/
def compute (age : AgeStatus) (thresholds : AgeThresholds) : Capabilities :=
  everyCapability.foldl
    (fun able capability =>
      if age.reached (thresholds.years (arrivesWith capability)) then able.insert capability
      else able)
    BitSet.empty

end Pdr.Identity
