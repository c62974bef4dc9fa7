/-!
# The civil calendar

Dates of the proleptic Gregorian calendar and the count of days from 1 January 1970, both
ways. The two conversions work in 400-year eras that begin on 1 March, where the leap day
is the last day of a year.

## Main definitions

* `Civil.Date`: a year, a month and a day, as written; `Civil.Date.ok` says that the
  calendar has it.
* `Civil.daysOf`: the days from 1 January 1970 to a date.
* `Civil.dateOf`: the date so many days after 1 January 1970.
* `Civil.heldYear`, `Civil.Date.okHeld`: a year in the 16 bits of the calendar's types.
-/

namespace Civil

/-- A year, a month and a day as somebody wrote them. -/
structure Date where
  year : Int
  month : Nat
  day : Nat
deriving DecidableEq, Repr

/-- A year with 29 February. -/
def isLeap (year : Int) : Bool :=
  year % 4 = 0 && (year % 100 ≠ 0 || year % 400 = 0)

/-- The last day of a month of a year. -/
def lastDay (year : Int) (month : Nat) : Nat :=
  match month with
  | 2 => if isLeap year then 29 else 28
  | 4 | 6 | 9 | 11 => 30
  | _ => 31

/-- The calendar has this date. -/
def Date.ok (date : Date) : Bool :=
  1 ≤ date.month && date.month ≤ 12 && 1 ≤ date.day && date.day ≤ lastDay date.year date.month

/-- A year as the calendar's types hold it, in 16 bits. -/
def heldYear (year : Int) : Int := year.bmod 65536

/-- A year that 16 bits hold as it is. -/
def FitsYear (year : Int) : Prop := -32768 ≤ year ∧ year ≤ 32767

instance : DecidablePred FitsYear := fun year =>
  inferInstanceAs (Decidable (-32768 ≤ year ∧ year ≤ 32767))

theorem heldYear_of_fits {year : Int} (h : FitsYear year) : heldYear year = year :=
  Int.bmod_eq_of_le h.1 (Int.lt_add_one_of_le h.2)

/-- A date with a year of 16 bits is one of the calendar; the least of these years is none. -/
def Date.okHeld (date : Date) : Bool := date.year ≠ -32768 && date.ok

/-- Days from 1 January 1970 to the date. -/
def daysOf (date : Date) : Int :=
  let year := if date.month ≤ 2 then date.year - 1 else date.year
  let era := year / 400
  let yearOfEra := year - era * 400
  let month : Int := if 2 < date.month then date.month - 3 else date.month + 9
  let dayOfYear := (153 * month + 2) / 5 + date.day - 1
  let dayOfEra := yearOfEra * 365 + yearOfEra / 4 - yearOfEra / 100 + dayOfYear
  era * 146097 + dayOfEra - 719468

/-- The date that many days after 1 January 1970. -/
def dateOf (days : Int) : Date :=
  let shifted := days + 719468
  let era := shifted / 146097
  let dayOfEra := shifted - era * 146097
  let yearOfEra :=
    (dayOfEra - dayOfEra / 1460 + dayOfEra / 36524 - dayOfEra / 146096) / 365
  let dayOfYear := dayOfEra - (365 * yearOfEra + yearOfEra / 4 - yearOfEra / 100)
  let monthFromMarch := (5 * dayOfYear + 2) / 153
  let day := dayOfYear - (153 * monthFromMarch + 2) / 5 + 1
  let month := if monthFromMarch < 10 then monthFromMarch + 3 else monthFromMarch - 9
  { year := yearOfEra + era * 400 + (if month ≤ 2 then 1 else 0)
    month := month.toNat
    day := day.toNat }

end Civil
