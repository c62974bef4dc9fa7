import Pdr.Patterns.Signed64

/-!
# Moments in the database

A moment of the domain counts microseconds in a signed number of 64 bits; a moment of the driver
counts nanoseconds in one. What is written is multiplied by a thousand and what is read is divided
by it. So only one moment in a thousand can be written: those within some 292 years of the epoch,
and they come back as they were and in their order.

## Main definitions

* `Pdr.Db.asTimestamptz`, `Pdr.Db.asInstant`: the conversions; one that overflows has no value.
* `Pdr.Db.Survives`: a moment that comes back as it was.

## Main results

* `Pdr.Db.survives_iff`: the moments that come back.
* `Pdr.Db.far_moment_is_lost`: one that does not.
-/

namespace Pdr.Db

open Signed64 (Fits)

/-- A thousand: the nanoseconds of a microsecond. -/
def nanosInMicro : Signed64 := ⟨1000, by decide⟩

/-- `AsTimestamptz`: the nanoseconds of a moment. `std::chrono::duration_cast` to a finer unit
multiplies. -/
def asTimestamptz (instant : Signed64) : Option Signed64 := instant.mul nanosInMicro

/-- `AsInstant`: the microseconds of a moment of the driver. `std::chrono::duration_cast` to a
coarser unit divides, towards zero. -/
def asInstant (stored : Signed64) : Option Signed64 := stored.div nanosInMicro

/-- The moment is stored, and read as it was. -/
def Survives (instant : Signed64) : Prop :=
  ∃ stored, asTimestamptz instant = some stored ∧ asInstant stored = some instant

variable {instant other stored : Signed64}

theorem asTimestamptz_eq_some_iff :
    asTimestamptz instant = some stored ↔ stored.value = instant.value * 1000 :=
  Signed64.of_eq_some_iff

theorem asInstant_of_stored (h : stored.value = instant.value * 1000) :
    asInstant stored = some instant := by
  rw [asInstant, Signed64.div, if_neg (by decide), h]
  change Signed64.of ((instant.value * 1000).tdiv 1000) = _
  rw [Int.mul_tdiv_cancel _ (by decide), Signed64.of_value]

/-- **The moments that come back.** A moment is stored without an overflow and read as it was
exactly if it lies within 9223372036854775 microseconds of the epoch; and of two such moments the
one that was earlier is stored as the earlier one. -/
theorem survives_iff (instant other : Signed64) :
    (Survives instant ↔
      -9223372036854775 ≤ instant.value ∧ instant.value ≤ 9223372036854775) ∧
    ∀ stored stored', asTimestamptz instant = some stored → asTimestamptz other = some stored' →
      (stored.value < stored'.value ↔ instant.value < other.value) := by
  constructor
  · constructor
    · rintro ⟨stored, hstored, -⟩
      have hvalue := asTimestamptz_eq_some_iff.1 hstored
      obtain ⟨hlower, hupper⟩ := stored.fits
      omega
    · rintro ⟨hlower, hupper⟩
      obtain ⟨stored, hstored, hvalue⟩ := Signed64.exists_of
        (show Fits (instant.value * 1000) by unfold Fits; omega)
      exact ⟨stored, hstored, asInstant_of_stored hvalue⟩
  · intro stored stored' hstored hstored'
    have hvalue := asTimestamptz_eq_some_iff.1 hstored
    have hvalue' := asTimestamptz_eq_some_iff.1 hstored'
    omega

/-- The first microsecond of the year 2200 comes back. -/
theorem survives_iff_in_2200 :
    Survives ⟨7258118400000000, by decide⟩ :=
  (survives_iff ⟨7258118400000000, by decide⟩ ⟨0, by decide⟩).1.2 ⟨by decide, by decide⟩

/-- **A far moment is lost.** The first microsecond of the year 3000 overflows when it is stored. -/
theorem far_moment_is_lost :
    asTimestamptz ⟨32503680000000000, by decide⟩ = none ∧
      ¬ Survives ⟨32503680000000000, by decide⟩ := by
  have hnone : asTimestamptz ⟨32503680000000000, by decide⟩ = none := rfl
  refine ⟨hnone, ?_⟩
  rintro ⟨stored, hstored, -⟩
  rw [hnone] at hstored
  cases hstored

end Pdr.Db
