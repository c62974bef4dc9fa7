import Pdr.Core.Types
import Pdr.Patterns.StringView

/-!
# The names of time zones

A name of a time zone is parsed by its form only: up to three segments between slashes, each of
them a letter with letters, digits and a few signs behind it, and not more than 64 symbols in all.
The source walks through the text by positions. Here it is shown which texts it takes.

## Main definitions

* `Pdr.TimeZone.parse`: the walk.
* `Pdr.IsZoneSegment`: the form of a segment.

## Main results

* `Pdr.TimeZone.zone_is_parsed_iff`: which names are time zones.
-/

namespace Pdr

open StringView

/-! ### The walk -/

/-- `IsLetter`. -/
def isZoneLetter (symbol : UInt8) : Bool :=
  65 ≤ symbol && symbol ≤ 90 || 97 ≤ symbol && symbol ≤ 122

/-- `IsAllowedInSegment`: letters, digits, and the signs `_`, `-` and `+`. -/
def isAllowedInSegment (symbol : UInt8) : Bool :=
  isZoneLetter symbol || (48 ≤ symbol && symbol ≤ 57) || symbol = 95 || symbol = 45 || symbol = 43

/-- `IsSegment`. -/
def isSegment : Text → Bool
  | [] => false
  | first :: rest => isZoneLetter first && (first :: rest).all isAllowedInSegment

namespace TimeZone

/-- `kMaxNameLength`. -/
def maxNameLength : Nat := 64

/-- `kMaxSegments`. -/
def maxSegments : Nat := 3

/-- A slash. -/
def isSlash (symbol : UInt8) : Bool := symbol == 47

/-- The loop of `TimeZone::Parse`: whether it gets to the end. -/
def takesFrom (name : Text) (start segments : Nat) : Bool :=
  if start ≤ name.length then
    match _hslash : find isSlash name start with
    | none =>
      isSegment (substr name start (some (name.length - start))) && segments + 1 ≤ maxSegments
    | some slash =>
      isSegment (substr name start (some (slash - start))) && segments + 1 ≤ maxSegments &&
        takesFrom name (slash + 1) (segments + 1)
  else true
termination_by name.length + 1 - start
decreasing_by
  have hbetween := le_of_find _hslash
  omega

/-- `TimeZone::Parse`. -/
def parse (name : Text) : Option TimeZone :=
  if name.isEmpty || maxNameLength < name.length then none
  else if takesFrom name 0 0 then some ⟨name⟩
  else none

end TimeZone

/-! ### The names -/

/-- A segment: a letter, and behind it what is allowed. -/
structure IsZoneSegment (segment : Text) : Prop where
  begins : ∃ first, segment.head? = some first ∧ isZoneLetter first = true
  allowed : ∀ symbol ∈ segment, isAllowedInSegment symbol = true

theorem isSegment_iff {segment : Text} : isSegment segment = true ↔ IsZoneSegment segment := by
  cases segment with
  | nil =>
    refine iff_of_false Bool.false_ne_true fun h => ?_
    obtain ⟨first, hfirst, -⟩ := h.begins
    cases hfirst
  | cons first rest =>
    rw [isSegment, Bool.and_eq_true, List.all_eq_true]
    constructor
    · rintro ⟨hfirst, hall⟩
      exact ⟨⟨first, rfl, hfirst⟩, hall⟩
    · rintro ⟨⟨other, hother, hletter⟩, hall⟩
      exact ⟨Option.some.inj hother ▸ hletter, hall⟩

theorem IsZoneSegment.notMem_slash {segment : Text} (h : IsZoneSegment segment) :
    (47 : UInt8) ∉ segment := fun hmem =>
  absurd (h.allowed 47 hmem) (by decide)

namespace TimeZone

section Walk

variable {name : Text} {start segments : Nat}

/-- The walk takes what is left if it is segments, and not too many of them. -/
theorem takesFrom_iff (hstart : start ≤ name.length) : takesFrom name start segments = true ↔
    (∀ segment ∈ (name.drop start).splitOn 47, IsZoneSegment segment) ∧
      segments + ((name.drop start).splitOn 47).length ≤ maxSegments := by
  fun_induction takesFrom name start segments with
  | case1 start segments hguard hnone =>
    have hsingle : (name.drop start).splitOn 47 = [name.drop start] :=
      List.splitOnP_eq_singleton (find_eq_none_iff.1 hnone)
    have hwhole : substr name start (some (name.length - start)) = name.drop start := by
      rw [substr, ← List.length_drop, List.take_length]
    rw [hsingle, hwhole, Bool.and_eq_true, isSegment_iff, decide_eq_true_eq]
    simp
  | case2 start segments hguard slash hsome ih =>
    obtain ⟨c, hc, hsplit, hbefore⟩ := drop_of_find hsome
    have hpieces : (name.drop start).splitOn 47 =
        substr name start (some (slash - start)) :: (name.drop (slash + 1)).splitOn 47 := by
      conv_lhs => rw [hsplit]
      exact List.splitOnP_append_cons_of_forall_mem hbefore c hc _
    rw [hpieces, Bool.and_eq_true, Bool.and_eq_true, isSegment_iff, decide_eq_true_eq,
      ih (le_of_find hsome).2, List.forall_mem_cons, List.length_cons]
    constructor
    · rintro ⟨⟨hfirst, -⟩, hrest, hcount⟩
      exact ⟨⟨hfirst, hrest⟩, by omega⟩
    · rintro ⟨⟨hfirst, hrest⟩, hcount⟩
      exact ⟨⟨hfirst, by omega⟩, hrest, by omega⟩
  | case3 start segments hguard => exact absurd hstart hguard

end Walk

/-- **Which names are time zones.** A text is taken, as it is, exactly if it is not longer than 64
symbols and consists of one, two or three segments with slashes between them. -/
theorem zone_is_parsed_iff {name : Text} {zone : TimeZone} : parse name = some zone ↔
    zone.name = name ∧ name.length ≤ 64 ∧ ∃ segments : List Text, segments ≠ [] ∧
      segments.length ≤ 3 ∧ (∀ segment ∈ segments, IsZoneSegment segment) ∧
      name = List.intercalate [47] segments := by
  have hzone : some ⟨name⟩ = some zone ↔ zone.name = name := by
    obtain ⟨other⟩ := zone
    rw [Option.some.injEq, mk.injEq, eq_comm]
  have hwalk : takesFrom name 0 0 = true ↔ _ := takesFrom_iff (Nat.zero_le name.length)
  rw [List.drop_zero, Nat.zero_add] at hwalk
  rw [parse]
  constructor
  · intro h
    split at h
    · cases h
    · rename_i hlength
      split at h
      · rename_i htakes
        obtain ⟨hall, hcount⟩ := hwalk.1 htakes
        rw [Bool.or_eq_true, not_or, decide_eq_true_eq, Nat.not_lt] at hlength
        exact ⟨hzone.1 h, hlength.2, name.splitOn 47, List.splitOnP_ne_nil _ _, hcount, hall,
          (List.intercalate_splitOn 47).symm⟩
      · cases h
  · rintro ⟨hname, hlength, segments, hne, hcount, hall, hjoined⟩
    have hsegments : name.splitOn 47 = segments := by
      rw [hjoined, List.splitOn_intercalate 47 (fun l hl => (hall l hl).notMem_slash) hne]
    have hnonempty : name ≠ [] := by
      rintro rfl
      have hnil : [([] : Text)] = segments := hsegments
      obtain ⟨first, hfirst, -⟩ := (hall [] (hnil ▸ List.mem_singleton_self _)).begins
      cases hfirst
    have hguard : ¬ (name.isEmpty || decide (maxNameLength < name.length)) = true := by
      rw [Bool.or_eq_true, not_or, decide_eq_true_eq, Nat.not_lt, List.isEmpty_iff]
      exact ⟨hnonempty, hlength⟩
    rw [if_neg hguard, if_pos (hwalk.2 (by rw [hsegments]; exact ⟨hall, hcount⟩))]
    exact hzone.2 hname

end TimeZone

end Pdr
