import Mathlib.Algebra.Group.Nat.Even
import Pdr.Core.Types

/-!
# Identifiers as text

An identifier is written as thirty-two digits in five groups with hyphens between them. The scanner
reads digits in pairs and expects a hyphen at four positions. It is compared with the groups that a
text falls into, so that what is read, and what is written, is known symbol by symbol.

## Main definitions

* `Pdr.parseUuid`: the scanner.
* `Pdr.parseBytes`, `Pdr.formatBytes`: digits in pairs, without hyphens.
* `Pdr.grouped`, `Pdr.AreGroups`: five groups with hyphens between them.

## Main results

* `Pdr.parseUuid_eq_some_iff`: what is read.
* `Pdr.formatUuid_eq`: what is written.
-/

namespace Pdr

/-! ### The scanner -/

/-- `DigitValue`. -/
def digitValue (symbol : UInt8) : Option UInt8 :=
  if 48 ≤ symbol ∧ symbol ≤ 57 then some (symbol - 48)
  else if 97 ≤ symbol ∧ symbol ≤ 102 then some (symbol - 97 + 10)
  else if 65 ≤ symbol ∧ symbol ≤ 70 then some (symbol - 65 + 10)
  else none

/-- `IsHyphenPosition`. -/
def isHyphenPosition (position : Nat) : Bool := [8, 13, 18, 23].contains position

/-- The loop of `ParseUuid`: the bytes there are, and the first digit of the next. -/
def parseUuidFrom : List (UInt8 × Nat) → List UInt8 × Option UInt8 → Option (List UInt8)
  | [], (bytes, _) => some bytes
  | (symbol, position) :: rest, (bytes, high) =>
    if isHyphenPosition position then
      if symbol = 45 then parseUuidFrom rest (bytes, high) else none
    else match digitValue symbol, high with
      | none, _ => none
      | some digit, none => parseUuidFrom rest (bytes, some digit)
      | some digit, some high => parseUuidFrom rest (bytes ++ [high <<< 4 ||| digit], none)

/-- `ParseUuid`. -/
def parseUuid (text : Text) : Option (List UInt8) :=
  if text.length = 36 then parseUuidFrom text.zipIdx ([], none) else none

/-! ### Digits -/

/-- A hexadecimal digit of either case. -/
def IsHexDigit (symbol : UInt8) : Prop :=
  48 ≤ symbol ∧ symbol ≤ 57 ∨ 97 ≤ symbol ∧ symbol ≤ 102 ∨ 65 ≤ symbol ∧ symbol ≤ 70

theorem digitValue_isSome_iff {symbol : UInt8} :
    (digitValue symbol).isSome = true ↔ IsHexDigit symbol := by
  unfold digitValue IsHexDigit
  split
  · simp_all
  · split
    · simp_all
    · split <;> simp_all

theorem forall_byte {P : UInt8 → Prop} (h : ∀ n < 256, P (UInt8.ofNat n)) (byte : UInt8) :
    P byte := by
  have hbyte := h byte.toNat byte.toNat_lt
  rwa [UInt8.ofNat_toNat] at hbyte

theorem uuidDigits_eq :
    uuidDigits = [48, 49, 50, 51, 52, 53, 54, 55, 56, 57, 97, 98, 99, 100, 101, 102] := by
  decide +kernel

theorem digitValue_digit {digit : UInt8} (h : digit.toNat < 16) :
    digitValue (uuidDigits.getD digit.toNat 0) = some digit := by
  have hall : ∀ n < 16, digitValue (uuidDigits.getD n 0) = some (UInt8.ofNat n) := by
    rw [uuidDigits_eq]
    decide
  rw [hall digit.toNat h, UInt8.ofNat_toNat]

theorem toNat_composed {high low : UInt8} (hhigh : high.toNat < 16) (hlow : low.toNat < 16) :
    (high <<< 4 ||| low).toNat = high.toNat * 16 + low.toNat := by
  have hshift : (high <<< 4).toNat = high.toNat <<< 4 := by
    rw [UInt8.toNat_shiftLeft]
    change high.toNat <<< 4 % 256 = _
    rw [Nat.shiftLeft_eq]
    omega
  rw [UInt8.toNat_or, hshift, ← Nat.shiftLeft_add_eq_or_of_lt hlow, Nat.shiftLeft_eq]

theorem toNat_upperHalf (byte : UInt8) : (byte >>> 4).toNat = byte.toNat / 16 := by
  rw [UInt8.toNat_shiftRight]
  exact Nat.shiftRight_eq_div_pow byte.toNat 4

theorem toNat_lowerHalf (byte : UInt8) : (byte &&& 0x0F).toNat = byte.toNat % 16 := by
  rw [UInt8.toNat_and]
  exact Nat.and_two_pow_sub_one_eq_mod byte.toNat 4

/-- The halves of a byte that was put together. -/
theorem halves_of_digits {high low : UInt8} (hhigh : high.toNat < 16) (hlow : low.toNat < 16) :
    (high <<< 4 ||| low) >>> 4 = high ∧ (high <<< 4 ||| low) &&& 0x0F = low := by
  constructor
  · refine UInt8.toNat_inj.1 ?_
    rw [toNat_upperHalf, toNat_composed hhigh hlow]
    omega
  · refine UInt8.toNat_inj.1 ?_
    rw [toNat_lowerHalf, toNat_composed hhigh hlow]
    omega

/-- A byte is put together from its halves. -/
theorem digits_of_byte (byte : UInt8) : (byte >>> 4).toNat < 16 ∧ (byte &&& 0x0F).toNat < 16 ∧
    (byte >>> 4) <<< 4 ||| (byte &&& 0x0F) = byte := by
  have hupper : (byte >>> 4).toNat < 16 := by
    have hbyte := byte.toNat_lt
    rw [toNat_upperHalf]
    omega
  have hlower : (byte &&& 0x0F).toNat < 16 := by
    rw [toNat_lowerHalf]
    omega
  refine ⟨hupper, hlower, UInt8.toNat_inj.1 ?_⟩
  rw [toNat_composed hupper hlower, toNat_upperHalf, toNat_lowerHalf]
  omega

/-! ### Digits in pairs -/

/-- Bytes as digits. -/
def formatBytes (bytes : List UInt8) : Text := bytes.flatMap formatByte

/-- Bytes from their digits. -/
def parseBytes : Text → Option (List UInt8)
  | high :: low :: rest => do
    let high ← digitValue high
    let low ← digitValue low
    let later ← parseBytes rest
    return (high <<< 4 ||| low) :: later
  | [_] => none
  | [] => some []

theorem formatBytes_append (bytes later : List UInt8) :
    formatBytes (bytes ++ later) = formatBytes bytes ++ formatBytes later :=
  List.flatMap_append ..

theorem length_formatBytes (bytes : List UInt8) :
    (formatBytes bytes).length = 2 * bytes.length := by
  induction bytes with
  | nil => rfl
  | cons byte bytes ih =>
    change (formatByte byte ++ formatBytes bytes).length = _
    rw [List.length_append, ih, List.length_cons]
    change 2 + _ = _
    omega

/-- What is written is read back. -/
theorem parseBytes_formatBytes (bytes : List UInt8) :
    parseBytes (formatBytes bytes) = some bytes := by
  induction bytes with
  | nil => rfl
  | cons byte bytes ih =>
    obtain ⟨hhigh, hlow, hbyte⟩ := digits_of_byte byte
    change parseBytes (_ :: _ :: formatBytes bytes) = _
    rw [parseBytes, digitValue_digit hhigh, digitValue_digit hlow, ih]
    simp [hbyte]

/-- Two digits and what follows them. -/
theorem parseBytes_cons_eq_some {high low : UInt8} {rest : Text} {bytes : List UInt8} :
    parseBytes (high :: low :: rest) = some bytes ↔
      ∃ front back later, digitValue high = some front ∧ digitValue low = some back ∧
        parseBytes rest = some later ∧ bytes = (front <<< 4 ||| back) :: later := by
  simp only [parseBytes, Option.bind_eq_bind, Option.bind_eq_some_iff, Option.pure_def,
    Option.some.injEq]
  constructor
  · rintro ⟨front, hfront, back, hback, later, hlater, rfl⟩
    exact ⟨front, back, later, hfront, hback, hlater, rfl⟩
  · rintro ⟨front, back, later, hfront, hback, hlater, rfl⟩
    exact ⟨front, hfront, back, hback, later, hlater, rfl⟩

/-- What is read is an even number of digits. -/
theorem exists_parseBytes_iff {part : Text} : (∃ bytes, parseBytes part = some bytes) ↔
    Even part.length ∧ ∀ symbol ∈ part, IsHexDigit symbol := by
  induction part using parseBytes.induct with
  | case1 high low rest ih =>
    have hlength : Even (high :: low :: rest).length ↔ Even rest.length := by
      rw [List.length_cons, List.length_cons, Nat.even_add_one, Nat.even_add_one, not_not]
    rw [hlength, List.forall_mem_cons, List.forall_mem_cons, ← digitValue_isSome_iff,
      ← digitValue_isSome_iff, Option.isSome_iff_exists, Option.isSome_iff_exists]
    constructor
    · rintro ⟨bytes, hbytes⟩
      obtain ⟨front, back, later, hfront, hback, hlater, rfl⟩ := parseBytes_cons_eq_some.1 hbytes
      obtain ⟨heven, hrest⟩ := ih.1 ⟨later, hlater⟩
      exact ⟨heven, ⟨front, hfront⟩, ⟨back, hback⟩, hrest⟩
    · rintro ⟨heven, ⟨front, hfront⟩, ⟨back, hback⟩, hrest⟩
      obtain ⟨later, hlater⟩ := ih.2 ⟨heven, hrest⟩
      exact ⟨_, parseBytes_cons_eq_some.2 ⟨front, back, later, hfront, hback, hlater, rfl⟩⟩
  | case2 symbol => simp [parseBytes]
  | case3 => simp [parseBytes]

/-- Parts that are read one after another. -/
theorem parseBytes_append {part : Text} (heven : Even part.length) (rest : Text) :
    parseBytes (part ++ rest) =
      (parseBytes part).bind fun bytes => (parseBytes rest).map (bytes ++ ·) := by
  induction part using parseBytes.induct with
  | case1 high low later ih =>
    rw [List.length_cons, List.length_cons, Nat.even_add_one, Nat.even_add_one, not_not] at heven
    rw [List.cons_append, List.cons_append, parseBytes, parseBytes, ih heven]
    cases digitValue high <;> cases digitValue low <;> cases parseBytes later <;>
      cases parseBytes rest <;> rfl
  | case2 symbol => exact absurd heven Nat.not_even_one
  | case3 => cases h : parseBytes rest <;> simp [parseBytes, h]

/-! ### Groups -/

/-- Five groups with hyphens between them. -/
def grouped (a b c d e : Text) : Text := a ++ 45 :: (b ++ 45 :: (c ++ 45 :: (d ++ 45 :: e)))

/-- The groups have eight, four, four, four and twelve symbols. -/
structure AreGroups (a b c d e : Text) : Prop where
  first : a.length = 8
  second : b.length = 4
  third : c.length = 4
  fourth : d.length = 4
  last : e.length = 12

section Scan

variable {position : Nat} {bytes result : List UInt8} {part rest : Text} {symbol : UInt8}

/-- A part without hyphens is read in pairs. -/
theorem parseUuidFrom_append (heven : Even part.length)
    (hpart : ∀ index < part.length, isHyphenPosition (position + index) = false) (rest : Text) :
    parseUuidFrom ((part ++ rest).zipIdx position) (bytes, none) =
      (parseBytes part).bind fun more =>
        parseUuidFrom (rest.zipIdx (position + part.length)) (bytes ++ more, none) := by
  induction part using parseBytes.induct generalizing position bytes with
  | case1 high low later ih =>
    rw [List.length_cons, List.length_cons, Nat.even_add_one, Nat.even_add_one, not_not] at heven
    have hfirst : isHyphenPosition position = false := hpart 0 (by simp)
    have hsecond : isHyphenPosition (position + 1) = false := hpart 1 (by simp)
    have hlater : ∀ index < later.length, isHyphenPosition (position + 1 + 1 + index) = false := by
      intro index hindex
      have hnone := hpart (index + 2) (by simpa using hindex)
      rwa [show position + (index + 2) = position + 1 + 1 + index by omega] at hnone
    have hlength : position + (high :: low :: later).length = position + 1 + 1 + later.length := by
      simp only [List.length_cons]
      omega
    rw [List.cons_append, List.cons_append, List.zipIdx_cons, List.zipIdx_cons, parseBytes, hlength]
    cases hhigh : digitValue high with
    | none => simp [parseUuidFrom, hfirst, hhigh]
    | some front =>
      cases hlow : digitValue low with
      | none => simp [parseUuidFrom, hfirst, hsecond, hhigh, hlow]
      | some back =>
        simp only [parseUuidFrom, hfirst, hsecond, hhigh, hlow, Bool.false_eq_true, if_false]
        rw [ih heven hlater]
        cases parseBytes later <;> simp
  | case2 symbol => exact absurd heven Nat.not_even_one
  | case3 => simp [parseBytes]

/-- A part and the symbol after it, where a hyphen must be. -/
theorem parseUuidFrom_group (heven : Even part.length)
    (hpart : ∀ index < part.length, isHyphenPosition (position + index) = false)
    (hhyphen : isHyphenPosition (position + part.length) = true) :
    parseUuidFrom ((part ++ symbol :: rest).zipIdx position) (bytes, none) = some result ↔
      symbol = 45 ∧ ∃ more, parseBytes part = some more ∧
        parseUuidFrom (rest.zipIdx (position + part.length + 1)) (bytes ++ more, none) =
          some result := by
  rw [parseUuidFrom_append heven hpart, Option.bind_eq_some_iff]
  simp only [List.zipIdx_cons, parseUuidFrom, if_pos hhyphen]
  by_cases hsymbol : symbol = 45
  · simp [hsymbol]
  · simp [hsymbol]

theorem parseUuidFrom_last (heven : Even part.length)
    (hpart : ∀ index < part.length, isHyphenPosition (position + index) = false) :
    parseUuidFrom (part.zipIdx position) (bytes, none) = some result ↔
      ∃ more, parseBytes part = some more ∧ bytes ++ more = result := by
  have hscan := @parseUuidFrom_append position bytes part heven hpart []
  rw [List.append_nil] at hscan
  rw [hscan, Option.bind_eq_some_iff]
  simp [parseUuidFrom]

end Scan

variable {a b c d e text : Text}

theorem AreGroups.length_grouped (h : AreGroups a b c d e) : (grouped a b c d e).length = 36 := by
  simp [grouped, h.first, h.second, h.third, h.fourth, h.last]

theorem AreGroups.length_digits (h : AreGroups a b c d e) :
    (a ++ (b ++ (c ++ (d ++ e)))).length = 32 := by
  simp [h.first, h.second, h.third, h.fourth, h.last]

/-- The scanner over five groups, with any symbols between them. -/
theorem parseUuidFrom_groups (h : AreGroups a b c d e) {s t u v : UInt8} {result : List UInt8} :
    parseUuidFrom (a ++ s :: (b ++ t :: (c ++ u :: (d ++ v :: e)))).zipIdx ([], none) =
        some result ↔
      (s = 45 ∧ t = 45 ∧ u = 45 ∧ v = 45) ∧
        parseBytes (a ++ (b ++ (c ++ (d ++ e)))) = some result := by
  have hfirst : Even a.length := by rw [h.first]; decide
  have hsecond : Even b.length := by rw [h.second]; decide
  have hthird : Even c.length := by rw [h.third]; decide
  have hfourth : Even d.length := by rw [h.fourth]; decide
  have hlast : Even e.length := by rw [h.last]; decide
  have hsum : parseBytes (a ++ (b ++ (c ++ (d ++ e)))) = some result ↔
      ∃ as, parseBytes a = some as ∧ ∃ bs, parseBytes b = some bs ∧
        ∃ cs, parseBytes c = some cs ∧ ∃ ds, parseBytes d = some ds ∧
          ∃ es, parseBytes e = some es ∧ as ++ bs ++ cs ++ ds ++ es = result := by
    rw [parseBytes_append hfirst, parseBytes_append hsecond, parseBytes_append hthird,
      parseBytes_append hfourth]
    cases parseBytes a <;> cases parseBytes b <;> cases parseBytes c <;> cases parseBytes d <;>
      cases parseBytes e <;> simp
  have ha := fun rest => @parseUuidFrom_group 0 [] result a rest s hfirst
    (by rw [h.first]; decide) (by rw [h.first]; decide)
  have hb := fun bytes rest => @parseUuidFrom_group 9 bytes result b rest t hsecond
    (by rw [h.second]; decide) (by rw [h.second]; decide)
  have hc := fun bytes rest => @parseUuidFrom_group 14 bytes result c rest u hthird
    (by rw [h.third]; decide) (by rw [h.third]; decide)
  have hd := fun bytes rest => @parseUuidFrom_group 19 bytes result d rest v hfourth
    (by rw [h.fourth]; decide) (by rw [h.fourth]; decide)
  have he := fun bytes => @parseUuidFrom_last 24 bytes result e hlast (by rw [h.last]; decide)
  simp only [h.first, h.second, h.third, h.fourth, Nat.reduceAdd, List.nil_append] at ha hb hc hd
  simp only [hsum, ha, hb, hc, hd, he]
  constructor
  · rintro ⟨rfl, as, has, rfl, bs, hbs, rfl, cs, hcs, rfl, ds, hds, es, hes, hresult⟩
    exact ⟨⟨rfl, rfl, rfl, rfl⟩, as, has, bs, hbs, cs, hcs, ds, hds, es, hes, hresult⟩
  · rintro ⟨⟨rfl, rfl, rfl, rfl⟩, as, has, bs, hbs, cs, hcs, ds, hds, es, hes, hresult⟩
    exact ⟨rfl, as, has, rfl, bs, hbs, rfl, cs, hcs, rfl, ds, hds, es, hes, hresult⟩

theorem exists_eq_append_cons {text : List UInt8} {position : Nat} (h : position < text.length) :
    ∃ part symbol rest, part.length = position ∧ text = part ++ symbol :: rest :=
  ⟨text.take position, text[position], text.drop (position + 1),
    List.length_take_of_le (Nat.le_of_lt h),
    by rw [← List.drop_eq_getElem_cons h, List.take_append_drop]⟩

/-- Thirty-six symbols fall into five groups. -/
theorem exists_groups (h : text.length = 36) : ∃ a b c d e s t u v, AreGroups a b c d e ∧
    text = a ++ s :: (b ++ t :: (c ++ u :: (d ++ v :: e))) := by
  obtain ⟨a, s, later, ha, rfl⟩ := exists_eq_append_cons (show 8 < text.length by omega)
  rw [List.length_append, List.length_cons, ha] at h
  obtain ⟨b, t, later, hb, rfl⟩ := exists_eq_append_cons (show 4 < later.length by omega)
  rw [List.length_append, List.length_cons, hb] at h
  obtain ⟨c, u, later, hc, rfl⟩ := exists_eq_append_cons (show 4 < later.length by omega)
  rw [List.length_append, List.length_cons, hc] at h
  obtain ⟨d, v, e, hd, rfl⟩ := exists_eq_append_cons (show 4 < later.length by omega)
  rw [List.length_append, List.length_cons, hd] at h
  exact ⟨a, b, c, d, e, s, t, u, v, ⟨ha, hb, hc, hd, by omega⟩, rfl⟩

/-- **What is read.** A text is read exactly if it falls into five groups with hyphens between
them, and the digits of the groups make the bytes. -/
theorem parseUuid_eq_some_iff {bytes : List UInt8} : parseUuid text = some bytes ↔
    ∃ a b c d e, AreGroups a b c d e ∧ text = grouped a b c d e ∧
      parseBytes (a ++ (b ++ (c ++ (d ++ e)))) = some bytes := by
  constructor
  · intro hparse
    rw [parseUuid] at hparse
    split at hparse
    · rename_i hlength
      obtain ⟨a, b, c, d, e, s, t, u, v, hgroups, rfl⟩ := exists_groups hlength
      obtain ⟨⟨rfl, rfl, rfl, rfl⟩, hbytes⟩ := (parseUuidFrom_groups hgroups).1 hparse
      exact ⟨a, b, c, d, e, hgroups, rfl, hbytes⟩
    · cases hparse
  · rintro ⟨a, b, c, d, e, hgroups, rfl, hbytes⟩
    rw [parseUuid, if_pos hgroups.length_grouped]
    exact (parseUuidFrom_groups hgroups).2 ⟨⟨rfl, rfl, rfl, rfl⟩, hbytes⟩

/-- Bytes of which none stands after a hyphen. -/
theorem flatMap_zipIdx_of_not {part : List UInt8} {start : Nat}
    (h : ∀ index, start ≤ index → index < start + part.length →
      ¬ (index = 4 ∨ index = 6 ∨ index = 8 ∨ index = 10)) :
    ((part.zipIdx start).flatMap fun (byte, index) =>
      (if index = 4 ∨ index = 6 ∨ index = 8 ∨ index = 10 then ascii "-" else []) ++
        formatByte byte) = formatBytes part := by
  induction part generalizing start with
  | nil => rfl
  | cons byte part ih =>
    rw [List.length_cons] at h
    rw [List.zipIdx_cons, List.flatMap_cons, ih fun index hle hlt => h index (by omega) (by omega)]
    dsimp only
    rw [if_neg (h start le_rfl (by omega)), List.nil_append]
    rfl

/-- **What is written.** The digits of the bytes in five groups. -/
theorem formatUuid_eq (bytes : Vector UInt8 16) : ∃ a b c d e, AreGroups a b c d e ∧
    formatUuid bytes = grouped a b c d e ∧
      a ++ (b ++ (c ++ (d ++ e))) = formatBytes bytes.toList := by
  have hlength : bytes.toList.length = 16 := Vector.length_toList
  rw [formatUuid]
  generalize bytes.toList = list at hlength
  obtain ⟨as, x, later, ha, rfl⟩ := exists_eq_append_cons (show 4 < list.length by omega)
  rw [List.length_append, List.length_cons, ha] at hlength
  obtain ⟨bs, y, later, hb, rfl⟩ := exists_eq_append_cons (show 1 < later.length by omega)
  rw [List.length_append, List.length_cons, hb] at hlength
  obtain ⟨cs, z, later, hc, rfl⟩ := exists_eq_append_cons (show 1 < later.length by omega)
  rw [List.length_append, List.length_cons, hc] at hlength
  obtain ⟨ds, w, es, hd, rfl⟩ := exists_eq_append_cons (show 1 < later.length by omega)
  rw [List.length_append, List.length_cons, hd] at hlength
  refine ⟨formatBytes as, formatBytes (x :: bs), formatBytes (y :: cs), formatBytes (z :: ds),
    formatBytes (w :: es), ⟨?_, ?_, ?_, ?_, ?_⟩, ?_, ?_⟩
  case refine_6 =>
    simp only [List.zipIdx_append, List.zipIdx_cons, List.flatMap_append, List.flatMap_cons, ha, hb,
      hc, hd, Nat.reduceAdd]
    rw [flatMap_zipIdx_of_not (by omega), flatMap_zipIdx_of_not (by omega),
      flatMap_zipIdx_of_not (by omega), flatMap_zipIdx_of_not (by omega),
      flatMap_zipIdx_of_not (by omega)]
    rfl
  case refine_7 => simp only [← formatBytes_append, List.cons_append]
  all_goals simp only [length_formatBytes, List.length_cons]
  all_goals omega

end Pdr
