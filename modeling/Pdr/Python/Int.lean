import Mathlib.Algebra.Group.Nat.Defs
import Pdr.Python.Str

/-!
# Whole numbers of Python as text

`int` reads more than `str` writes: digits of any script, white space around them, a sign, and
underscores between digits. Which characters outside of ASCII are digits is a matter of the
Unicode database, so it is a parameter; on what `str` writes it has no influence.

## Main definitions

* `Python.Decimals`: the decimal digits of Unicode.
* `Python.int`: `int(s)`, or no number where it throws a `ValueError`.
* `Python.str`: `str(n)`.

## Main results

* `Python.int_str`: what `str` writes is read back, as long as it is not too long.
-/

namespace Python

/-- Which characters are decimal digits, and of what value. Among the characters of ASCII they
are the ten digits. -/
structure Decimals where
  value : Char → Option Nat
  lt_ten : ∀ {c digit}, value c = some digit → digit < 10
  ascii : ∀ c : Char, c.toNat < 128 → value c = if c.isDigit then some (c.toNat - 48) else none

/-- The digits of ASCII and no others. -/
def Decimals.onlyAscii : Decimals where
  value c := if c.isDigit then some (c.toNat - 48) else none
  lt_ten {c digit} h := by
    split at h
    · rename_i hdigit
      obtain ⟨-, hhigh⟩ : 48 ≤ c.toNat ∧ c.toNat ≤ 57 := Char.isDigit_iff_toNat.1 hdigit
      have hvalue := Option.some.inj h
      omega
    · cases h
  ascii _ _ := rfl

/-- `sys.int_info.default_max_str_digits`. -/
def maxStrDigits : Nat := 4300

/-- The white space `int` allows around a number. -/
def isIntSpace (c : Char) : Bool := isSpace c && !(28 ≤ c.toNat && c.toNat ≤ 31)

/-- The values of digits, where underscores may stand between two of them. -/
def digitsOf (decimals : Decimals) : Str → Option (List Nat)
  | [] => none
  | [c] => (decimals.value c).map ([·])
  | c :: '_' :: rest => do
    let digit ← decimals.value c
    let digits ← digitsOf decimals rest
    return digit :: digits
  | c :: rest => do
    let digit ← decimals.value c
    let digits ← digitsOf decimals rest
    return digit :: digits

/-- The number with these digits. -/
def valueOf (digits : List Nat) : Nat := digits.foldl (fun sum digit => 10 * sum + digit) 0

/-- A sign, and what follows it. -/
def signed : Str → Int × Str
  | '-' :: rest => (-1, rest)
  | '+' :: rest => (1, rest)
  | rest => (1, rest)

/-- `int(s)`. -/
def int (decimals : Decimals) (s : Str) : Option Int :=
  let (sign, digits) := signed (stripOf isIntSpace s)
  (digitsOf decimals digits).bind fun digits =>
    if digits.length ≤ maxStrDigits then some (sign * (valueOf digits : Nat)) else none

/-- `str(n)`. -/
def str : Int → Str
  | .ofNat n => Nat.toDigits 10 n
  | .negSucc n => '-' :: Nat.toDigits 10 (n + 1)

section Digits

variable {decimals : Decimals} {digits : Str}

theorem Decimals.value_of_isDigit {c : Char} (h : c.isDigit = true) :
    decimals.value c = some (c.toNat - 48) := by
  have hc : c.toNat < 128 := by
    rw [Char.isDigit_iff_toNat] at h
    have hz : '9'.toNat = 57 := rfl
    omega
  rw [decimals.ascii c hc, if_pos h]

theorem Decimals.value_eq_none {c : Char} (hlow : c.toNat < 128) (h : c.isDigit = false) :
    decimals.value c = none := by
  rw [decimals.ascii c hlow, if_neg (Bool.eq_false_iff.1 h)]

/-- Digits of ASCII are digits. -/
theorem digitsOf_eq_some (h : ∀ c ∈ digits, c.isDigit = true) (hne : digits ≠ []) :
    digitsOf decimals digits = some (digits.map fun c => c.toNat - 48) := by
  induction digits with
  | nil => exact absurd rfl hne
  | cons c rest ih =>
    have hc : decimals.value c = _ := Decimals.value_of_isDigit (h c List.mem_cons_self)
    cases rest with
    | nil => rw [digitsOf, hc]; rfl
    | cons d rest =>
      have hlater := ih (fun e he => h e (List.mem_cons_of_mem c he)) (List.cons_ne_nil d rest)
      have hd : d ≠ '_' := by
        rintro rfl
        exact absurd (h '_' (by simp)) (by decide)
      rw [digitsOf, hc, hlater]
      · rfl
      · exact fun hnil => absurd hnil (List.cons_ne_nil d rest)
      · rintro rest' hcons
        exact hd (List.cons.inj hcons).1

theorem isDigit_of_mem_str {n : Nat} {c : Char} (h : c ∈ str n) : c.isDigit = true :=
  Nat.isDigit_of_mem_toDigits (by omega) (by omega) h

theorem str_ne_nil (n : Nat) : str n ≠ [] := Nat.toDigits_ne_nil

theorem isSpace_of_isDigit {c : Char} (h : c.isDigit = true) : isSpace c = false := by
  obtain ⟨hlow, hhigh⟩ : 48 ≤ c.toNat ∧ c.toNat ≤ 57 := Char.isDigit_iff_toNat.1 h
  simp only [isSpace, List.contains_cons, List.contains_nil, Bool.or_eq_false_iff,
    Bool.and_eq_false_iff, decide_eq_false_iff_not, beq_eq_false_iff_ne,
    and_true]
  omega

theorem signed_of_isDigit (h : ∀ c ∈ digits, c.isDigit = true) : signed digits = (1, digits) := by
  cases digits with
  | nil => rfl
  | cons c rest =>
    have hc := h c List.mem_cons_self
    rw [signed]
    · rintro rest' hcons
      rw [(List.cons.inj hcons).1] at hc
      exact absurd hc (by decide)
    · rintro rest' hcons
      rw [(List.cons.inj hcons).1] at hc
      exact absurd hc (by decide)

theorem valueOf_map (digits : Str) :
    valueOf (digits.map fun c => c.toNat - 48) = Nat.ofDigitChars 10 digits 0 := by
  rw [valueOf, List.foldl_map, Nat.ofDigitChars_eq_foldl]
  rfl

/-- What `str` writes for a number from zero is read back. -/
theorem int_str {n : Nat} (h : (str n).length ≤ maxStrDigits) :
    int decimals (str n) = some (n : Int) := by
  have hspace : ∀ c ∈ str n, isIntSpace c = false := by
    intro c hc
    rw [isIntSpace, isSpace_of_isDigit (isDigit_of_mem_str hc)]
    rfl
  have hstrip : stripOf isIntSpace (str n) = str n :=
    stripOf_eq_self (fun c hc => hspace c (List.mem_of_mem_head? hc))
      fun c hc => hspace c (List.mem_of_getLast? hc)
  have hdigits : digitsOf decimals (str n) = _ :=
    digitsOf_eq_some (fun c hc => isDigit_of_mem_str hc) (str_ne_nil n)
  have hvalue : valueOf ((str n).map fun c => c.toNat - 48) = n := by
    rw [valueOf_map]
    exact Nat.ofDigitChars_ten_toDigits
  simp only [int, hstrip, signed_of_isDigit fun c hc => isDigit_of_mem_str hc, hdigits,
    Option.bind_some, List.length_map, if_pos h, hvalue, Int.one_mul]

/-- Digits are below ten. -/
theorem lt_ten_of_digitsOf {values : List Nat} (h : digitsOf decimals digits = some values) :
    ∀ value ∈ values, value < 10 := by
  induction digits using digitsOf.induct generalizing values with
  | case1 => cases h
  | case2 c =>
    rw [digitsOf, Option.map_eq_some_iff] at h
    obtain ⟨digit, hdigit, rfl⟩ := h
    intro value hvalue
    rw [List.mem_singleton.1 hvalue]
    exact decimals.lt_ten hdigit
  | case3 c rest ih =>
    rw [digitsOf] at h
    obtain ⟨digit, hdigit, h⟩ := Option.bind_eq_some_iff.1 h
    obtain ⟨later, hlater, h⟩ := Option.bind_eq_some_iff.1 h
    obtain rfl := Option.some.inj h
    exact List.forall_mem_cons.2 ⟨decimals.lt_ten hdigit, ih hlater⟩
  | case4 c rest hnil hunderscore ih =>
    rw [digitsOf] at h
    · obtain ⟨digit, hdigit, h⟩ := Option.bind_eq_some_iff.1 h
      obtain ⟨later, hlater, h⟩ := Option.bind_eq_some_iff.1 h
      obtain rfl := Option.some.inj h
      exact List.forall_mem_cons.2 ⟨decimals.lt_ten hdigit, ih hlater⟩
    · exact hnil
    · exact hunderscore

theorem valueOf_lt {values : List Nat} (h : ∀ value ∈ values, value < 10) :
    valueOf values < 10 ^ values.length := by
  suffices hsum : ∀ (values : List Nat) (sum : Nat), (∀ value ∈ values, value < 10) →
      values.foldl (fun sum digit => 10 * sum + digit) sum < 10 ^ values.length * (sum + 1) by
    have := hsum values 0 h
    rwa [Nat.zero_add, Nat.mul_one] at this
  intro values
  induction values with
  | nil => intro sum _; simp
  | cons value values ih =>
    intro sum hall
    have hlater := ih (10 * sum + value) fun other hother =>
      hall other (List.mem_cons_of_mem _ hother)
    have hvalue := hall value List.mem_cons_self
    calc values.foldl (fun sum digit => 10 * sum + digit) (10 * sum + value)
        < 10 ^ values.length * (10 * sum + value + 1) := hlater
      _ ≤ 10 ^ values.length * (10 * (sum + 1)) := Nat.mul_le_mul_left _ (by omega)
      _ = 10 ^ (value :: values).length * (sum + 1) := by
        rw [List.length_cons, Nat.pow_succ, Nat.mul_assoc]

theorem signed_cases (s : Str) : (signed s).1 = 1 ∨ (signed s).1 = -1 := by
  unfold signed
  split
  · exact Or.inr rfl
  · exact Or.inl rfl
  · exact Or.inl rfl

/-- A number that was read has a sign and not too many digits. -/
theorem int_eq_some {s : Str} {n : Int} (h : int decimals s = some n) :
    ∃ sign values, (sign = 1 ∨ sign = -1) ∧ values.length ≤ maxStrDigits ∧
      (∀ value ∈ values, value < 10) ∧ n = sign * (valueOf values : Nat) := by
  have hsign := signed_cases (stripOf isIntSpace s)
  rw [int] at h
  rcases hsigned : signed (stripOf isIntSpace s) with ⟨sign, rest⟩
  rw [hsigned] at h hsign
  obtain ⟨values, hvalues, hvalue⟩ := Option.bind_eq_some_iff.1 h
  split at hvalue
  · rename_i hlength
    exact ⟨sign, values, hsign, hlength, lt_ten_of_digitsOf hvalues, (Option.some.inj hvalue).symm⟩
  · cases hvalue

/-- A number that was read is not too long to be read again. -/
theorem length_str_of_int {s : Str} {n : Nat} (h : int decimals s = some (n : Int)) :
    (str n).length ≤ maxStrDigits := by
  obtain ⟨sign, values, hsign, hlength, hdigits, hn⟩ := int_eq_some h
  have hlt := valueOf_lt hdigits
  have hpow : 10 ^ values.length ≤ 10 ^ maxStrDigits := Nat.pow_le_pow_right (by omega) hlength
  have hbound : n ≤ valueOf values := by
    rcases hsign with rfl | rfl
    · omega
    · omega
  exact (Nat.length_toDigits_le_iff (by omega) (by decide)).2
    (Nat.lt_of_le_of_lt hbound (Nat.lt_of_lt_of_le hlt hpow))

end Digits

end Python
