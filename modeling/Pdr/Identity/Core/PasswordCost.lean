import Mathlib.Algebra.Group.Nat.Even
import Mathlib.Tactic.ByContra
import Mathlib.Tactic.SplitIfs
import Pdr.Identity.Core.Secrets

/-!
# The cost that rules for passwords ask for

Argon2 takes at least eight kibibytes of memory for a lane. The rules compare the memory with the
number of lanes times eight, and compute that product in 32 bits: from 2^29 lanes on it wraps, and
rules can be accepted whose memory is far below what the lanes need. No hash can be computed by
such rules.

## Main definitions

* `Pdr.Identity.PasswordRules.IsExact`: the documented bounds, in whole numbers.

## Main results

* `Pdr.Identity.PasswordRules.exists_compose_iff`: the rules that are accepted.
* `Pdr.Identity.PasswordRules.accepted_are_exact_iff`: when what is accepted keeps the bounds.
* `Pdr.Identity.PasswordRules.wrapped_product_is_accepted`: rules that do not.
-/

namespace Pdr.Identity.PasswordRules

/-- The documented bounds: enough memory, passes and lanes, eight kibibytes for a lane, and a
shortest password between eight symbols and the longest one. -/
structure IsExact (rules : PasswordRules) : Prop where
  memory : leastMemoryKib.toNat ≤ rules.memoryKib.toNat
  passes : leastIterations.toNat ≤ rules.iterations.toNat
  lanes : leastParallelism.toNat ≤ rules.parallelism.toNat
  blocks : blocksPerLane.toNat * rules.parallelism.toNat ≤ rules.memoryKib.toNat
  length : leastMinLength ≤ rules.minLength ∧ rules.minLength ≤ Password.maxLength

variable {memoryKib iterations parallelism : UInt32} {minLength : Nat} {rules : PasswordRules}

theorem toNat_lanes (parallelism : UInt32) :
    (parallelism * blocksPerLane).toNat = 8 * parallelism.toNat % 2 ^ 32 := by
  rw [UInt32.toNat_mul, Nat.mul_comm]
  rfl

/-- **The rules that are accepted**: each bound is checked, the one on lanes in 32 bits. -/
theorem exists_compose_iff :
    (∃ rules, compose memoryKib iterations parallelism minLength = .ok rules) ↔
      19456 ≤ memoryKib.toNat ∧ 2 ≤ iterations.toNat ∧ 1 ≤ parallelism.toNat ∧
        8 * parallelism.toNat % 2 ^ 32 ≤ memoryKib.toNat ∧ 8 ≤ minLength ∧ minLength ≤ 256 := by
  have hleast : leastMemoryKib.toNat = 19456 ∧ leastIterations.toNat = 2 ∧
      leastParallelism.toNat = 1 ∧ leastMinLength = 8 ∧ Password.maxLength = 256 :=
    ⟨rfl, rfl, rfl, rfl, rfl⟩
  unfold compose
  simp only [UInt32.lt_iff_toNat_lt, toNat_lanes]
  constructor
  · rintro ⟨rules, h⟩
    split_ifs at h
    omega
  · rintro ⟨hmemory, hpasses, hlanes, hblocks, hshort, hlong⟩
    rw [if_neg (by omega), if_neg (by omega), if_neg (by omega), if_neg (by omega),
      if_neg (by omega), if_neg (by omega)]
    exact ⟨_, rfl⟩

theorem eq_of_compose (h : compose memoryKib iterations parallelism minLength = .ok rules) :
    rules = ⟨memoryKib, iterations, parallelism, minLength⟩ := by
  unfold compose at h
  split_ifs at h
  exact (Except.ok.inj h).symm

theorem isExact_iff : IsExact ⟨memoryKib, iterations, parallelism, minLength⟩ ↔
    19456 ≤ memoryKib.toNat ∧ 2 ≤ iterations.toNat ∧ 1 ≤ parallelism.toNat ∧
      8 * parallelism.toNat ≤ memoryKib.toNat ∧ 8 ≤ minLength ∧ minLength ≤ 256 := by
  constructor
  · rintro ⟨hmemory, hpasses, hlanes, hblocks, hshort, hlong⟩
    exact ⟨hmemory, hpasses, hlanes, hblocks, hshort, hlong⟩
  · rintro ⟨hmemory, hpasses, hlanes, hblocks, hshort, hlong⟩
    exact ⟨hmemory, hpasses, hlanes, hblocks, hshort, hlong⟩

/-- **When what is accepted keeps the bounds.** It does exactly if there are fewer than 2^29 lanes,
so that the product does not wrap, or if one of the other checks or the wrapped product refuses. -/
theorem accepted_are_exact_iff :
    (∀ rules, compose memoryKib iterations parallelism minLength = .ok rules → rules.IsExact) ↔
      parallelism.toNat < 2 ^ 29 ∨ memoryKib.toNat < 19456 ∨ iterations.toNat < 2 ∨
        memoryKib.toNat < 8 * parallelism.toNat % 2 ^ 32 ∨ minLength < 8 ∨ 256 < minLength := by
  have hrange := memoryKib.toNat_lt
  have haccepted := @exists_compose_iff memoryKib iterations parallelism minLength
  constructor
  · intro h
    by_contra hbad
    obtain ⟨rules, hrules⟩ := haccepted.2 (by omega)
    have hexact := h rules hrules
    rw [eq_of_compose hrules, isExact_iff] at hexact
    omega
  · intro hcondition rules hrules
    have hchecks := haccepted.1 ⟨rules, hrules⟩
    rw [eq_of_compose hrules, isExact_iff]
    omega

/-- **A product that wraps is accepted.** With 2^29 lanes it is zero: nineteen mebibytes are enough
for lanes that need four gibibytes. -/
theorem wrapped_product_is_accepted :
    compose 19456 2 536870912 8 = .ok ⟨19456, 2, 536870912, 8⟩ ∧
      ¬ IsExact ⟨19456, 2, 536870912, 8⟩ := by
  refine ⟨rfl, fun hexact => ?_⟩
  exact absurd hexact.blocks (by decide +kernel)

end Pdr.Identity.PasswordRules
