import Mathlib.Data.List.Induction
import Pdr.Identity.Application.SigningIn
import Pdr.Identity.Core.GuardianAccess

/-!
# Settings from the dynamic config

The config is replaced while the service runs. Each setting is composed from the newest
snapshot, at each call and anew; the limits that hold between several values are checked there,
since the registry's schema cannot express them. The comments at the value types and at the
adapters say that a set of values that fails the check is not applied and that the earlier one
stays in force. Nothing keeps the earlier one.

A snapshot is what the source hands out, that is, values of the types of the keys. The
arithmetic of durations is that of the code's types: where a product does not fit, it wraps.

## Main definitions

* `Pdr.Identity.ConfigSnapshot`: the values of the eight variables.
* `Pdr.Identity.Setting.call`: the five calls of the two adapters.
* `Pdr.Identity.lastGood`: what was composed from the last values that passed.
* `Pdr.Identity.ConfigSnapshot.Fits`: the limits on the values of each setting.

## Main results

* `Pdr.Identity.last_good_is_in_force_iff`: when a call returns what is to be in force.
* `Pdr.Identity.broken_update_is_in_force`: calls that do not.
-/

namespace Pdr.Identity

open StoreProgram

/-! ### Snapshots -/

/-- `PDR_SIGN_IN_RULES`. -/
structure PasswordRulesConfig where
  memoryKib : UInt32 := 19456
  iterations : UInt32 := 2
  parallelism : UInt32 := 1
  minLength : UInt32 := 10

/-- `PDR_LOGIN_THROTTLE`. -/
structure ThrottleConfig where
  windowMinutes : UInt32 := 15
  perAccount : UInt32 := 10
  perAddress : UInt32 := 50

/-- `PDR_SIGNUP_THROTTLE`. -/
structure SignupConfig where
  windowMinutes : UInt32 := 60
  perAddress : UInt32 := 5

/-- `PDR_AUTH_LIFETIMES`. -/
structure LifetimesConfig where
  sessionHours : UInt32 := 720
  invitationHours : UInt32 := 168
  passwordResetMinutes : UInt32 := 30

/-- The values of the keys at one moment, by default those in the code. -/
structure ConfigSnapshot where
  selfAccountAge : Int32 := 14
  ownPaymentsAge : Int32 := 16
  majorityAge : Int32 := 18
  guardianHandoverDays : Int32 := 30
  passwordRules : PasswordRulesConfig := {}
  loginThrottle : ThrottleConfig := {}
  authLifetimes : LifetimesConfig := {}
  signupThrottle : SignupConfig := {}

/-! ### The adapters -/

/-- `duration_cast` to microseconds, counted in 64 bits. -/
def inMicroseconds (count : Int) (unit : Int) : Int := (count * unit).bmod (2 ^ 64)

/-- The microseconds of `std::chrono::hours`. -/
def hours (count : Int) : Int := inMicroseconds count 3600000000

/-- The microseconds of `std::chrono::minutes`. -/
def minutes (count : Int) : Int := inMicroseconds count 60000000

/-- `DynamicConfigMaturitySettings::Rule`. The hours of the days are computed in 32 bits. -/
def DynamicConfigMaturitySettings.rule (snapshot : ConfigSnapshot) : Result MaturityRule := do
  let thresholds ← AgeThresholds.compose snapshot.selfAccountAge.toInt
    snapshot.ownPaymentsAge.toInt snapshot.majorityAge.toInt
  MaturityRule.compose thresholds (hours (24 * snapshot.guardianHandoverDays).toInt)

namespace DynamicConfigAuthSettings

/-- `Passwords`. -/
def passwords (snapshot : ConfigSnapshot) : Result PasswordRules :=
  let value := snapshot.passwordRules
  PasswordRules.compose value.memoryKib value.iterations value.parallelism value.minLength.toNat

/-- `Throttle`. -/
def throttle (snapshot : ConfigSnapshot) : Result ThrottleLimits :=
  let value := snapshot.loginThrottle
  ThrottleLimits.compose (minutes value.windowMinutes.toNat) value.perAccount value.perAddress

/-- `Signups`. -/
def signups (snapshot : ConfigSnapshot) : Result SignupLimits :=
  let value := snapshot.signupThrottle
  SignupLimits.compose (minutes value.windowMinutes.toNat) value.perAddress

/-- `Lifetimes`. -/
def lifetimes (snapshot : ConfigSnapshot) : Result AuthLifetimes :=
  let value := snapshot.authLifetimes
  AuthLifetimes.compose (hours value.sessionHours.toNat) (hours value.invitationHours.toNat)
    (minutes value.passwordResetMinutes.toNat)

/-- The port of the scenarios, over the snapshot in force. -/
def settings (snapshot : ConfigSnapshot) : AuthSettings where
  passwords := passwords snapshot
  throttle := throttle snapshot
  lifetimes := lifetimes snapshot
  signups := signups snapshot

end DynamicConfigAuthSettings

/-- The settings that are composed, each on its own. -/
inductive Setting where
  | rule
  | passwords
  | throttle
  | lifetimes
  | signups
deriving DecidableEq, Repr

namespace Setting

/-- What each setting is composed to. -/
abbrev Value : Setting → Type
  | rule => MaturityRule
  | passwords => PasswordRules
  | throttle => ThrottleLimits
  | lifetimes => AuthLifetimes
  | signups => SignupLimits

/-- The call that returns the setting. -/
def call : ∀ setting : Setting, ConfigSnapshot → Result setting.Value
  | rule => DynamicConfigMaturitySettings.rule
  | passwords => DynamicConfigAuthSettings.passwords
  | throttle => DynamicConfigAuthSettings.throttle
  | lifetimes => DynamicConfigAuthSettings.lifetimes
  | signups => DynamicConfigAuthSettings.signups

end Setting

/-- `GetSnapshot`: the newest of the snapshots there were. -/
def getSnapshot (first : ConfigSnapshot) (updates : List ConfigSnapshot) : ConfigSnapshot :=
  updates.getLastD first

/-! ### What is to be in force -/

section LastGood

variable {S E V : Type}

/-- What was composed from the last of the values that passed; `none` when none did. -/
def lastGood (compose : S → Except E V) (history : List S) : Option V :=
  history.foldl (fun kept values => ((compose values).toOption).or kept) none

theorem lastGood_concat (compose : S → Except E V) (history : List S) (values : S) :
    lastGood compose (history ++ [values]) =
      ((compose values).toOption).or (lastGood compose history) := by
  simp [lastGood]

theorem isSome_lastGood {compose : S → Except E V} {first : S} {value : V}
    (hfirst : compose first = .ok value) (later : List S) :
    (lastGood compose (first :: later)).isSome = true := by
  induction later using List.reverseRec with
  | nil => simp [lastGood, hfirst, Except.toOption]
  | append_singleton later last ih =>
    rw [← List.cons_append, lastGood_concat, Option.isSome_or, ih, Bool.or_true]

/-- The newest values are the ones in force exactly when they pass. -/
theorem newest_isGood_iff (compose : S → Except E V) (first : S) (later : List S) :
    (∃ value, compose (later.getLastD first) = .ok value ∧
        lastGood compose (first :: later) = some value) ↔
      ∃ value, compose (later.getLastD first) = .ok value := by
  refine ⟨fun ⟨value, hvalue, _⟩ => ⟨value, hvalue⟩, fun ⟨value, hvalue⟩ => ⟨value, hvalue, ?_⟩⟩
  obtain ⟨history, hhistory⟩ : ∃ history, first :: later = history ++ [later.getLastD first] := by
    cases later using List.reverseRec with
    | nil => exact ⟨[], rfl⟩
    | append_singleton later last => exact ⟨first :: later, by simp⟩
  rw [hhistory, lastGood_concat, hvalue]
  rfl

end LastGood

/-- A call returns what was composed from the last values of its setting that passed. -/
def LastGoodInForce (setting : Setting) (first : ConfigSnapshot) (updates : List ConfigSnapshot) :
    Prop :=
  ∃ value, setting.call (getSnapshot first updates) = .ok value ∧
    lastGood setting.call (first :: updates) = some value

/-! ### Which values pass -/

namespace ConfigSnapshot

/-- The limits on the values of each setting. -/
def Fits (snapshot : ConfigSnapshot) : Setting → Prop
  | .rule =>
    6 ≤ snapshot.selfAccountAge.toInt ∧
      snapshot.selfAccountAge.toInt ≤ snapshot.ownPaymentsAge.toInt ∧
      snapshot.ownPaymentsAge.toInt ≤ snapshot.majorityAge.toInt ∧
      snapshot.majorityAge.toInt ≤ 21 ∧ 0 < hours (24 * snapshot.guardianHandoverDays).toInt
  | .passwords =>
    19456 ≤ snapshot.passwordRules.memoryKib ∧ 2 ≤ snapshot.passwordRules.iterations ∧
      1 ≤ snapshot.passwordRules.parallelism ∧
      snapshot.passwordRules.parallelism * 8 ≤ snapshot.passwordRules.memoryKib ∧
      8 ≤ snapshot.passwordRules.minLength.toNat ∧ snapshot.passwordRules.minLength.toNat ≤ 256
  | .throttle =>
    0 < minutes snapshot.loginThrottle.windowMinutes.toNat ∧ 1 ≤ snapshot.loginThrottle.perAccount ∧
      snapshot.loginThrottle.perAccount ≤ snapshot.loginThrottle.perAddress
  | .lifetimes =>
    0 < hours snapshot.authLifetimes.sessionHours.toNat ∧
      0 < minutes snapshot.authLifetimes.passwordResetMinutes.toNat ∧
      minutes snapshot.authLifetimes.passwordResetMinutes.toNat ≤
        hours snapshot.authLifetimes.invitationHours.toNat
  | .signups =>
    0 < minutes snapshot.signupThrottle.windowMinutes.toNat ∧
      snapshot.signupThrottle.perAddress ≠ 0

instance (snapshot : ConfigSnapshot) (setting : Setting) : Decidable (snapshot.Fits setting) := by
  cases setting <;> exact inferInstanceAs (Decidable (_ ∧ _))

theorem fits_default (setting : Setting) : ({} : ConfigSnapshot).Fits setting := by
  cases setting <;> decide

end ConfigSnapshot

/-! ### Which calls succeed -/

section Checks

variable {E U V : Type} {p : Prop} [Decidable p] {e : E}

theorem exists_dite_ok {value : p → Except E V} :
    (∃ v, (if h : p then value h else .error e) = .ok v) ↔ ∃ h : p, ∃ v, value h = .ok v := by
  by_cases h : p <;> simp [h]

theorem exists_ite_error {rest : Except E V} :
    (∃ v, (if p then .error e else rest) = .ok v) ↔ ¬ p ∧ ∃ v, rest = .ok v := by
  by_cases h : p <;> simp [h]

theorem exists_bind_ok {first : Except E U} {next : U → Except E V} :
    (∃ v, first >>= next = .ok v) ↔ ∃ u, first = .ok u ∧ ∃ v, next u = .ok v := by
  cases first with
  | error error => simp [bind, Except.bind]
  | ok value => simp [bind, Except.bind]

end Checks

theorem AgeThresholds.exists_compose {slotsAndReviews ownPayments majority : Int} :
    (∃ thresholds, compose slotsAndReviews ownPayments majority = .ok thresholds) ↔
      6 ≤ slotsAndReviews ∧ slotsAndReviews ≤ ownPayments ∧ ownPayments ≤ majority ∧
        majority ≤ 21 := by
  have hrange : (∀ years ∈ [slotsAndReviews, ownPayments, majority],
      youngestThinkable ≤ years ∧ years ≤ oldestThinkable) ↔
        (6 ≤ slotsAndReviews ∧ slotsAndReviews ≤ 21) ∧ (6 ≤ ownPayments ∧ ownPayments ≤ 21) ∧
          6 ≤ majority ∧ majority ≤ 21 := by
    simp [youngestThinkable, oldestThinkable]
  simp only [compose, exists_dite_ok, Except.ok.injEq, exists_eq', exists_prop, and_true]
  rw [hrange]
  omega

theorem MaturityRule.exists_compose {thresholds : AgeThresholds} {grace : Int} :
    (∃ rule, compose thresholds grace = .ok rule) ↔ 0 < grace := by
  simp only [compose, exists_dite_ok, Except.ok.injEq, exists_eq', exists_prop, and_true]

theorem exists_rule {snapshot : ConfigSnapshot} :
    (∃ rule, DynamicConfigMaturitySettings.rule snapshot = .ok rule) ↔ snapshot.Fits .rule := by
  rw [DynamicConfigMaturitySettings.rule, exists_bind_ok]
  simp only [MaturityRule.exists_compose, exists_and_right, AgeThresholds.exists_compose,
    ConfigSnapshot.Fits, and_assoc]

theorem exists_passwords {snapshot : ConfigSnapshot} :
    (∃ rules, DynamicConfigAuthSettings.passwords snapshot = .ok rules) ↔
      snapshot.Fits .passwords := by
  simp only [DynamicConfigAuthSettings.passwords, PasswordRules.compose, exists_ite_error,
    UInt32.not_lt, Nat.not_lt, Except.ok.injEq, exists_eq', and_true]
  simp only [ConfigSnapshot.Fits, leastMemoryKib, leastIterations, leastParallelism, blocksPerLane,
    leastMinLength, Password.maxLength]

theorem exists_throttle {snapshot : ConfigSnapshot} :
    (∃ limits, DynamicConfigAuthSettings.throttle snapshot = .ok limits) ↔
      snapshot.Fits .throttle := by
  simp only [DynamicConfigAuthSettings.throttle, ThrottleLimits.compose, exists_dite_ok,
    Except.ok.injEq, exists_eq', exists_prop, and_true]
  -- The limit by address is at least one because the limit by account is.
  refine and_congr_right fun _ => ⟨fun h => ⟨h.1.1, h.2⟩, fun h => ⟨⟨h.1, ?_⟩, h.2⟩⟩
  exact UInt32.le_trans h.1 h.2

theorem exists_lifetimes {snapshot : ConfigSnapshot} :
    (∃ lifetimes, DynamicConfigAuthSettings.lifetimes snapshot = .ok lifetimes) ↔
      snapshot.Fits .lifetimes := by
  simp only [DynamicConfigAuthSettings.lifetimes, AuthLifetimes.compose, exists_dite_ok,
    Except.ok.injEq, exists_eq', exists_prop, and_true, ConfigSnapshot.Fits]
  omega

theorem exists_signups {snapshot : ConfigSnapshot} :
    (∃ limits, DynamicConfigAuthSettings.signups snapshot = .ok limits) ↔
      snapshot.Fits .signups := by
  simp only [DynamicConfigAuthSettings.signups, SignupLimits.compose, exists_dite_ok,
    Except.ok.injEq, exists_eq', exists_prop, and_true, ConfigSnapshot.Fits]

theorem exists_call {snapshot : ConfigSnapshot} {setting : Setting} :
    (∃ value, setting.call snapshot = .ok value) ↔ snapshot.Fits setting := by
  cases setting with
  | rule => exact exists_rule
  | passwords => exact exists_passwords
  | throttle => exact exists_throttle
  | lifetimes => exact exists_lifetimes
  | signups => exact exists_signups

/-- **A call returns the last good value exactly when the newest values are good.** -/
theorem last_good_is_in_force_iff (first : ConfigSnapshot) (updates : List ConfigSnapshot)
    (setting : Setting) :
    LastGoodInForce setting first updates ↔ (getSnapshot first updates).Fits setting := by
  rw [← exists_call]
  exact newest_isGood_iff setting.call first updates

/-- The thresholds come out of order, then the hash gets cheap: the earlier rules are known, and
the calls fail. -/
theorem broken_update_is_in_force :
    (∀ setting, ({} : ConfigSnapshot).Fits setting) ∧
    (lastGood (Setting.call .rule) [{}, { selfAccountAge := 17 }]).isSome = true ∧
    (∃ error, Setting.call .rule (getSnapshot {} [{ selfAccountAge := 17 }]) = .error error ∧
      error.code = "age_thresholds_out_of_order") ∧
    (∃ error, Setting.call .passwords
        (getSnapshot {} [{ passwordRules := { memoryKib := 1024 } }]) = .error error ∧
      error.code = "password_memory_too_small") ∧
    ¬ ∀ (first : ConfigSnapshot) (updates : List ConfigSnapshot) (setting : Setting),
      (∀ setting, first.Fits setting) → LastGoodInForce setting first updates := by
  obtain ⟨kept, hkept⟩ := exists_call.2 (ConfigSnapshot.fits_default .rule)
  refine ⟨ConfigSnapshot.fits_default, isSome_lastGood hkept _, ⟨_, rfl, rfl⟩, ⟨_, rfl, rfl⟩,
    fun h => ?_⟩
  obtain ⟨rule, hrule, -⟩ := h {} [{ selfAccountAge := 17 }] .rule ConfigSnapshot.fits_default
  cases hrule

end Pdr.Identity
