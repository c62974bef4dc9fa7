import Pdr.Identity.Store.Database

/-!
# What the scenarios are given

A scenario is the source's `Execute`, cut at its calls to the stores. Besides the stores it
is given the settings, which may change between two executions, and the cryptography,
which may not. The answers of the clock and of the generators are given to an execution
from outside, as arbitrary values.

## Main definitions

* `Pdr.Identity.AuthPorts`: the settings and the cryptography of the scenarios.
* `Pdr.Identity.Drawn`: what the clock and the generators answer in one execution.
* `Pdr.Identity.openSession`: the end of every scenario that lets somebody in.
* `Pdr.Identity.standIn`: ports that can be computed, for worked runs.
-/

namespace Pdr.Identity

open StoreProgram

/-- The settings in force; each of them may be refused as a whole. -/
structure AuthSettings where
  passwords : Result PasswordRules
  throttle : Result ThrottleLimits
  lifetimes : Result AuthLifetimes
  signups : Result SignupLimits

/-- What the scenarios use besides the stores, the clock and the generators. -/
structure AuthPorts where
  settings : AuthSettings
  digests : Digests
  hasher : PasswordHasher

/-- The answers of the clock and of the generators during one execution. The clock is read
more than once by some scenarios; `clock n` is the answer to its reading number `n`. -/
structure Drawn where
  clock : Nat → Int
  personId : PersonId
  tenantId : TenantId
  tokenId : TokenId
  consentId : ConsentId
  roleIds : Role → StrongId .roleAssignment
  tokenText : Text
  salt : Text
  sessionSecret : SessionSecret

/-- The end of every scenario that lets somebody in: open a session and save it. -/
def openSession (lifetimes : AuthLifetimes) (drawn : Drawn) (tenant : TenantId)
    (person : PersonId) (now : Int) (seen : Fingerprint) : Scenario Session := do
  let opened ← accept
    (Session.open_ ⟨tenant, drawn.sessionSecret⟩ person now lifetimes.session seen)
  ask (.sessions (.save opened))
  return opened

/-- A scenario that ends by opening a session returns the session it saved last. -/
theorem returns_openSession {lifetimes : AuthLifetimes} {drawn : Drawn} {tenant : TenantId}
    {person : PersonId} {now : Int} {seen : Fingerprint}
    {history : List (Entry Call.Answer Fault)} {session : Session}
    (h : (openSession lifetimes drawn tenant person now seen).Returns history session) :
    session = ⟨⟨tenant, drawn.sessionSecret⟩, person, now, now + lifetimes.session, none, seen⟩ ∧
      history = [⟨.sessions (.save session), .ok ()⟩] := by
  simp only [openSession, Session.open_of_pos lifetimes.positive.1,
    Program.returns_ofExcept_bind, Program.returns_perform_bind, Program.pure_eq_done,
    Program.returns_done, Result.orRefuse_eq_ok] at h
  obtain ⟨opened, hopened, ⟨⟩, later, rfl, rfl, rfl⟩ := h
  exact ⟨(Except.ok.inj hopened).symm, rfl⟩

/-! ### Ports that can be computed -/

/-- A symbol of a fingerprint made of one byte. -/
def standInSymbol (byte : UInt8) : UInt8 := 48 + byte % 10

theorem isLowerHex_standInSymbol (byte : UInt8) : isLowerHex (standInSymbol byte) = true := by
  have hsum : (standInSymbol byte).toNat = 48 + byte.toNat % 10 := by
    simp only [standInSymbol, UInt8.toNat_add, UInt8.toNat_mod, UInt8.reduceToNat]
    omega
  have hrange : byte.toNat % 10 < 10 := Nat.mod_lt _ (by decide)
  simp only [isLowerHex, UInt8.le_iff_toNat_le, hsum, UInt8.reduceToNat, Bool.or_eq_true,
    Bool.and_eq_true, decide_eq_true_eq]
  omega

/-- A fingerprint made of the first 64 bytes of a text. -/
def standInDigest : Digests := fun text =>
  { value := ((text ++ List.replicate 64 48).map standInSymbol).take 64
    wellFormed := by
      refine ⟨by simp, List.all_eq_true.2 fun symbol hsymbol => ?_⟩
      obtain ⟨byte, -, rfl⟩ := List.mem_map.1 (List.mem_of_mem_take hsymbol)
      exact isLowerHex_standInSymbol byte }

/-- A hash that is the password behind the prefix of the record. -/
def standInHash (password : Password) : PasswordHash :=
  ⟨argon2idPrefix ++ password.secret,
    List.isPrefixOf_iff_prefix.2 (List.prefix_append _ _)⟩

/-- Passwords with such hashes. -/
def standInHasher : PasswordHasher where
  hash _ password _ := .ok (standInHash password)
  matchesHash password hash := hash = standInHash password

/-- Settings within every bound, with lifetimes of a day, an hour and an hour, and three
accounts an hour from one address. -/
def standInSettings (throttle : ThrottleLimits) : AuthSettings where
  passwords := .ok ⟨19456, 2, 1, 8⟩
  throttle := .ok throttle
  lifetimes := .ok ⟨86400000000, 3600000000, 3600000000, by decide, by decide⟩
  signups := .ok ⟨3600000000, 3, by decide, by decide⟩

/-- Windows of fifteen minutes, five failures for an account and twenty for an address. -/
def standInThrottle : ThrottleLimits := ⟨900000000, 5, 20, by decide, by decide, by decide⟩

/-- Ports whose answers can be computed. -/
def standIn : AuthPorts := ⟨standInSettings standInThrottle, standInDigest, standInHasher⟩

/-- An identifier of sixteen equal bytes. -/
def repeated {tag : IdTag} (byte : UInt8) : StrongId tag := ⟨Vector.replicate 16 byte⟩

/-- The mail a text is the address of. -/
def mailOf (text : Text) : Email := ⟨lowered text, lowered_lowered text⟩

/-- A password. -/
def plainPassword : Password := ⟨ascii "password", by decide⟩

/-- Draws of an execution at a moment, all identifiers made of one byte. -/
def drawnAt (now : Int) (byte : UInt8) : Drawn where
  clock _ := now
  personId := repeated byte
  tenantId := repeated byte
  tokenId := repeated byte
  consentId := repeated byte
  roleIds role := repeated (byte + UInt8.ofNat (Listed.bit role).val)
  tokenText := List.replicate 43 (65 + byte)
  salt := []
  sessionSecret := repeated byte

end Pdr.Identity
