import Pdr.Core.Types

/-!
# The throttle of sign-ins

Failures are counted by account and by address, in windows. A window begins with the first
failure after the earlier window ran out, and a subject is blocked while its window lasts
and holds as many failures as the limit.

## Main definitions

* `Pdr.Identity.ThrottleLimits`
* `Pdr.Identity.AttemptWindow`, with `AttemptWindow.registered` and
  `AttemptWindow.isBlockedAt`
-/

namespace Pdr.Identity

/-- By what failures are counted. -/
inductive AttemptSubject where
  | account
  | address
deriving DecidableEq, Repr

/-- `kLeastLimit`. -/
def leastLimit : UInt32 := 1

/-- The length of a window and how many failures fit into it. -/
structure ThrottleLimits where
  window : Int
  perAccount : UInt32
  perAddress : UInt32
  lasts : 0 < window
  atLeastOne : leastLimit ≤ perAccount ∧ leastLimit ≤ perAddress
  ordered : perAccount ≤ perAddress
deriving Repr

namespace ThrottleLimits

instance : DecidableEq ThrottleLimits := fun a b =>
  decidable_of_iff
    (a.window = b.window ∧ a.perAccount = b.perAccount ∧ a.perAddress = b.perAddress) (by
      cases a
      cases b
      simp)

/-- `ThrottleLimits::Compose`. -/
def compose (window : Int) (perAccount perAddress : UInt32) : Result ThrottleLimits :=
  if hwindow : 0 < window then
    if hleast : leastLimit ≤ perAccount ∧ leastLimit ≤ perAddress then
      if hordered : perAccount ≤ perAddress then
        .ok ⟨window, perAccount, perAddress, hwindow, hleast, hordered⟩
      else .error ⟨.validation, "throttle_address_below_account",
        "за одним адресом сидит целый класс, за одной записью — один человек: порог по " ++
          "адресу не бывает строже"⟩
    else .error ⟨.validation, "throttle_limit_too_low",
      "порог меньше одной попытки запирает вход всем"⟩
  else .error ⟨.validation, "throttle_window_not_positive", "окно нулевой длины не считает ничего"⟩

/-- `For`: the limit of a kind of subject. -/
def limitFor (limits : ThrottleLimits) : AttemptSubject → UInt32
  | .account => limits.perAccount
  | .address => limits.perAddress

end ThrottleLimits

/-- A window: when it began and the failures in it. -/
structure AttemptWindow where
  startedAt : Int
  attempts : Nat
deriving DecidableEq, Repr

namespace AttemptWindow

/-- `Registered`: one more failure. -/
def registered (seen : AttemptWindow) (at_ : Int) (window : Int) : AttemptWindow :=
  if seen.startedAt + window ≤ at_ then ⟨at_, 1⟩ else ⟨seen.startedAt, seen.attempts + 1⟩

/-- `IsBlockedAt`. -/
def isBlockedAt (seen : AttemptWindow) (moment : Int) (window : Int)
    (limit : UInt32) : Bool :=
  if seen.startedAt + window ≤ moment then false else decide (limit.toNat ≤ seen.attempts)

end AttemptWindow

end Pdr.Identity
