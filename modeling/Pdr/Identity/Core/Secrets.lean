import Pdr.Core.Types

/-!
# Mails, secrets, passwords and their fingerprints

The values by which a person is known and let in. Each has its own type and comes into
being only through its parser, so the form the parser checks is part of the value. What is
shown to a person (`TokenSecret`, `Password`) and what is stored (`Digest`,
`PasswordHash`) are different types: a secret cannot be stored by mistake.

## Main definitions

* `Pdr.Identity.Digest`, `Pdr.Identity.Email`, `Pdr.Identity.TokenSecret`
* `Pdr.Identity.PasswordRules`, `Pdr.Identity.Password`, `Pdr.Identity.PasswordHash`
* `Pdr.Identity.AuthLifetimes`
-/

namespace Pdr.Identity

/-! ### Fingerprints -/

/-- A lower-case hexadecimal digit. -/
def isLowerHex (symbol : UInt8) : Bool :=
  (48 ≤ symbol && symbol ≤ 57) || (97 ≤ symbol && symbol ≤ 102)

/-- A SHA-256 fingerprint in hexadecimal. -/
structure Digest where
  value : Text
  wellFormed : value.length = 64 ∧ value.all isLowerHex = true
deriving DecidableEq, Repr

/-- `Digest::Parse`: upper case is refused, not lowered. -/
def Digest.parse (text : Text) : Result Digest :=
  if hlength : text.length = 64 then
    if hhex : text.all isLowerHex = true then .ok ⟨text, hlength, hhex⟩
    else .error ⟨.validation, "digest_malformed",
      "отпечаток записывается строчными шестнадцатеричными знаками"⟩
  else .error ⟨.validation, "digest_malformed",
    "отпечаток SHA-256 — ровно 64 знака, пришло " ++ toString text.length⟩

/-- What computes fingerprints. It is not part of the domain: the domain stores them and
compares them. -/
abbrev Digests : Type := Text → Digest

/-! ### Mail -/

/-- `std::tolower` of one byte in the C locale. -/
def toLower (symbol : UInt8) : UInt8 :=
  if 65 ≤ symbol && symbol ≤ 90 then symbol + 32 else symbol

/-- `Lowered`. -/
def lowered (text : Text) : Text := text.map toLower

/-- `Shaped`: one `@` with something on both sides, a dot inside the part after it, and no
space anywhere. -/
def shaped (text : Text) : Bool :=
  let domain := (text.dropWhile (· ≠ 64)).drop 1
  let tail := domain.dropWhile (· ≠ 46)
  -- The `@` is there, is neither first nor last, and is the only one.
  text.contains 64 && text.head? ≠ some 64 && !domain.isEmpty && !domain.contains 64 &&
    -- The first dot after it is neither first nor last there.
    domain.contains 46 && domain.head? ≠ some 46 && 1 < tail.length &&
    !text.contains 32

/-- A mail address, lowered. -/
structure Email where
  value : Text
  isLowered : lowered value = value
deriving DecidableEq, Repr

/-- Lowering twice is lowering once. -/
theorem lowered_lowered (text : Text) : lowered (lowered text) = lowered text := by
  have htwice : ∀ symbol, toLower (toLower symbol) = toLower symbol := by
    intro symbol
    simp only [toLower]
    split
    · rename_i hupper
      simp only [Bool.and_eq_true, decide_eq_true_eq, UInt8.le_iff_toNat_le] at hupper ⊢
      have hsum : (symbol + 32).toNat = symbol.toNat + 32 := by
        rw [UInt8.toNat_add]
        simp only [UInt8.reduceToNat] at hupper ⊢
        omega
      simp only [UInt8.reduceToNat, hsum] at hupper ⊢
      rw [if_neg (by omega)]
    · rfl
  simp only [lowered, List.map_map]
  exact List.map_congr_left fun symbol _ => htwice symbol

/-- `Email::Parse`. -/
def Email.parse (text : Text) : Result Email :=
  if text.isEmpty || 254 < text.length || !shaped text then
    .error ⟨.validation, "email_malformed", "адрес почты не похож на адрес почты"⟩
  else .ok ⟨lowered text, lowered_lowered text⟩

/-! ### Links -/

/-- A symbol of base64url. -/
def isBase64Url (symbol : UInt8) : Bool :=
  (48 ≤ symbol && symbol ≤ 57) || (97 ≤ symbol && symbol ≤ 122) ||
    (65 ≤ symbol && symbol ≤ 90) || symbol = 45 || symbol = 95

/-- The fewest symbols a link's secret has. -/
def TokenSecret.leastLength : Nat := 43

/-- The secret a person gets by letter. -/
structure TokenSecret where
  value : Text
  wellFormed : TokenSecret.leastLength ≤ value.length ∧ value.all isBase64Url = true
deriving DecidableEq, Repr

/-- `TokenSecret::Parse`. -/
def TokenSecret.parse (text : Text) : Result TokenSecret :=
  if hlength : TokenSecret.leastLength ≤ text.length then
    if hsymbols : text.all isBase64Url = true then .ok ⟨text, hlength, hsymbols⟩
    else .error ⟨.validation, "token_secret_malformed",
      "секрет ссылки записывается base64url без набивки"⟩
  else .error ⟨.validation, "token_secret_too_short",
    "в ссылке меньше " ++ toString TokenSecret.leastLength ++
      " знаков: такую подбирают перебором"⟩

/-! ### Passwords -/

/-- The least memory of a hash, in KiB. -/
def leastMemoryKib : UInt32 := 19456

/-- The least number of iterations. -/
def leastIterations : UInt32 := 2

/-- The least number of lanes. -/
def leastParallelism : UInt32 := 1

/-- The KiB of memory that each lane asks for. -/
def blocksPerLane : UInt32 := 8

/-- The least length that may be demanded of a password. -/
def leastMinLength : Nat := 8

/-- `Password::kMaxLength`, in bytes. -/
def Password.maxLength : Nat := 256

/-- How a hash is computed and which new password is taken. -/
structure PasswordRules where
  memoryKib : UInt32
  iterations : UInt32
  parallelism : UInt32
  minLength : Nat
deriving DecidableEq, Repr

/-- `PasswordRules::Compose`. The product of the fourth check is computed in 32 bits. -/
def PasswordRules.compose (memoryKib iterations parallelism : UInt32) (minLength : Nat) :
    Result PasswordRules :=
  if memoryKib < leastMemoryKib then
    .error ⟨.validation, "password_memory_too_small",
      "памяти на счёт хеша меньше " ++ toString leastMemoryKib ++
        " КиБ: перебор становится дешёвым"⟩
  else if iterations < leastIterations then
    .error ⟨.validation, "password_iterations_too_few",
      "проходов меньше " ++ toString leastIterations⟩
  else if parallelism < leastParallelism then
    .error ⟨.validation, "password_parallelism_too_low", "нитей счёта меньше одной"⟩
  else if memoryKib < parallelism * blocksPerLane then
    .error ⟨.validation, "password_memory_below_parallelism",
      "на каждую нить нужно не меньше " ++ toString blocksPerLane ++ " КиБ памяти"⟩
  else if minLength < leastMinLength then
    .error ⟨.validation, "password_min_length_too_low",
      "меньше " ++ toString leastMinLength ++ " знаков пароль перебирается целиком"⟩
  else if Password.maxLength < minLength then
    .error ⟨.validation, "password_min_length_above_max",
      "порог длины выше того, что вообще принимается"⟩
  else .ok ⟨memoryKib, iterations, parallelism, minLength⟩

/-- `Symbols`: the length of a text in symbols, that is, its bytes that continue none. -/
def symbols (text : Text) : Nat := text.countP fun symbol => symbol &&& 0xC0 ≠ 0x80

/-- A password in the clear, for the length of one scenario. -/
structure Password where
  secret : Text
  notTooLong : secret.length ≤ Password.maxLength
deriving DecidableEq, Repr

/-- `Password::Given`: the password somebody shows when signing in. -/
def Password.given (text : Text) : Result Password :=
  if h : text.length ≤ Password.maxLength then .ok ⟨text, h⟩
  else .error ⟨.validation, "password_too_long",
    "не больше " ++ toString Password.maxLength ++ " знаков"⟩

/-- `Password::Chosen`: the password somebody sets. -/
def Password.chosen (text : Text) (rules : PasswordRules) : Result Password :=
  if symbols text < rules.minLength then
    .error ⟨.validation, "password_too_short",
      "нужно не меньше " ++ toString rules.minLength ++ " знаков"⟩
  else Password.given text

/-- `kArgon2idPrefix`. -/
def argon2idPrefix : Text := ascii "$argon2id$"

/-- A password's hash in the Argon2id record, which carries its own parameters. -/
structure PasswordHash where
  value : Text
  isArgon2id : argon2idPrefix.isPrefixOf value = true
deriving DecidableEq, Repr

/-- `PasswordHash::Parse`. -/
def PasswordHash.parse (text : Text) : Result PasswordHash :=
  if h : argon2idPrefix.isPrefixOf text = true then .ok ⟨text, h⟩
  else .error ⟨.validation, "password_hash_not_argon2id",
    "хеш пароля записывается Argon2id и никак иначе"⟩

/-- What computes and checks password hashes. A hash takes fresh salt each time it is
computed, so one password has many. -/
structure PasswordHasher where
  hash : Text → Password → PasswordRules → Result PasswordHash
  matchesHash : Password → PasswordHash → Bool

/-! ### Lifetimes -/

/-- How long a session, an invitation and a reset link live. -/
structure AuthLifetimes where
  session : Int
  invitation : Int
  passwordReset : Int
  positive : 0 < session ∧ 0 < invitation ∧ 0 < passwordReset
  ordered : passwordReset ≤ invitation
deriving DecidableEq, Repr

/-- `AuthLifetimes::Compose`. -/
def AuthLifetimes.compose (session invitation passwordReset : Int) :
    Result AuthLifetimes :=
  if hpositive : 0 < session ∧ 0 < invitation ∧ 0 < passwordReset then
    if hordered : passwordReset ≤ invitation then
      .ok ⟨session, invitation, passwordReset, hpositive, hordered⟩
    else .error ⟨.validation, "auth_reset_outlives_invitation",
      "ссылка сброса живёт дольше приглашения: у неё риск выше, а срок обязан быть короче"⟩
  else .error ⟨.validation, "auth_lifetime_not_positive",
    "срок, истёкший в момент выдачи, ничего не открывает"⟩

end Pdr.Identity
