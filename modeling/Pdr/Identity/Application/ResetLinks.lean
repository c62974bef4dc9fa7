import Pdr.Identity.Application.OldPassword
import Pdr.Identity.Application.Outcomes
import Pdr.Identity.Store.LetterTable

/-!
# The other reset links

A person may ask for any number of reset links, and each of them lives by itself. A reset
spends the link it follows. The other links stay as they are after it, and after a change of
the password too: whoever holds one of them may still reset the password, once, until that
link expires.

## Main definitions

* `Pdr.Identity.replacedPassword`: the session of a turn that replaced a password.
* `Pdr.Identity.followedAt`: the moment at which a turn reset a password by a token.

## Main results

* `Pdr.Identity.token_rows_of_replacedPassword`: other tokens stay as they are.
* `Pdr.Identity.earlier_link_works_at_most_once`: what is left of an earlier link.
* `Pdr.Identity.first_letter_resets_after_the_second`: an earlier link works after a reset.
-/

namespace Pdr.Identity

open StoreProgram Program

/-- The session of a turn that changed or reset a password. -/
def replacedPassword (t : OrderTurn) : Option Session :=
  match t.entry with
  | ⟨⟨_, _, _, .resetPassword _⟩, .ok session⟩ => some session
  | ⟨⟨_, _, _, .changePassword _⟩, .ok session⟩ => some session
  | _ => none

/-- The moment at which a turn reset a password by following the link of a token. -/
def followedAt (digests : Digests) (token : OneTimeToken) (t : OrderTurn) : Option Int :=
  match t.entry with
  | ⟨⟨_, _, drawn, .resetPassword request⟩, .ok _⟩ =>
    if request.tenant = token.tenant ∧ digests request.secret.value = token.secret then
      some (drawn.clock 0)
    else none
  | _ => none

theorem replacedPassword_eq_some {t : OrderTurn} {session : Session} :
    replacedPassword t = some session ↔
      (∃ settings rule drawn request,
        t.entry = ⟨⟨settings, rule, drawn, .resetPassword request⟩, .ok session⟩) ∨
      ∃ settings rule drawn request,
        t.entry = ⟨⟨settings, rule, drawn, .changePassword request⟩, .ok session⟩ := by
  constructor
  · intro h
    unfold replacedPassword at h
    split at h
    · rename_i settings rule drawn request _ hentry
      cases h
      exact Or.inl ⟨settings, rule, drawn, request, hentry⟩
    · rename_i settings rule drawn request _ hentry
      cases h
      exact Or.inr ⟨settings, rule, drawn, request, hentry⟩
    · cases h
  · rintro (⟨settings, rule, drawn, request, hentry⟩ | ⟨settings, rule, drawn, request, hentry⟩)
    · rw [replacedPassword, hentry]
    · rw [replacedPassword, hentry]

theorem followedAt_eq_some {digests : Digests} {token : OneTimeToken} {t : OrderTurn}
    {moment : Int} :
    followedAt digests token t = some moment ↔
      ∃ settings rule drawn request session,
        t.entry = ⟨⟨settings, rule, drawn, .resetPassword request⟩, .ok session⟩ ∧
        request.tenant = token.tenant ∧ digests request.secret.value = token.secret ∧
        moment = drawn.clock 0 := by
  constructor
  · intro h
    unfold followedAt at h
    split at h
    · rename_i settings rule drawn request session hentry
      split at h
      · rename_i hof
        cases h
        exact ⟨settings, rule, drawn, request, session, hentry, hof.1, hof.2, rfl⟩
      · cases h
    · cases h
  · rintro ⟨settings, rule, drawn, request, session, hentry, htenant, hsecret, rfl⟩
    rw [followedAt, hentry]
    exact if_pos ⟨htenant, hsecret⟩

section Links

variable {digests : Digests} {hasher : PasswordHasher} {token : OneTimeToken} {t : OrderTurn}
  {moment : Int}

/-- A reset finds the token of the link it follows usable, and leaves it used. -/
theorem isUsableAt_of_followedAt
    (hexec : (application digests hasher).exec t.entry.op t.before = (t.entry.answer, t.after))
    (hholds : t.before.Holds token) (hfollowed : followedAt digests token t = some moment) :
    (∃ row ∈ t.before.tokens.rows, token.Becomes row ∧ row.isUsableAt moment = true) ∧
      t.after.isUsed token.tenant token.id = true := by
  obtain ⟨settings, rule, drawn, request, session, hentry, htenant, hsecret, rfl⟩ :=
    followedAt_eq_some.1 hfollowed
  rw [hentry] at hexec
  obtain ⟨found, db₁, hfind, -, husable, hmark, hreplaced, -, -⟩ := resetPassword_returned hexec
  obtain ⟨row, hrow, hbecomes⟩ := hholds
  obtain ⟨hfound, hfoundTenant, hfoundSecret⟩ := Database.mem_of_find hfind
  obtain ⟨⟨usedAt, hrowEq⟩, -⟩ := id hbecomes
  have hclash : Schema.clash found row = true := by
    simp [Schema.clash, hrowEq, hfoundTenant, htenant, hfoundSecret, hsecret]
  obtain rfl := t.before.tokens.eq_of_clash hfound hrow hclash
  refine ⟨⟨found, hfound, hbecomes, husable⟩, ?_⟩
  have hof : found.tenant = token.tenant ∧ found.id = token.id := by
    rw [hrowEq]
    exact ⟨rfl, rfl⟩
  have hused := Database.isUsed_of_markUsed hmark hof ⟨found, hfound, hof.1, hof.2, rfl⟩ rfl
  rw [Database.isUsed, hreplaced.tokens_eq]
  exact hused

/-- A turn that replaced a password leaves every token as it was but the one it followed. -/
theorem token_rows_of_replacedPassword {session : Session}
    (hexec : (application digests hasher).exec t.entry.op t.before = (t.entry.answer, t.after))
    (hreplaced : replacedPassword t = some session) (hstored : token ∈ t.before.tokens.rows)
    (hother : followedAt digests token t = none) : token ∈ t.after.tokens.rows := by
  rcases replacedPassword_eq_some.1 hreplaced with
    ⟨settings, rule, drawn, request, hentry⟩ | ⟨settings, rule, drawn, request, hentry⟩
  · rw [hentry] at hexec
    obtain ⟨found, db₁, hfind, -, husable, hmark, hdone, -, -⟩ := resetPassword_returned hexec
    obtain ⟨hfound, hfoundTenant, hfoundSecret⟩ := Database.mem_of_find hfind
    have hspent : SpendsLetter found (drawn.clock 0) t.before.tokens db₁.tokens :=
      ⟨hfound, husable, congrArg (fun done => (done.1, done.2.tokens)) hmark⟩
    rw [hdone.tokens_eq]
    refine (hspent.mem_iff token).2 (Or.inl ⟨hstored, ?_⟩)
    rintro rfl
    rw [followedAt, hentry] at hother
    simp [hfoundTenant, hfoundSecret] at hother
  · rw [hentry] at hexec
    obtain ⟨current, -, -, hdone, -⟩ := changePassword_returned hexec
    rw [hdone.tokens_eq]
    exact hstored

/-- Of the turns after one by which a link worked, none follows that link with success. -/
theorem followedAt_eq_none_of_later {db db' : Database} {early late : List OrderTurn}
    (hrun : Linked (application digests hasher) db (early ++ t :: late) db')
    (hstored : t.before.Holds token) (hfollowed : followedAt digests token t = some moment) :
    ∀ u ∈ late, followedAt digests token u = none := by
  intro u hu
  obtain ⟨-, hexec, hlater⟩ := hrun.split
  have hholds : t.after.Holds token :=
    ((Database.keeps_holds token).whole _).of_exec hexec hstored
  have hused := (isUsableAt_of_followedAt hexec hstored hfollowed).2
  have hholdsLater := hlater.always_before ((Database.keeps_holds token).whole _) hholds u hu
  have husedLater := hlater.always_before
    ((Database.keeps_isUsed token.tenant token.id).whole _) hused u hu
  by_contra hsome
  obtain ⟨again, hagain⟩ := Option.ne_none_iff_exists'.1 hsome
  obtain ⟨⟨row, hrow, hbecomes, husable⟩, -⟩ :=
    isUsableAt_of_followedAt (hlater.exec_eq hu) hholdsLater hagain
  obtain ⟨used, husedRow, htenant, hid, hspent⟩ := Database.isUsed_eq_true.1 husedLater
  obtain ⟨⟨usedAt, rfl⟩, -⟩ := hbecomes
  have hclash : Schema.clash used ({ token with usedAt } : OneTimeToken) = true := by
    simp [Schema.clash, htenant, hid]
  obtain rfl := u.before.tokens.eq_of_clash husedRow hrow hclash
  rw [(OneTimeToken.isUsableAt_eq_true.1 husable).1] at hspent
  cases hspent

/-- **An earlier link works at most once, and not after its term.** In a sequential run a turn
has changed or reset a password. Every token there was before it, but the one it followed,
stays as it was. If a later turn resets a password by one of the earlier tokens, then the
replacing turn did not follow that token, it was unused, its term has not passed, and no turn
after that follows it again. -/
theorem earlier_link_works_at_most_once {db db' : Database} {early late : List OrderTurn}
    {session : Session}
    (hrun : Linked (application digests hasher) db (early ++ t :: late) db')
    (hreplaced : replacedPassword t = some session) :
    ∀ token ∈ t.before.tokens.rows,
      (followedAt digests token t = none → token ∈ t.after.tokens.rows) ∧
      ∀ between u after, late = between ++ u :: after →
        ∀ moment, followedAt digests token u = some moment →
          followedAt digests token t = none ∧ token.usedAt = none ∧ moment < token.expiresAt ∧
            ∀ v ∈ after, followedAt digests token v = none := by
  intro token hstored
  have hexec := hrun.split.2.1
  have hholds : t.before.Holds token := ⟨token, hstored, .refl token⟩
  refine ⟨token_rows_of_replacedPassword hexec hreplaced hstored, ?_⟩
  rintro between u after rfl moment hfollowed
  have hrun' : Linked (application digests hasher) db ((early ++ t :: between) ++ u :: after)
      db' := by
    simpa using hrun
  have hbefore : u.before.Holds token :=
    hrun.split.2.2.always_before ((Database.keeps_holds token).whole _)
      (((Database.keeps_holds token).whole _).of_exec hexec hholds) u (by simp)
  obtain ⟨⟨row, -, hbecomes, husable⟩, -⟩ :=
    isUsableAt_of_followedAt hrun'.split.2.1 hbefore hfollowed
  obtain ⟨hunused, hterm⟩ := OneTimeToken.isUsableAt_eq_true.1 husable
  refine ⟨?_, hbecomes.usedAt_eq_none hunused, ?_,
    followedAt_eq_none_of_later hrun' hbefore hfollowed⟩
  · by_contra hsome
    obtain ⟨first, hfirst⟩ := Option.ne_none_iff_exists'.1 hsome
    have hnever := followedAt_eq_none_of_later hrun hholds hfirst u (by simp)
    rw [hfollowed] at hnever
    cases hnever
  · obtain ⟨⟨usedAt, rfl⟩, -⟩ := hbecomes
    exact hterm

end Links

/-! ### Two letters -/

/-- The secret of the letter drawn with a byte. -/
def letterOf (byte : UInt8) (h : isBase64Url (65 + byte) = true := by decide) : TokenSecret :=
  ⟨List.replicate 43 (65 + byte), by simp [TokenSecret.leastLength], by simp [h]⟩

/-- The token of the first letter, which lives for an hour from moment 10. -/
def firstLetter : OneTimeToken :=
  ⟨repeated 2, repeated 7, standInDigest (letterOf 2).value, .passwordReset, none,
    some (repeated 1), none, 10, 3600000010, none, rfl⟩

/-- A reset with this secret. -/
def resetBy (byte : UInt8) (secret : TokenSecret) (now : Int) : Order :=
  orderAt now byte (.resetPassword ⟨repeated 7, secret, ascii "new password", ownerSeen⟩)

/-- The owner asks for two letters. -/
def lettersAsked : List OrderTurn × Database :=
  turns workedApplication
    [orderAt 10 2 (.requestPasswordReset (repeated 7) ownerMail),
      orderAt 20 3 (.requestPasswordReset (repeated 7) ownerMail)] ownerKnown

/-- The owner resets the password by the second letter. -/
def secondLetterFollowed : OrderTurn :=
  turn workedApplication (resetBy 4 (letterOf 3) 30) lettersAsked.2

/-- Somebody resets the password by the first letter. -/
def firstLetterFollowed : OrderTurn :=
  turn workedApplication (resetBy 5 (letterOf 2) 40) secondLetterFollowed.after

theorem lettersFollowed_linked :
    Linked workedApplication ownerKnown
      (lettersAsked.1 ++ secondLetterFollowed :: [firstLetterFollowed]) firstLetterFollowed.after :=
  turns_linked_turn workedApplication _ [resetBy 5 (letterOf 2) 40] _ ownerKnown

/-- The session of the reset by the second letter. -/
def resetSession : Session :=
  ⟨⟨repeated 7, repeated 4⟩, repeated 1, 30, 86400000030, none, ownerSeen⟩

/-- The first letter was not used by the reset by the second, and works before its term. -/
theorem first_letter_works_once :
    followedAt standInDigest firstLetter secondLetterFollowed = none ∧
      firstLetter.usedAt = none ∧ 40 < firstLetter.expiresAt := by
  have hreplaced : replacedPassword secondLetterFollowed = some resetSession := by decide +kernel
  have hfollowed : followedAt standInDigest firstLetter firstLetterFollowed = some 40 := by
    decide +kernel
  obtain ⟨hnot, hunused, hterm, -⟩ :=
    (earlier_link_works_at_most_once lettersFollowed_linked hreplaced firstLetter
      (by decide +kernel)).2 [] firstLetterFollowed [] rfl 40 hfollowed
  exact ⟨hnot, hunused, hterm⟩

/-- The owner asked for two letters and reset the password by the second. After that the
password is reset once more, by the first. -/
theorem first_letter_resets_after_the_second :
    ∃ early t late u db', Linked workedApplication ownerKnown (early ++ t :: late) db' ∧
      replacedPassword t = some resetSession ∧ firstLetter ∈ t.before.tokens.rows ∧
      firstLetter.tenant = resetSession.id.tenant ∧
      firstLetter.person = some resetSession.person ∧ u ∈ late ∧
      followedAt standInDigest firstLetter u = some 40 := by
  refine ⟨_, _, _, firstLetterFollowed, _, lettersFollowed_linked, ?_, ?_, rfl, rfl, by simp, ?_⟩
  · decide +kernel
  · decide +kernel
  · decide +kernel

end Pdr.Identity
