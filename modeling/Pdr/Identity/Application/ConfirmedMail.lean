import Pdr.Identity.Application.Accounts

/-!
# Whose mail is confirmed

An account made by its owner is confirmed by the secret that was issued for it. An account made
on the way in by an invitation is confirmed at once, because the letter has reached its
address. But three scenarios make accounts in that way, and they do not ask for the letter: a
practice is opened under any mail, a child gets any mail before a letter is sent to it, and an
invitation is accepted under another mail than the one it was sent to.

## Main definitions

* `Pdr.Identity.IsConfirmedBySecret`, `Pdr.Identity.IsInvited`: how a mail gets confirmed.
* `Pdr.Identity.CreatesByLetter`: a turn makes no confirmed account but by a letter to its mail.

## Main results

* `Pdr.Identity.confirmed_mail_was_confirmed`: a run of such turns confirms mails in no other way.
* `Pdr.Identity.strangers_mails_get_confirmed`: without it a stranger's mail gets confirmed.
-/

namespace Pdr.Identity

open StoreProgram Program

/-! ### Where a confirmation comes from -/

/-- The registration a turn returned. -/
def registrationOf (t : OrderTurn) : Option SelfRegistration :=
  match t.entry with
  | ⟨⟨_, _, _, .registerOnMyOwn _ _⟩, .ok registration⟩ => some registration
  | _ => none

/-- The account a turn confirmed, with the secret shown and the moment. -/
def confirmationOf (t : OrderTurn) : Option (PersonId × TokenSecret × Int) :=
  match t.entry with
  | ⟨⟨_, _, drawn, .confirmEmail id shown⟩, .ok _⟩ => some (id, shown, drawn.clock 0)
  | _ => none

/-- A turn of the run returned a secret for the account, and a later one confirmed the account
by that secret before its term. -/
def IsConfirmedBySecret (digests : Digests) (steps : List OrderTurn) (row : Account) : Prop :=
  ∃ issue confirm registration shown moment, [issue, confirm].Sublist steps ∧
    registrationOf issue = some registration ∧
    registration.account.id = row.id ∧ registration.account.mail = row.mail ∧
    confirmationOf confirm = some (row.id, shown, moment) ∧
    digests shown.value = digests registration.confirmation.value ∧
    (∀ expires ∈ registration.account.confirmationExpiresAt, moment < expires) ∧
    row.confirmedAt = some moment

/-- A turn of the run made the account by accepting an invitation that was sent to its mail. -/
def IsInvited (digests : Digests) (steps : List OrderTurn) (row : Account) : Prop :=
  ∃ t ∈ steps, ∃ settings rule drawn request found,
    t.entry.op = ⟨settings, rule, drawn, .acceptInvitation request⟩ ∧
    found ∈ t.before.tokens.rows ∧ found.tenant = request.tenant ∧
    found.secret = digests request.secret.value ∧ found.purpose = .invitation ∧
    found.invited = some row.mail ∧
    row = Account.invited drawn.personId (digests request.mail.value) (drawn.clock 0)

/-- The mail of the account was really confirmed. -/
def IsReallyConfirmed (digests : Digests) (steps : List OrderTurn) (row : Account) : Prop :=
  IsConfirmedBySecret digests steps row ∨ IsInvited digests steps row

/-- A turn of the run returned the account as it is, with the secret that confirms it. -/
def IsAwaited (digests : Digests) (steps : List OrderTurn) (row : Account) : Prop :=
  ∃ issue ∈ steps, ∃ registration, registrationOf issue = some registration ∧
    registration.account = row ∧ row.confirmation = some (digests registration.confirmation.value)

/-- Every account awaits its confirmation or was really confirmed. -/
def RegistryIsHonest (digests : Digests) (steps : List OrderTurn) (db : Database) : Prop :=
  ∀ row ∈ db.accounts.rows,
    (row.confirmedAt = none → IsAwaited digests steps row) ∧
    (row.confirmedAt.isSome = true → IsReallyConfirmed digests steps row)

theorem IsReallyConfirmed.mono {digests : Digests} {steps steps' : List OrderTurn} {row : Account}
    (h : IsReallyConfirmed digests steps row) (hle : steps.Sublist steps') :
    IsReallyConfirmed digests steps' row := by
  rcases h with ⟨issue, confirm, registration, shown, moment, horder, hrest⟩ | ⟨t, ht, hrest⟩
  · exact Or.inl ⟨issue, confirm, registration, shown, moment, horder.trans hle, hrest⟩
  · exact Or.inr ⟨t, hle.subset ht, hrest⟩

theorem IsAwaited.mono {digests : Digests} {steps steps' : List OrderTurn} {row : Account}
    (h : IsAwaited digests steps row) (hle : steps.Sublist steps') :
    IsAwaited digests steps' row := by
  obtain ⟨issue, hissue, hrest⟩ := h
  exact ⟨issue, hle.subset hissue, hrest⟩

/-! ### What one turn does -/

/-- The identifier drawn for a new person is no account's. -/
def DrawsFreshPerson (order : Order) (db : Database) : Prop :=
  match order.intent with
  | .registerOnMyOwn .. | .acceptInvitation _ | .openPractice _ =>
    ∀ row ∈ db.accounts.rows, row.id ≠ order.drawn.personId
  | _ => True

/-- The turn makes no confirmed account but by an invitation sent to its mail: a practice is
opened under a mail that has an account, unless the opening is refused before; a mail that is
attached has an account; and an invitation is accepted under the mail it was sent to, unless
that mail has an account. -/
def CreatesByLetter (digests : Digests) (hasher : PasswordHasher) (order : Order) (db : Database) :
    Prop :=
  let ports : AuthPorts := ⟨order.settings, digests, hasher⟩
  match order.intent with
  | .openPractice request => (∃ lifetimes, order.settings.lifetimes = .ok lifetimes) →
      TakesPassword ports order.drawn request.password →
        ¬ db.IsUnclaimed (digests request.mail.value)
  | .attachAccount _ _ mail => ¬ db.IsUnclaimed (digests mail.value)
  | .acceptInvitation request => db.IsUnclaimed (digests request.mail.value) → ∀ found,
      IsFollowed ports order.drawn db .invitation request.tenant request.secret request.password
        found → found.invited = some (digests request.mail.value)
  | _ => True

section Step

variable {digests : Digests} {hasher : PasswordHasher} {steps : List OrderTurn} {t : OrderTurn}

/-- An account under a new identifier joins the others. -/
theorem registryIsHonest_of_new {account : Account} {db db' : Database} (t : OrderTurn)
    (hhonest : RegistryIsHonest digests steps db)
    (hsave : AccountCall.exec (.save account) db.accounts = (.ok (), db'.accounts))
    (hnew : ∀ row ∈ db.accounts.rows, row.id ≠ account.id)
    (haccount : (account.confirmedAt = none → IsAwaited digests (steps ++ [t]) account) ∧
      (account.confirmedAt.isSome = true → IsReallyConfirmed digests (steps ++ [t]) account)) :
    RegistryIsHonest digests (steps ++ [t]) db' := by
  intro row hrow
  have hle : steps.Sublist (steps ++ [t]) := List.sublist_append_left ..
  rcases (mem_accounts_of_save hsave).1 hrow with ⟨old, hold, rfl⟩ | ⟨rfl, -⟩
  · rw [if_neg (hnew old hold)]
    exact ⟨fun hnone => ((hhonest old hold).1 hnone).mono hle,
      fun hsome => ((hhonest old hold).2 hsome).mono hle⟩
  · exact haccount

/-- The account that was found gets its confirmation, and the others stay. -/
theorem registryIsHonest_of_confirmed {found account : Account} {db db' : Database} (t : OrderTurn)
    (hhonest : RegistryIsHonest digests steps db)
    (hsave : AccountCall.exec (.save account) db.accounts = (.ok (), db'.accounts))
    (hfound : found ∈ db.accounts.rows)
    (hconfirmed : account = withConfirmationOf account found)
    (haccount : IsReallyConfirmed digests (steps ++ [t]) account)
    (hsome : account.confirmedAt ≠ none) :
    RegistryIsHonest digests (steps ++ [t]) db' := by
  have hid : account.id = found.id := hconfirmed ▸ rfl
  intro row hrow
  have hle : steps.Sublist (steps ++ [t]) := List.sublist_append_left ..
  rcases (mem_accounts_of_save hsave).1 hrow with ⟨old, hold, rfl⟩ | ⟨-, habsent⟩
  · split
    · rename_i hsame
      have hclash : Schema.clash old found = true := by simp [Schema.clash, hsame, hid]
      obtain rfl := db.accounts.eq_of_clash hold hfound hclash
      rw [← hconfirmed]
      exact ⟨fun hnone => absurd hnone hsome, fun _ => haccount⟩
    · exact ⟨fun hnone => ((hhonest old hold).1 hnone).mono hle,
        fun hsome => ((hhonest old hold).2 hsome).mono hle⟩
  · exact absurd hid.symm (habsent found hfound)

/-- A confirmation by the secret that an earlier turn returned for the account. -/
theorem isConfirmedBySecret_of_confirmed {found account : Account} {shown : TokenSecret}
    {now : Int} (hawaited : IsAwaited digests steps found)
    (hconfirmed : found.confirmedBy (digests shown.value) now = .ok account)
    (ht : confirmationOf t = some (account.id, shown, now)) :
    IsConfirmedBySecret digests (steps ++ [t]) account := by
  obtain ⟨-, hshown, hterm, rfl⟩ := Account.confirmedBy_eq_ok.1 hconfirmed
  obtain ⟨issue, hissue, registration, hregistration, rfl, hsecret⟩ := hawaited
  refine ⟨issue, t, registration, shown, now, ?_, hregistration, rfl, rfl, ht, ?_, hterm, rfl⟩
  · exact (List.singleton_sublist.2 hissue).append (List.Sublist.refl [t])
  · rw [hshown] at hsecret
    exact Option.some.inj hsecret

/-- **One turn confirms no stranger's mail**, if it makes no confirmed account but by a letter
to its mail. -/
theorem registryIsHonest_of_turn
    (hexec : (application digests hasher).exec t.entry.op t.before = (t.entry.answer, t.after))
    (hhonest : RegistryIsHonest digests steps t.before)
    (hfresh : DrawsFreshPerson t.entry.op t.before)
    (hletter : CreatesByLetter digests hasher t.entry.op t.before) :
    RegistryIsHonest digests (steps ++ [t]) t.after := by
  rcases accounts_of_turn hexec with hsame | ⟨account, hsaves, hsave⟩
  · have hle : steps.Sublist (steps ++ [t]) := List.sublist_append_left ..
    intro row hrow
    rw [hsame] at hrow
    exact ⟨fun hnone => ((hhonest row hrow).1 hnone).mono hle,
      fun hsome => ((hhonest row hrow).2 hsome).mono hle⟩
  obtain ⟨⟨⟩, ⟨⟨settings, rule, drawn, intent⟩, answer⟩, before, after⟩ := t
  cases intent with
  | registerOnMyOwn mail from_ =>
    obtain ⟨-, lifetimes, secret, -, -, hregistered, rfl⟩ := hsaves
    obtain rfl := Account.registered_eq_ok hregistered
    refine registryIsHonest_of_new _ hhonest hsave hfresh ⟨fun _ => ?_, fun hsome => ?_⟩
    · exact ⟨_, List.mem_append_right _ List.mem_cons_self, _, rfl, rfl, rfl⟩
    · cases hsome
  | confirmEmail id shown =>
    obtain ⟨found, hfound, hconfirmed, rfl⟩ := hsaves
    have hmem := Table.mem_of_find? hfound
    have hwanted := Table.wanted_of_find? hfound
    have hid : found.id = id := of_decide_eq_true hwanted
    obtain ⟨hnone, -, -, rfl⟩ := Account.confirmedBy_eq_ok.1 hconfirmed
    refine registryIsHonest_of_confirmed _ hhonest hsave hmem rfl (Or.inl ?_) (by simp)
    refine isConfirmedBySecret_of_confirmed ((hhonest found hmem).1 hnone) hconfirmed ?_
    rw [← hid]
    rfl
  | acceptInvitation request =>
    obtain ⟨hunclaimed, rfl, found, hfollowed⟩ := hsaves
    refine registryIsHonest_of_new _ hhonest hsave hfresh ⟨fun hnone => ?_, fun _ => Or.inr ?_⟩
    · cases hnone
    · have hinvited := hletter hunclaimed found hfollowed
      obtain ⟨-, hfind, hpurpose, -, -⟩ := hfollowed
      have hfind := Except.ok.inj hfind
      have hfits := Table.wanted_of_find? hfind
      simp only [Bool.and_eq_true, decide_eq_true_eq] at hfits
      exact ⟨_, List.mem_append_right _ List.mem_cons_self, settings, rule, drawn, request, found,
        rfl, Table.mem_of_find? hfind, hfits.1, hfits.2, hpurpose, hinvited, rfl⟩
  | openPractice request =>
    obtain ⟨hunclaimed, rfl, hlifetimes, htakes⟩ := hsaves
    exact absurd hunclaimed (hletter hlifetimes htakes)
  | attachAccount tenant child mail =>
    obtain ⟨hunclaimed, rfl⟩ := hsaves
    exact absurd hunclaimed hletter
  | _ => cases hsaves

end Step

/-- **A confirmed mail was really confirmed**, in every state that a run reaches from an empty
registry, if no turn makes a confirmed account but by a letter to its mail. -/
theorem confirmed_mail_was_confirmed {digests : Digests} {hasher : PasswordHasher}
    {steps : List OrderTurn} {db db' : Database} (hempty : db.accounts.rows = [])
    (hrun : Linked (application digests hasher) db steps db')
    (hfresh : ∀ t ∈ steps, DrawsFreshPerson t.entry.op t.before)
    (hletters : ∀ t ∈ steps, CreatesByLetter digests hasher t.entry.op t.before) :
    ∀ row ∈ db'.accounts.rows, row.confirmedAt.isSome = true →
      IsReallyConfirmed digests steps row := by
  have hhonest : RegistryIsHonest digests steps db' := by
    refine hrun.history ?_ fun seen t ht hexec hbefore =>
      registryIsHonest_of_turn hexec hbefore (hfresh t ht) (hletters t ht)
    intro row hrow
    rw [hempty] at hrow
    cases hrow
  exact fun row hrow => (hhonest row hrow).2

/-! ### Confirmed by a letter, and without one -/

/-- The secret drawn for the letter of the first registration. -/
def firstSecret : TokenSecret := letterOf 1

/-- Somebody registers and follows the letter. -/
def cameAlone : List OrderTurn × Database :=
  turns workedApplication
    [orderAt 10 1 (.registerOnMyOwn ownerMail (standInDigest [])),
      orderAt 20 2 (.confirmEmail (repeated 1) firstSecret)] {}

/-- His account, confirmed at moment 20. -/
def ownAccount : Account :=
  ⟨repeated 1, standInDigest ownerMail.value, some 20, none, none, 10⟩

/-- The mail of somebody who registered was confirmed by the letter. -/
theorem own_mail_was_confirmed : IsReallyConfirmed standInDigest cameAlone.1 ownAccount := by
  refine confirmed_mail_was_confirmed rfl (turns_linked workedApplication _ {}) ?_ ?_ ownAccount
    (by decide +kernel) rfl
  · rintro t (- | ⟨-, - | ⟨-, ⟨⟩⟩⟩)
    · rintro row ⟨⟩
    · trivial
  · rintro t (- | ⟨-, - | ⟨-, ⟨⟩⟩⟩) <;> trivial

/-- A request to open a practice under a mail. -/
def practiceOpened (mail : Email) : OpenPracticeRequest :=
  ⟨ascii "practice", ascii "owner", mail, childEnrolled.bornOn, childEnrolled.zone,
    ascii "password", ownerSeen⟩

/-- A practice is opened under one stranger's mail. A student is invited to it by a letter, and
accepts the invitation under the mail of another. -/
def strangersNamed : List OrderTurn × Database :=
  turns workedApplication
    [orderAt 10 7 (.openPractice (practiceOpened ownerMail)),
      orderAt 20 3 (.inviteParticipant (repeated 7) .student (some childMail)),
      orderAt 30 15 (.acceptInvitation { childAccepts with mail := mailOf (ascii "d@b.c") })] {}

/-- Both strangers' mails are confirmed, and no letter was ever sent to either. -/
theorem strangers_mails_get_confirmed :
    Linked workedApplication {} strangersNamed.1 strangersNamed.2 ∧
      strangersNamed.2.accounts.rows.length = 2 ∧
      ∀ row ∈ strangersNamed.2.accounts.rows, row.confirmedAt.isSome = true ∧
        ¬ IsReallyConfirmed standInDigest strangersNamed.1 row := by
  have hconfirmed : ∀ row ∈ strangersNamed.2.accounts.rows, row.confirmedAt.isSome = true := by
    decide +kernel
  have hregistered : ∀ t ∈ strangersNamed.1, registrationOf t = none := by decide +kernel
  have hinvited : ∀ row ∈ strangersNamed.2.accounts.rows, ∀ t ∈ strangersNamed.1,
      ∀ found ∈ t.before.tokens.rows, found.invited ≠ some row.mail := by
    decide +kernel
  refine ⟨turns_linked workedApplication _ {}, by decide +kernel,
    fun row hrow => ⟨hconfirmed row hrow, ?_⟩⟩
  rintro (⟨issue, confirm, registration, -, -, horder, hissue, -⟩ |
    ⟨t, ht, -, -, -, -, found, -, hfound, -, -, -, hmail, -⟩)
  · rw [hregistered issue (horder.subset List.mem_cons_self)] at hissue
    cases hissue
  · exact hinvited row hrow t ht found hfound hmail

end Pdr.Identity
