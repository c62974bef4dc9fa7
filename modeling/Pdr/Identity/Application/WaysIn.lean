import Pdr.Identity.Application.ConfirmedMail

/-!
# Two ways in

Somebody comes by an invitation or registers by himself, and either way he should end with a
confirmed account of his mail. Both scenarios look whether the mail has an account and not
whether it is confirmed, nor whether its confirmation can still be made. So an invitation does
not confirm the account of a mail that was registered before, and a mail whose letter was lost
can never be registered again.

## Main definitions

* `Pdr.Identity.Database.IsConfirmedMail`: the account of the mail is confirmed.
* `Pdr.Identity.SecretConfirms`: the secret of a registration confirms the mail in its term.

## Main results

* `Pdr.Identity.stays_or_is_confirmed`: what a turn may do to an account.
* `Pdr.Identity.ways_in_meet`: exactly when either way ends with a confirmed account.
* `Pdr.Identity.ways_in_part`: a run where neither does.
-/

namespace Pdr.Identity

open StoreProgram Program

/-! ### The registry -/

/-- The account that the registry has for the mail is confirmed. -/
def Database.IsConfirmedMail (mail : Digest) (db : Database) : Prop :=
  ∃ account, db.accounts.find? (·.mail = mail) = some account ∧ account.isConfirmed = true

section Registry

variable {db : Database} {mail : Digest} {account row : Account}

theorem accounts_find?_mail_eq_some :
    db.accounts.find? (·.mail = mail) = some row ↔ row ∈ db.accounts.rows ∧ row.mail = mail := by
  refine (Table.find?_eq_some_iff fun a b ha hb => ?_).trans (by simp only [decide_eq_true_eq])
  rw [decide_eq_true_eq] at ha hb
  simp [Schema.clash, ha, hb]

theorem accounts_find?_id_eq_some {id : PersonId} :
    db.accounts.find? (·.id = id) = some row ↔ row ∈ db.accounts.rows ∧ row.id = id := by
  refine (Table.find?_eq_some_iff fun a b ha hb => ?_).trans (by simp only [decide_eq_true_eq])
  rw [decide_eq_true_eq] at ha hb
  simp [Schema.clash, ha, hb]

theorem isUnclaimed_iff : db.IsUnclaimed mail ↔ ∀ row ∈ db.accounts.rows, row.mail ≠ mail := by
  simp [Database.IsUnclaimed, Table.find?]

theorem isConfirmedMail_iff : db.IsConfirmedMail mail ↔
    ∃ row ∈ db.accounts.rows, row.mail = mail ∧ row.isConfirmed = true := by
  simp only [Database.IsConfirmedMail, accounts_find?_mail_eq_some, and_assoc]

/-- An account of a new identifier and a new mail can be saved. -/
theorem exists_save_new (db : Database) (account : Account) (hcheck : Schema.check account = true)
    (hid : ∀ row ∈ db.accounts.rows, row.id ≠ account.id)
    (hmail : ∀ row ∈ db.accounts.rows, row.mail ≠ account.mail) :
    ∃ db', database.exec (.accounts (.save account)) db = (.ok (), db') ∧
      ∀ row, row ∈ db'.accounts.rows ↔ row ∈ db.accounts.rows ∨ row = account := by
  obtain ⟨table, htable⟩ := Table.exists_insert hcheck fun stored hstored => by
    simp [Schema.clash, hid stored hstored, hmail stored hstored]
  have hnone : db.accounts.rows.any (·.id = account.id) = false := by
    simpa using hid
  refine ⟨{ db with accounts := table }, ?_, fun row => Table.mem_insert htable row⟩
  simp [AccountCall.exec, Table.upsert, hnone, htable, commit]

end Registry

/-! ### What a run does to an account -/

section Run

variable {digests : Digests} {hasher : PasswordHasher} {t : OrderTurn} {row : Account}

/-- A scenario saves an account under the fresh identifier it drew, or a confirmed one. -/
theorem fresh_or_confirmed_of_savesAccount {order : Order} {answer : Except Fault order.Value}
    {db : Database} {account : Account} (hfresh : DrawsFreshPerson order db)
    (hsaves : SavesAccount digests hasher order answer db account) :
    (∀ row ∈ db.accounts.rows, row.id ≠ account.id) ∨ account.confirmedAt.isSome = true := by
  obtain ⟨settings, rule, drawn, intent⟩ := order
  cases intent with
  | registerOnMyOwn mail from_ =>
    obtain ⟨-, lifetimes, secret, -, -, hregistered, -⟩ := hsaves
    obtain rfl := Account.registered_eq_ok hregistered
    exact Or.inl hfresh
  | confirmEmail id shown =>
    obtain ⟨found, -, hconfirmed, -⟩ := hsaves
    obtain ⟨-, -, -, rfl⟩ := Account.confirmedBy_eq_ok.1 hconfirmed
    exact Or.inr rfl
  | acceptInvitation request =>
    obtain ⟨-, rfl, -⟩ := hsaves
    exact Or.inr rfl
  | openPractice request =>
    obtain ⟨-, rfl, -⟩ := hsaves
    exact Or.inr rfl
  | attachAccount tenant child mail =>
    obtain ⟨-, rfl⟩ := hsaves
    exact Or.inr rfl
  | _ => cases hsaves

/-- The account is there as it was, or confirmed. -/
def Database.HasOrConfirmed (row : Account) (db : Database) : Prop :=
  ∃ later ∈ db.accounts.rows, later.id = row.id ∧ later.mail = row.mail ∧
    (later = row ∨ later.confirmedAt.isSome = true)

/-- **What a turn may do to an account** is to confirm it. -/
theorem stays_or_is_confirmed
    (hexec : (application digests hasher).exec t.entry.op t.before = (t.entry.answer, t.after))
    (hfresh : DrawsFreshPerson t.entry.op t.before) (h : t.before.HasOrConfirmed row) :
    t.after.HasOrConfirmed row := by
  obtain ⟨stored, hstored, hid, hmail, hbecame⟩ := h
  rcases accounts_of_turn hexec with hsame | ⟨account, hsaves, hsave⟩
  · exact ⟨stored, hsame ▸ hstored, hid, hmail, hbecame⟩
  have hrow := (mem_accounts_of_save hsave).2 (Or.inl ⟨stored, hstored, rfl⟩)
  by_cases hsame : stored.id = account.id
  · rw [if_pos hsame] at hrow
    refine ⟨_, hrow, hid, hmail, Or.inr ?_⟩
    rcases fresh_or_confirmed_of_savesAccount hfresh hsaves with hnew | hconfirmed
    · exact absurd hsame (hnew stored hstored)
    · exact hconfirmed
  · rw [if_neg hsame] at hrow
    exact ⟨stored, hrow, hid, hmail, hbecame⟩

theorem hasOrConfirmed_later {early late : List OrderTurn} {db db' : Database}
    (hrun : Linked (application digests hasher) db (early ++ t :: late) db')
    (hfresh : ∀ u ∈ late, DrawsFreshPerson u.entry.op u.before)
    (hrow : row ∈ t.after.accounts.rows) : ∀ u ∈ late, u.before.HasOrConfirmed row :=
  hrun.holds_later (fun u hu => stays_or_is_confirmed (hrun.split.2.2.exec_eq hu) (hfresh u hu))
    ⟨row, hrow, rfl, rfl, Or.inl rfl⟩

end Run

/-! ### Registering and confirming -/

section Scenarios

variable {ports : AuthPorts} {drawn : Drawn} {db : Database}

/-- The address has not registered too many accounts. -/
def IsUnthrottled (limits : SignupLimits) (now : Int) (from_ : Digest) (db : Database) : Prop :=
  ∀ row, db.signups.find? (·.address = from_) = some row →
    row.window.isBlockedAt now limits.window limits.perAddress = false

/-- A window that counts something can be saved, and is the window of the address then. -/
theorem exists_save_signup {counted : AttemptWindow} (hpositive : 0 < counted.attempts)
    (from_ : Digest) (db : Database) :
    ∃ db', database.exec (.signups (.save from_ counted)) db = (.ok (), db') ∧
      (db'.signups.find? (·.address = from_)).map (·.window) = some counted := by
  obtain ⟨table, htable⟩ : ∃ table, db.signups.upsert (·.address = from_)
      (fun row => { row with window := counted }) ⟨from_, counted⟩ = some table := by
    refine Table.exists_upsert (fun _ _ _ => ?_) (fun a b hclash => ?_)
      fun habsent => ⟨?_, habsent⟩
    · simpa [Schema.check] using hpositive
    · simp only [Schema.clash] at hclash ⊢
      split at hclash <;> split at hclash <;> exact hclash
    · simpa [Schema.check] using hpositive
  refine ⟨{ db with signups := table }, by simp [SignupCall.exec, htable, commit], ?_⟩
  have hfound := Table.find?_upsert_self htable (by simp) fun row hrow => by simpa using hrow
  rw [show table.find? (·.address = from_) = _ from hfound, Option.map_some, Option.some.injEq]
  cases db.signups.find? (·.address = from_) <;> rfl

theorem AttemptWindow.registered_pos (window : AttemptWindow) (now length : Int) :
    0 < (window.registered now length).attempts := by
  unfold AttemptWindow.registered
  split
  · exact Nat.one_pos
  · exact Nat.succ_pos _

/-- An address that is not throttled has its registration counted. -/
theorem countSignup_eq_ok {limits : SignupLimits} {now : Int} {from_ : Digest}
    (h : IsUnthrottled limits now from_ db) :
    ∃ db', (countSignup limits now from_).run database db = (.ok (), db') := by
  cases hfound : db.signups.find? (·.address = from_) with
  | none =>
    have hone : 0 < (⟨now, 1⟩ : AttemptWindow).attempts := Nat.one_pos
    obtain ⟨db', hsave, -⟩ := exists_save_signup hone from_ db
    refine ⟨db', ?_⟩
    simpa [countSignup, run_bind, SignupCall.exec, hfound] using hsave
  | some row =>
    obtain ⟨db', hsave, -⟩ := exists_save_signup (row.window.registered_pos now limits.window)
      from_ db
    refine ⟨db', ?_⟩
    simpa [countSignup, run_bind, SignupCall.exec, hfound, h row hfound] using hsave

/-- The account a registration makes. -/
def newcomer (ports : AuthPorts) (drawn : Drawn) (lifetimes : AuthLifetimes) (mail : Digest)
    (secret : TokenSecret) : Account :=
  ⟨drawn.personId, mail, none, some (ports.digests secret.value),
    some (drawn.clock 0 + lifetimes.passwordReset), drawn.clock 0⟩

/-- A registration that is not throttled and whose mail is unclaimed succeeds. -/
theorem registerOnMyOwn_eq_ok (ports : AuthPorts) (drawn : Drawn) {limits : SignupLimits}
    {lifetimes : AuthLifetimes} {secret : TokenSecret} {mail : Email} {from_ : Digest}
    (hlimits : ports.settings.signups = .ok limits)
    (hlifetimes : ports.settings.lifetimes = .ok lifetimes)
    (hsecret : TokenSecret.parse drawn.tokenText = .ok secret)
    (hopen : IsUnthrottled limits (drawn.clock 0) from_ db)
    (hfresh : ∀ row ∈ db.accounts.rows, row.id ≠ drawn.personId)
    (hunclaimed : db.IsUnclaimed (ports.digests mail.value)) :
    ∃ db', (registerOnMyOwn ports drawn mail from_).run database db =
        (.ok ⟨newcomer ports drawn lifetimes (ports.digests mail.value) secret, secret⟩, db') ∧
      newcomer ports drawn lifetimes (ports.digests mail.value) secret ∈ db'.accounts.rows := by
  obtain ⟨db₁, hcount⟩ := countSignup_eq_ok hopen
  have hsame := accounts_of_countSignup hcount
  have hregistered : Account.registered drawn.personId (ports.digests mail.value)
      (ports.digests secret.value) (drawn.clock 0) lifetimes.passwordReset =
        .ok (newcomer ports drawn lifetimes (ports.digests mail.value) secret) :=
    if_neg (not_le.2 lifetimes.positive.2.2)
  have hnone : db₁.accounts.find? (·.mail = ports.digests mail.value) = none := by
    rw [hsame]
    exact hunclaimed
  obtain ⟨db₂, hsave, hrows⟩ := exists_save_new db₁
    (newcomer ports drawn lifetimes (ports.digests mail.value) secret) rfl (by rwa [hsame])
    (by rw [hsame]; exact isUnclaimed_iff.1 hunclaimed)
  refine ⟨db₂, ?_, (hrows _).2 (Or.inr rfl)⟩
  simp only [registerOnMyOwn, hlimits, hlifetimes, Result.orRefuse_eq_ok, run_ofExcept_bind_eq_ok]
  refine ⟨limits, rfl, lifetimes, rfl, ?_⟩
  rw [run_bind, hcount]
  simp only [run_perform_bind_eq_ok]
  refine ⟨none, db₁, Prod.ext (congrArg Except.ok hnone) rfl, ?_⟩
  simp only [run_ofExcept_bind_eq_ok, Result.orRefuse_eq_ok, run_perform_bind_eq_ok]
  exact ⟨secret, hsecret, _, hregistered, (), db₂, hsave, rfl⟩

/-- A registration that succeeded found the mail unclaimed. -/
theorem isUnclaimed_of_registerOnMyOwn {mail : Email} {from_ : Digest}
    {registration : SelfRegistration} {db' : Database}
    (h : (registerOnMyOwn ports drawn mail from_).run database db = (.ok registration, db')) :
    db.IsUnclaimed (ports.digests mail.value) := by
  simp only [registerOnMyOwn, run_ofExcept_bind_eq_ok] at h
  obtain ⟨limits, -, lifetimes, -, hrest⟩ := h
  obtain ⟨⟨⟩, db₁, hcount, hrest⟩ := run_bind_eq_ok database hrest
  obtain ⟨found, db₂, hfind, hrest⟩ := (run_perform_bind_eq_ok database).1 hrest
  cases found with
  | some found => cases hrest
  | none =>
    rw [Database.IsUnclaimed, ← accounts_of_countSignup hcount]
    exact Except.ok.inj (congrArg Prod.fst hfind)

/-- The secret of an account that still awaits it confirms it in its term. -/
theorem confirmEmail_eq_ok (ports : AuthPorts) (drawn : Drawn) {row : Account}
    {shown : TokenSecret}
    (hrow : row ∈ db.accounts.rows) (hnone : row.confirmedAt = none)
    (hshown : row.confirmation = some (ports.digests shown.value))
    (hterm : ∀ expires ∈ row.confirmationExpiresAt, drawn.clock 0 < expires) :
    ∃ account db', (confirmEmail ports drawn row.id shown).run database db = (.ok account, db') ∧
      account ∈ db'.accounts.rows ∧ account.mail = row.mail ∧ account.isConfirmed = true := by
  let account : Account := { row with
    confirmedAt := some (drawn.clock 0), confirmation := none, confirmationExpiresAt := none }
  have hconfirmed : row.confirmedBy (ports.digests shown.value) (drawn.clock 0) = .ok account :=
    Account.confirmedBy_eq_ok.2 ⟨hnone, hshown, hterm, rfl⟩
  obtain ⟨table, htable⟩ : ∃ table, db.accounts.upsert (·.id = account.id)
      (withConfirmationOf account) account = some table := by
    refine Table.exists_upsert (fun _ _ _ => rfl) (fun a b hclash => ?_) fun habsent => ?_
    · simp only [Schema.clash] at hclash ⊢
      split at hclash <;> split at hclash <;> exact hclash
    · exact absurd (habsent row hrow) (by simp [account])
  have hsave : AccountCall.exec (.save account) db.accounts = (.ok (), table) :=
    congrArg (commit "identity_account" db.accounts) htable
  refine ⟨account, { db with accounts := table }, ?_, ?_, rfl, rfl⟩
  · simp only [confirmEmail, run_perform_bind_eq_ok]
    refine ⟨some row, db, Prod.ext ?_ rfl, ?_⟩
    · exact congrArg Except.ok (accounts_find?_id_eq_some.2 ⟨hrow, rfl⟩)
    simp only [run_ofExcept_bind_eq_ok, Result.orRefuse_eq_ok, run_perform_bind_eq_ok]
    refine ⟨account, hconfirmed, (), { db with accounts := table }, ?_, rfl⟩
    rw [exec_accounts, hsave]
  · refine (mem_accounts_of_save hsave).2 (Or.inl ⟨row, hrow, ?_⟩)
    rw [if_pos rfl]
    rfl

/-- The registry after an invitation was accepted: the mail given had an account, or has one
now that is confirmed. -/
theorem accounts_of_acceptInvitation {request : AcceptInvitationRequest} {session : Session}
    {db' : Database} (hfresh : ∀ row ∈ db.accounts.rows, row.id ≠ drawn.personId)
    (h : (acceptInvitation ports drawn request).run database db = (.ok session, db')) :
    (¬ db.IsUnclaimed (ports.digests request.mail.value) ∧ db'.accounts = db.accounts) ∨
      (db.IsUnclaimed (ports.digests request.mail.value) ∧ ∀ row, row ∈ db'.accounts.rows ↔
        row ∈ db.accounts.rows ∨ row = Account.invited drawn.personId
          (ports.digests request.mail.value) (drawn.clock 0)) := by
  obtain ⟨found, account, db₁, -, -, -, haccount, hsame, -⟩ := acceptInvitation_returned h
  rw [hsame]
  rcases accountOf_returned haccount with ⟨hfound, rfl⟩ | ⟨hnone, rfl, hsave⟩
  · refine Or.inl ⟨fun hunclaimed => ?_, rfl⟩
    rw [Database.IsUnclaimed, hfound] at hunclaimed
    cases hunclaimed
  · obtain ⟨db₂, hsave', hrows⟩ := exists_save_new db
      (Account.invited drawn.personId (ports.digests request.mail.value) (drawn.clock 0)) rfl hfresh
      (isUnclaimed_iff.1 hnone)
    obtain rfl : db₁ = db₂ := by
      rw [hsave] at hsave'
      exact congrArg Prod.snd hsave'
    exact Or.inr ⟨hnone, hrows⟩

end Scenarios

/-! ### Whether the ways meet -/

/-- The invitation that a turn accepted, if it let somebody in. -/
def acceptedBy (t : OrderTurn) : Option AcceptInvitationRequest :=
  match t.entry with
  | ⟨⟨_, _, _, .acceptInvitation request⟩, .ok _⟩ => some request
  | _ => none

/-- The account that somebody asks to be confirmed, with the secret shown and the moment. -/
def confirmationAsked (order : Order) : Option (PersonId × TokenSecret × Int) :=
  match order with
  | ⟨_, _, drawn, .confirmEmail id shown⟩ => some (id, shown, drawn.clock 0)
  | _ => none

/-- The letter of this invitation was addressed to the mail. -/
def IsLetterTo (digests : Digests) (mail : Digest) (request : AcceptInvitationRequest)
    (db : Database) : Prop :=
  ∃ found, db.tokens.find? (fun row => row.tenant = request.tenant &&
      row.secret = digests request.secret.value) = some found ∧ found.invited = some mail

/-- The turn is a registration of the mail that nothing stands against: the settings are
there, the address is not throttled, and a secret can be drawn. -/
def MayRegister (digests : Digests) (mail : Digest) (t : OrderTurn) : Prop :=
  ∃ address from_ limits lifetimes secret,
    t.entry.op.intent = .registerOnMyOwn address from_ ∧ digests address.value = mail ∧
    t.entry.op.settings.signups = .ok limits ∧ t.entry.op.settings.lifetimes = .ok lifetimes ∧
    TokenSecret.parse t.entry.op.drawn.tokenText = .ok secret ∧
    IsUnthrottled limits (t.entry.op.drawn.clock 0) from_ t.before

/-- The mail has no confirmed account, and none whose confirmation is in its term. -/
def Database.AwaitsNothing (mail : Digest) (now : Int) (db : Database) : Prop :=
  ∀ account, db.accounts.find? (·.mail = mail) = some account →
    account.confirmedAt = none ∧ ∃ expires ∈ account.confirmationExpiresAt, expires ≤ now

/-- Whenever the secret of the registration is shown in its term, it confirms the account, if
the account is not confirmed already, and the mail has a confirmed account afterwards. -/
def SecretConfirms (registration : SelfRegistration) (mail : Digest) (later : List OrderTurn) :
    Prop :=
  ∀ u ∈ later, ∀ moment,
    confirmationAsked u.entry.op =
        some (registration.account.id, registration.confirmation, moment) →
    (∀ expires ∈ registration.account.confirmationExpiresAt, moment < expires) →
      (u.before.IsConfirmedMail mail ∨ (confirmationOf u).isSome = true) ∧
        u.after.IsConfirmedMail mail

section Meet

variable {digests : Digests} {hasher : PasswordHasher} {t : OrderTurn} {early late : List OrderTurn}
  {db db' : Database} {mail : Digest}

/-- An accepted invitation leaves the mail with a confirmed account exactly when it had one, or
had none at all and was the mail given. -/
theorem isConfirmedMail_of_acceptedBy {request : AcceptInvitationRequest}
    (hexec : (application digests hasher).exec t.entry.op t.before = (t.entry.answer, t.after))
    (hfresh : DrawsFreshPerson t.entry.op t.before) (haccepted : acceptedBy t = some request) :
    t.after.IsConfirmedMail mail ↔ t.before.IsConfirmedMail mail ∨
      t.before.IsUnclaimed mail ∧ digests request.mail.value = mail := by
  obtain ⟨⟨⟩, ⟨⟨settings, rule, drawn, intent⟩, answer⟩, before, after⟩ := t
  cases intent with
  | acceptInvitation given =>
    cases answer with
    | error fault => cases haccepted
    | ok session =>
      obtain rfl : given = request := Option.some.inj haccepted
      rcases accounts_of_acceptInvitation hfresh hexec with ⟨hclaimed, hsame⟩ | ⟨hunclaimed, hrows⟩
      · have hafter : after.IsConfirmedMail mail ↔ before.IsConfirmedMail mail := by
          rw [Database.IsConfirmedMail, hsame, Database.IsConfirmedMail]
        refine hafter.trans (or_iff_left ?_).symm
        rintro ⟨hnone, rfl⟩
        exact hclaimed hnone
      · simp only [isConfirmedMail_iff, hrows]
        constructor
        · rintro ⟨row, hrow | rfl, hmail, hconfirmed⟩
          · exact Or.inl ⟨row, hrow, hmail, hconfirmed⟩
          · obtain rfl : digests given.mail.value = mail := hmail
            exact Or.inr ⟨hunclaimed, rfl⟩
        · rintro (⟨row, hrow, hmail, hconfirmed⟩ | ⟨-, hmail⟩)
          · exact ⟨row, Or.inl hrow, hmail, hconfirmed⟩
          · exact ⟨_, Or.inr rfl, hmail, rfl⟩
  | _ => cases answer <;> cases haccepted

/-- The secret of an account shown in its term confirms it, or it was confirmed before. -/
theorem isConfirmedMail_of_confirmationAsked {u : OrderTurn} {row : Account} {shown : TokenSecret}
    {moment : Int}
    (hexec : (application digests hasher).exec u.entry.op u.before = (u.entry.answer, u.after))
    (hthere : u.before.HasOrConfirmed row) (hnone : row.confirmedAt = none)
    (hshown : row.confirmation = some (digests shown.value))
    (hasked : confirmationAsked u.entry.op = some (row.id, shown, moment))
    (hterm : ∀ expires ∈ row.confirmationExpiresAt, moment < expires) :
    (u.before.IsConfirmedMail row.mail ∨ (confirmationOf u).isSome = true) ∧
      u.after.IsConfirmedMail row.mail := by
  obtain ⟨⟨⟩, ⟨⟨settings, rule, drawn, intent⟩, answer⟩, before, after⟩ := u
  cases intent with
  | confirmEmail id given =>
    obtain ⟨rfl, rfl, rfl⟩ : id = row.id ∧ given = shown ∧ drawn.clock 0 = moment := by
      simpa [confirmationAsked] using hasked
    obtain ⟨later, hlater, hid, hmail, rfl | hconfirmed⟩ := hthere
    · obtain ⟨account, db', hrun, haccount, haccountMail, hconfirmed⟩ := confirmEmail_eq_ok
        ⟨settings, digests, hasher⟩ drawn hlater hnone hshown hterm
      obtain ⟨rfl, rfl⟩ : (.ok account : Except Fault Account) = answer ∧ db' = after :=
        Prod.mk.injEq .. ▸ hrun.symm.trans hexec
      exact ⟨Or.inr rfl, isConfirmedMail_iff.2 ⟨account, haccount, haccountMail, hconfirmed⟩⟩
    · have hthere : before.HasOrConfirmed later := ⟨later, hlater, rfl, rfl, Or.inl rfl⟩
      obtain ⟨last, hlast, -, hlastMail, hlastConfirmed⟩ :=
        stays_or_is_confirmed hexec trivial hthere
      refine ⟨Or.inl (isConfirmedMail_iff.2 ⟨later, hlater, hmail, hconfirmed⟩),
        isConfirmedMail_iff.2 ⟨last, hlast, hlastMail.trans hmail, ?_⟩⟩
      rcases hlastConfirmed with rfl | hstill
      · exact hconfirmed
      · exact hstill
  | _ => cases hasked

/-- **Whether the two ways in meet.** In any run in which new people get identifiers nobody
has: an invitation that is accepted leaves the mail it was sent to with a confirmed account
exactly when the mail had one, or had no account and was the mail given; and a registration
of a mail that awaits nothing succeeds, and its secret confirms the account, exactly when the
mail has no account at all. -/
theorem ways_in_meet (hrun : Linked (application digests hasher) db (early ++ t :: late) db')
    (hfresh : ∀ u ∈ early ++ t :: late, DrawsFreshPerson u.entry.op u.before) (mail : Digest) :
    (∀ request, acceptedBy t = some request → IsLetterTo digests mail request t.before →
      (t.after.IsConfirmedMail mail ↔ t.before.IsConfirmedMail mail ∨
        t.before.IsUnclaimed mail ∧ digests request.mail.value = mail)) ∧
    (MayRegister digests mail t → t.before.AwaitsNothing mail (t.entry.op.drawn.clock 0) →
      ((∃ registration, registrationOf t = some registration ∧
        SecretConfirms registration mail late) ↔ t.before.IsUnclaimed mail)) := by
  have hexec := hrun.split.2.1
  have hfreshNow := hfresh t (by simp)
  refine ⟨fun request haccepted _ => isConfirmedMail_of_acceptedBy hexec hfreshNow haccepted,
    fun hmay _ => ?_⟩
  obtain ⟨address, from_, limits, lifetimes, secret, hintent, rfl, hlimits, hlifetimes, hsecret,
    hopen⟩ := hmay
  obtain ⟨⟨⟩, ⟨⟨settings, rule, drawn, intent⟩, answer⟩, before, after⟩ := t
  obtain rfl : intent = .registerOnMyOwn address from_ := hintent
  constructor
  · rintro ⟨registration, hregistration, -⟩
    cases answer with
    | error fault => cases hregistration
    | ok value => exact isUnclaimed_of_registerOnMyOwn hexec
  · intro hunclaimed
    obtain ⟨db₁, hregister, hnewcomer⟩ := registerOnMyOwn_eq_ok ⟨settings, digests, hasher⟩ drawn
      hlimits hlifetimes hsecret hopen hfreshNow hunclaimed
    obtain ⟨rfl, rfl⟩ : (.ok _ : Except Fault SelfRegistration) = answer ∧ db₁ = after :=
      Prod.mk.injEq .. ▸ hregister.symm.trans hexec
    refine ⟨_, rfl, fun u hu moment hasked hterm => ?_⟩
    exact isConfirmedMail_of_confirmationAsked (hrun.split.2.2.exec_eq hu)
      (hasOrConfirmed_later hrun (fun v hv => hfresh v (by simp [hv])) hnewcomer u hu) rfl rfl
      hasked hterm

end Meet

/-! ### A letter that was lost -/

/-- The owner's mail is registered. -/
def registers (now : Int) (byte : UInt8) : Order :=
  orderAt now byte (.registerOnMyOwn ownerMail (standInDigest []))

theorem mayRegister_of_turn {now : Int} {byte : UInt8} {db : Database} {secret : TokenSecret}
    (hsecret : TokenSecret.parse (drawnAt now byte).tokenText = .ok secret)
    (hopen : (db.signups.find? (·.address = standInDigest [])).all
      (fun row => !row.window.isBlockedAt now 3600000000 3) = true) :
    MayRegister standInDigest (standInDigest ownerMail.value)
      (turn workedApplication (registers now byte) db) := by
  refine ⟨ownerMail, standInDigest [], _, _, secret, rfl, rfl, rfl, rfl, hsecret, ?_⟩
  intro row hrow
  have hall := (Option.all_eq_true _ _).1 hopen row hrow
  show row.window.isBlockedAt now 3600000000 3 = false
  simpa using hall

/-- Somebody registers and follows the letter: the registration, the confirmation, the end. -/
def ownRegistration : OrderTurn := turn workedApplication (registers 10 1) {}

/-- The turn in which the owner confirms his mail. -/
def ownConfirmation : OrderTurn :=
  turn workedApplication (orderAt 20 2 (.confirmEmail (repeated 1) firstSecret))
    ownRegistration.after

/-- Nothing stands against the first registration, and its secret confirms the mail. -/
theorem first_registration_confirms :
    ∃ registration, registrationOf ownRegistration = some registration ∧
      SecretConfirms registration (standInDigest ownerMail.value) [ownConfirmation] := by
  have hrun : Linked workedApplication {} ([] ++ ownRegistration :: [ownConfirmation])
      ownConfirmation.after :=
    turns_linked workedApplication [registers 10 1,
      orderAt 20 2 (.confirmEmail (repeated 1) firstSecret)] {}
  refine ((ways_in_meet hrun ?_ (standInDigest ownerMail.value)).2 ?_ ?_).2 rfl
  · rintro t (- | ⟨-, - | ⟨-, ⟨⟩⟩⟩)
    · rintro row ⟨⟩
    · trivial
  · exact mayRegister_of_turn rfl rfl
  · rintro account ⟨⟩

/-- The owner registers, and a practice opened by somebody else invites him. -/
def registeredAndInvited : List OrderTurn × Database :=
  turns workedApplication
    [orderAt 5 7 (.openPractice (practiceOpened childMail)), registers 10 1,
      orderAt 20 3 (.inviteParticipant (repeated 7) .student (some ownerMail))] {}

/-- The owner accepts. -/
def ownerAccepts : AcceptInvitationRequest := { childAccepts with mail := ownerMail }

/-- The owner follows the letter of the invitation. -/
def invitationAccepted : OrderTurn :=
  turn workedApplication (orderAt 30 15 (.acceptInvitation ownerAccepts)) registeredAndInvited.2

/-- The owner registers and does not get the letter. -/
def letterLost : List OrderTurn × Database := turns workedApplication [registers 10 1] {}

/-- When the term of the letter has passed, he registers once more. -/
def registeredAgain : OrderTurn :=
  turn workedApplication (registers 3600000010 2) letterLost.2

/-- **The ways part.** The owner registered, followed the letter of an invitation that was sent
to his mail, and came in; his account is still not confirmed. And the owner whose first letter
was lost registers again after its term: he is refused. -/
theorem ways_in_part :
    (Linked workedApplication {} (registeredAndInvited.1 ++ [invitationAccepted])
        invitationAccepted.after ∧
      acceptedBy invitationAccepted = some ownerAccepts ∧
      IsLetterTo standInDigest (standInDigest ownerMail.value) ownerAccepts
        invitationAccepted.before ∧
      ¬ invitationAccepted.after.IsConfirmedMail (standInDigest ownerMail.value)) ∧
    (Linked workedApplication {} (letterLost.1 ++ [registeredAgain]) registeredAgain.after ∧
      MayRegister standInDigest (standInDigest ownerMail.value) registeredAgain ∧
      registeredAgain.before.AwaitsNothing (standInDigest ownerMail.value) 3600000010 ∧
      registrationOf registeredAgain = none) := by
  refine ⟨⟨turns_linked_turn workedApplication _ [] _ {}, ?_, ?_, ?_⟩,
    ⟨turns_linked_turn workedApplication _ [] _ {}, ?_, ?_, ?_⟩⟩
  · rfl
  · exact ⟨_, rfl, rfl⟩
  · rw [isConfirmedMail_iff]
    decide +kernel
  · exact mayRegister_of_turn rfl (by decide +kernel)
  · intro account haccount
    obtain rfl : newcomer standIn (drawnAt 10 1) ⟨86400000000, 3600000000, 3600000000, by decide,
        by decide⟩ (standInDigest ownerMail.value) firstSecret = account :=
      Option.some.inj haccount
    exact ⟨rfl, 3600000010, rfl, le_rfl⟩
  · rfl

end Pdr.Identity
