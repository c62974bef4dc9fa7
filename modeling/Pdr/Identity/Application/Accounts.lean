import Pdr.Identity.Application.ClockSteps

/-!
# What the scenarios do to the registry of accounts

Five scenarios write the registry. Each of them saves at most one account, under a mail that
has none yet or in the place of the account it has just read, and afterwards touches the
registry no more. So the registry moves by one save or not at all, whatever becomes of the
scenario after it.

## Main definitions

* `Pdr.Identity.SavesAccount`: the account a scenario may save, from its request and the state
  before it.

## Main results

* `Pdr.Identity.accounts_of_scenario`: the registry after a scenario, whatever its outcome.
* `Pdr.Identity.mem_accounts_of_save`: the rows after a save.
-/

namespace Pdr.Identity

open StoreProgram Program

/-- No account has this mail. -/
def Database.IsUnclaimed (mail : Digest) (db : Database) : Prop :=
  db.accounts.find? (·.mail = mail) = none

/-- The account a scenario saves, if it does, from what it is given, the state before it and,
where the save is its last call, its answer. -/
def SavesAccount (digests : Digests) (hasher : PasswordHasher) :
    (order : Order) → Except Fault order.Value → Database → Account → Prop
  | ⟨settings, _, drawn, .registerOnMyOwn mail _⟩, answer, db, account =>
    db.IsUnclaimed (digests mail.value) ∧ ∃ lifetimes secret, settings.lifetimes = .ok lifetimes ∧
      TokenSecret.parse drawn.tokenText = .ok secret ∧
      Account.registered drawn.personId (digests mail.value) (digests secret.value)
        (drawn.clock 0) lifetimes.passwordReset = .ok account ∧
      answer = .ok ⟨account, secret⟩
  | ⟨_, _, drawn, .confirmEmail id shown⟩, answer, db, account =>
    ∃ found, db.accounts.find? (·.id = id) = some found ∧
      found.confirmedBy (digests shown.value) (drawn.clock 0) = .ok account ∧ answer = .ok account
  | ⟨settings, _, drawn, .acceptInvitation request⟩, _, db, account =>
    db.IsUnclaimed (digests request.mail.value) ∧
      account = Account.invited drawn.personId (digests request.mail.value) (drawn.clock 0) ∧
      ∃ found, IsFollowed ⟨settings, digests, hasher⟩ drawn db .invitation request.tenant
        request.secret request.password found
  | ⟨settings, _, drawn, .openPractice request⟩, _, db, account =>
    db.IsUnclaimed (digests request.mail.value) ∧
      account = Account.invited drawn.personId (digests request.mail.value) (drawn.clock 0) ∧
      (∃ lifetimes, settings.lifetimes = .ok lifetimes) ∧
      TakesPassword ⟨settings, digests, hasher⟩ drawn request.password
  | ⟨_, _, drawn, .attachAccount _ child mail⟩, _, db, account =>
    db.IsUnclaimed (digests mail.value) ∧
      account = Account.invited child (digests mail.value) (drawn.clock 0)
  | _, _, _, _ => False

/-- The registry is as it was, or has one of these accounts saved. -/
def AccountsMove (saves : Account → Prop) (before : Table Account) (db : Database) : Prop :=
  db.accounts = before ∨
    ∃ account, saves account ∧ AccountCall.exec (.save account) before = (.ok (), db.accounts)

section Scenarios

variable {ports : AuthPorts} {drawn : Drawn} {db : Database} {saves : Account → Prop}

theorem accountsMove_of_footprint {α : Type} {part : Scenario α} {used : List Port}
    {before : Table Account} (hpart : part.Only (Call.IsTo used)) (hused : Port.accounts ∉ used)
    (h : AccountsMove saves before db) :
    part.Yields database (fun _ => AccountsMove saves before) db := by
  refine (accounts_belong.maintains hpart (by simpa using hused) fun hsame hmoved => ?_).yields h
  rwa [AccountsMove, hsame]

theorem accounts_of_failed_save {account : Account} {fault : Fault} {db' : Database}
    (h : database.exec (.accounts (.save account)) db = (.error fault, db')) :
    db'.accounts = db.accounts := by
  rcases commit_eq (congrArg (fun done => (done.1, done.2.accounts)) h) with ⟨hok, -⟩ | ⟨-, hsame⟩
  · cases hok
  · exact hsame

/-- A save moves the registry, or fails and leaves it. -/
theorem accountsMove_of_save {account : Account} (hsaves : saves account)
    {answer : Except Fault Unit} {db' : Database}
    (h : database.exec (.accounts (.save account)) db = (answer, db')) :
    AccountsMove saves db.accounts db' := by
  cases answer with
  | ok value =>
    have hanswer : (AccountCall.exec (.save account) db.accounts).1 = .ok value :=
      congrArg Prod.fst h
    have htable : (AccountCall.exec (.save account) db.accounts).2 = db'.accounts :=
      congrArg (fun done => done.2.accounts) h
    exact Or.inr ⟨account, hsaves, Prod.ext hanswer htable⟩
  | error fault => exact Or.inl (accounts_of_failed_save h)

/-- The account of a mail is found, or made and saved. -/
theorem yields_accountOf {mail : Digest} {now : Int}
    (hsaves : db.IsUnclaimed mail → saves (Account.invited drawn.personId mail now)) :
    (accountOf drawn mail now).Yields database (fun _ => AccountsMove saves db.accounts) db := by
  refine yields_perform_bind (fun _ _ h => by cases h) fun found db' hfind => ?_
  obtain rfl : db = db' := congrArg Prod.snd hfind
  have hfound : db.accounts.find? (·.mail = mail) = found := Except.ok.inj (congrArg Prod.fst hfind)
  cases found with
  | some account => exact Or.inl rfl
  | none =>
    refine yields_perform_bind (fun _ _ h => accountsMove_of_save (hsaves hfound) h) fun _ _ h => ?_
    exact accountsMove_of_save (hsaves hfound) h

theorem accountsMove_of_apart {α : Type} {scenario : Scenario α} {used : List Port}
    (hpart : scenario.Only (Call.IsTo used)) (hused : Port.accounts ∉ used) :
    scenario.Yields database (fun _ => AccountsMove saves db.accounts) db :=
  accountsMove_of_footprint hpart hused (Or.inl rfl)

theorem yields_acceptInvitation {request : AcceptInvitationRequest}
    (hsaves : ∀ found, db.IsUnclaimed (ports.digests request.mail.value) →
      IsFollowed ports drawn db .invitation request.tenant request.secret request.password found →
        saves (Account.invited drawn.personId (ports.digests request.mail.value) (drawn.clock 0))) :
    (acceptInvitation ports drawn request).Yields database
      (fun _ => AccountsMove saves db.accounts) db := by
  refine yields_ofExcept_bind (fun _ _ => Or.inl rfl) fun rules hrules => ?_
  refine yields_ofExcept_bind (fun _ _ => Or.inl rfl) fun lifetimes hlifetimes => ?_
  rw [Result.orRefuse_eq_ok] at hrules hlifetimes
  refine yields_perform_bind (fun _ _ h => by cases h) fun found db₁ hfind => ?_
  obtain rfl : db = db₁ := congrArg Prod.snd hfind
  cases found with
  | none => exact Or.inl rfl
  | some found =>
    dsimp only
    split
    · rename_i hinvitation
      refine yields_ofExcept_bind (fun _ _ => Or.inl rfl) fun used hused => ?_
      refine yields_ofExcept_bind (fun _ _ => Or.inl rfl) fun chosen hchosen => ?_
      refine yields_ofExcept_bind (fun _ _ => Or.inl rfl) fun hash hhash => ?_
      rw [Result.orRefuse_eq_ok] at hused hchosen hhash
      obtain ⟨husable, -⟩ := OneTimeToken.used_eq_ok.1 hused
      have hfollowed : IsFollowed ports drawn db .invitation request.tenant request.secret
          request.password found :=
        ⟨⟨lifetimes, hlifetimes⟩, congrArg Prod.fst hfind, hinvitation, husable, rules, chosen,
          hash, hrules, hchosen, hhash⟩
      refine (yields_accountOf fun hunclaimed => hsaves found hunclaimed hfollowed).and_then
        fun account db₂ hmoved => ?_
      -- The rest of the scenario does not use the registry.
      refine accountsMove_of_footprint ?_
        (show Port.accounts ∉ [.directory, .tokens, .credentials, .sessions] by decide) hmoved
      refine honours_perform_bind rfl fun enrolled _ => ?_
      refine Honours.bind (honours_ofExcept _) fun _ => ?_
      refine honours_perform_bind rfl fun _ _ => honours_perform_bind rfl fun _ _ => ?_
      exact (footprint_openSession _ _ _).mono (Call.IsTo.mono (by decide))
    · exact Or.inl rfl

theorem yields_openPractice {request : OpenPracticeRequest}
    (hsaves : db.IsUnclaimed (ports.digests request.mail.value) →
      (∃ lifetimes, ports.settings.lifetimes = .ok lifetimes) →
        TakesPassword ports drawn request.password →
          saves (Account.invited drawn.personId (ports.digests request.mail.value)
            (drawn.clock 0))) :
    (openPractice ports drawn request).Yields database
      (fun _ => AccountsMove saves db.accounts) db := by
  refine yields_ofExcept_bind (fun _ _ => Or.inl rfl) fun rules hrules => ?_
  refine yields_ofExcept_bind (fun _ _ => Or.inl rfl) fun lifetimes hlifetimes => ?_
  refine yields_ofExcept_bind (fun _ _ => Or.inl rfl) fun chosen hchosen => ?_
  refine yields_ofExcept_bind (fun _ _ => Or.inl rfl) fun hash hhash => ?_
  rw [Result.orRefuse_eq_ok] at hrules hlifetimes hchosen hhash
  refine (yields_accountOf fun hunclaimed => hsaves hunclaimed ⟨lifetimes, hlifetimes⟩
    ⟨rules, chosen, hash, hrules, hchosen, hhash⟩).and_then fun account db₁ hmoved => ?_
  refine accountsMove_of_footprint ?_
    (show Port.accounts ∉ [.practices, .directory, .credentials, .sessions] by decide) hmoved
  refine Honours.bind (honours_ofExcept _) fun practice => ?_
  refine honours_perform_bind rfl fun opened _ => Honours.bind (honours_ofExcept _) fun _ => ?_
  refine honours_perform_bind rfl fun enrolled _ => Honours.bind (honours_ofExcept _) fun _ => ?_
  refine honours_perform_bind rfl fun _ _ => ?_
  refine Honours.bind ((footprint_openSession _ _ _).mono (Call.IsTo.mono (by decide))) fun _ => ?_
  trivial

theorem yields_attachAccount {tenant : TenantId} {child : PersonId} {mail : Email}
    (hsaves : db.IsUnclaimed (ports.digests mail.value) →
      saves (Account.invited child (ports.digests mail.value) (drawn.clock 0))) :
    (attachAccount ports drawn tenant child mail).Yields database
      (fun _ => AccountsMove saves db.accounts) db := by
  refine Yields.and_then ?_ fun _ _ hmoved =>
    accountsMove_of_footprint (footprint_inviteParticipant ..) (by decide) hmoved
  refine yields_perform_bind (fun _ _ h => by cases h) fun found db₁ hfind => ?_
  obtain rfl : db = db₁ := congrArg Prod.snd hfind
  have hfound : db.accounts.find? (·.mail = ports.digests mail.value) = found :=
    Except.ok.inj (congrArg Prod.fst hfind)
  cases found with
  | none =>
    rw [Yields, run_perform]
    exact accountsMove_of_save (hsaves hfound) rfl
  | some existing =>
    dsimp only
    split
    · exact Or.inl rfl
    · exact Or.inl rfl

theorem accounts_of_countSignup {limits : SignupLimits} {now : Int} {from_ : Digest}
    {answer : Except Fault Unit} {db' : Database}
    (h : (countSignup limits now from_).run database db = (answer, db')) :
    db'.accounts = db.accounts :=
  (accounts_belong.yields (footprint_countSignup ..) (by decide) db).of_run h

theorem yields_registerOnMyOwn {mail : Email} {from_ : Digest}
    {saves : Except Fault SelfRegistration → Account → Prop}
    (hsaves : ∀ lifetimes secret account, db.IsUnclaimed (ports.digests mail.value) →
      ports.settings.lifetimes = .ok lifetimes → TokenSecret.parse drawn.tokenText = .ok secret →
        Account.registered drawn.personId (ports.digests mail.value) (ports.digests secret.value)
          (drawn.clock 0) lifetimes.passwordReset = .ok account →
            saves (.ok ⟨account, secret⟩) account) :
    (registerOnMyOwn ports drawn mail from_).Yields database
      (fun answer => AccountsMove (saves answer) db.accounts) db := by
  refine yields_ofExcept_bind (fun _ _ => Or.inl rfl) fun limits _ => ?_
  refine yields_ofExcept_bind (fun _ _ => Or.inl rfl) fun lifetimes hlifetimes => ?_
  rw [Result.orRefuse_eq_ok] at hlifetimes
  refine Yields.bind (fun _ _ hrun => Or.inl (accounts_of_countSignup hrun)) fun _ db₁ hrun => ?_
  have hsame := accounts_of_countSignup hrun
  rw [← hsame]
  refine yields_perform_bind (fun _ _ h => by cases h) fun found db₂ hfind => ?_
  obtain rfl : db₁ = db₂ := congrArg Prod.snd hfind
  have hfound : db₁.accounts.find? (·.mail = ports.digests mail.value) = found :=
    Except.ok.inj (congrArg Prod.fst hfind)
  cases found with
  | some _ => exact Or.inl rfl
  | none =>
    rw [hsame] at hfound
    refine yields_ofExcept_bind (fun _ _ => Or.inl rfl) fun secret hsecret => ?_
    refine yields_ofExcept_bind (fun _ _ => Or.inl rfl) fun account haccount => ?_
    rw [Result.orRefuse_eq_ok] at hsecret haccount
    have hsave := hsaves lifetimes secret account hfound hlifetimes hsecret haccount
    refine yields_perform_bind (fun _ _ h => Or.inl (accounts_of_failed_save h)) fun _ _ h => ?_
    exact accountsMove_of_save hsave h

theorem yields_confirmEmail {id : PersonId} {shown : TokenSecret}
    {saves : Except Fault Account → Account → Prop}
    (hsaves : ∀ found account, db.accounts.find? (·.id = id) = some found →
      found.confirmedBy (ports.digests shown.value) (drawn.clock 0) = .ok account →
        saves (.ok account) account) :
    (confirmEmail ports drawn id shown).Yields database
      (fun answer => AccountsMove (saves answer) db.accounts) db := by
  refine yields_perform_bind (fun _ _ h => by cases h) fun found db₁ hfind => ?_
  obtain rfl : db = db₁ := congrArg Prod.snd hfind
  have hfound : db.accounts.find? (·.id = id) = found := Except.ok.inj (congrArg Prod.fst hfind)
  cases found with
  | none => exact Or.inl rfl
  | some found =>
    refine yields_ofExcept_bind (fun _ _ => Or.inl rfl) fun confirmed hconfirmed => ?_
    rw [Result.orRefuse_eq_ok] at hconfirmed
    have hsave := hsaves found confirmed hfound hconfirmed
    refine yields_perform_bind (fun _ _ h => Or.inl (accounts_of_failed_save h)) fun _ _ h => ?_
    exact accountsMove_of_save hsave h

end Scenarios

/-- **The registry moves by one save or not at all.** Whatever the outcome of a scenario, the
registry after it is the one before, or that with one account saved that the scenario may
save. -/
theorem accounts_of_scenario (digests : Digests) (hasher : PasswordHasher) (order : Order)
    (db : Database) :
    (order.scenario digests hasher).Yields database
      (fun answer => AccountsMove (SavesAccount digests hasher order answer db) db.accounts)
      db := by
  obtain ⟨settings, rule, drawn, intent⟩ := order
  cases intent with
  | acceptInvitation request =>
    exact yields_acceptInvitation fun found hunclaimed hfollowed =>
      ⟨hunclaimed, rfl, found, hfollowed⟩
  | openPractice request =>
    exact yields_openPractice fun hunclaimed hlifetimes htakes =>
      ⟨hunclaimed, rfl, hlifetimes, htakes⟩
  | registerOnMyOwn mail from_ =>
    exact yields_registerOnMyOwn fun lifetimes secret account hunclaimed hlifetimes hsecret
      haccount => ⟨hunclaimed, lifetimes, secret, hlifetimes, hsecret, haccount, rfl⟩
  | confirmEmail id shown =>
    exact yields_confirmEmail fun found account hfound hconfirmed =>
      ⟨found, hfound, hconfirmed, rfl⟩
  | attachAccount tenant child mail =>
    exact yields_attachAccount fun hunclaimed => ⟨hunclaimed, rfl⟩
  | signIn request => exact accountsMove_of_apart (footprint_signIn request) (by decide)
  | signOut id =>
    exact accountsMove_of_apart (footprint_revokeCurrent (some id) (drawn.clock 0)) (by decide)
  | inviteParticipant tenant role addressee =>
    exact accountsMove_of_apart (footprint_inviteParticipant ..) (by decide)
  | requestPasswordReset tenant mail =>
    exact accountsMove_of_apart (footprint_requestPasswordReset ..) (by decide)
  | resetPassword request => exact accountsMove_of_apart (footprint_resetPassword ..) (by decide)
  | changePassword request => exact accountsMove_of_apart (footprint_changePassword ..) (by decide)
  | grantGuardianScope request =>
    exact accountsMove_of_apart (footprint_grantGuardianScope ..) (by decide)
  | revokeGuardianScope request =>
    exact accountsMove_of_apart (footprint_revokeGuardianScope ..) (by decide)

theorem accounts_of_turn {digests : Digests} {hasher : PasswordHasher} {t : OrderTurn}
    (hexec : (application digests hasher).exec t.entry.op t.before = (t.entry.answer, t.after)) :
    AccountsMove (SavesAccount digests hasher t.entry.op t.entry.answer t.before)
      t.before.accounts t.after :=
  (accounts_of_scenario digests hasher t.entry.op t.before).of_run hexec

/-! ### The rows after a save -/

/-- A stored account with the confirmation of the value saved. -/
def withConfirmationOf (account row : Account) : Account :=
  { row with
    confirmedAt := account.confirmedAt
    confirmation := account.confirmation
    confirmationExpiresAt := account.confirmationExpiresAt }

/-- After a save a row is one of before, with the confirmation saved if it has the identifier,
or it is the account saved, under an identifier no row had. -/
theorem mem_accounts_of_save {account row : Account} {before after : Table Account}
    (h : AccountCall.exec (.save account) before = (.ok (), after)) :
    row ∈ after.rows ↔
      (∃ old ∈ before.rows,
          row = if old.id = account.id then withConfirmationOf account old else old)
        ∨ row = account ∧ ∀ old ∈ before.rows, old.id ≠ account.id := by
  have hsaved := commit_fst_ok (congrArg Prod.fst h)
  have htable : (AccountCall.exec (.save account) before).2 = after := congrArg Prod.snd h
  rw [← htable]
  rcases Table.upsert_cases hsaved with ⟨⟨stored, hstored, hsame⟩, hupdate⟩ | ⟨hnone, hinsert⟩
  · have hid : stored.id = account.id := of_decide_eq_true hsame
    refine (Table.mem_updateWhere hupdate row).trans ?_
    simp only [decide_eq_true_eq, withConfirmationOf]
    constructor
    · exact Or.inl
    · rintro (hold | ⟨-, habsent⟩)
      · exact hold
      · exact absurd hid (habsent stored hstored)
  · have habsent : ∀ old ∈ before.rows, old.id ≠ account.id := fun old hold =>
      of_decide_eq_false (hnone old hold)
    refine (Table.mem_insert hinsert row).trans ⟨?_, ?_⟩
    · rintro (hold | rfl)
      · exact Or.inl ⟨row, hold, (if_neg (habsent row hold)).symm⟩
      · exact Or.inr ⟨rfl, habsent⟩
    · rintro (⟨old, hold, rfl⟩ | ⟨rfl, -⟩)
      · rw [if_neg (habsent old hold)]
        exact Or.inl hold
      · exact Or.inr rfl

end Pdr.Identity
