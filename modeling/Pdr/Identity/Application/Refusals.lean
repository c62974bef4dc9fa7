import Pdr.Identity.Application.Attaching
import Pdr.Identity.Application.WaysIn

/-!
# What a refusal leaves behind

A scenario that is refused should have changed nothing. The three scenarios of onboarding look
for the account of a mail and save a new one before they are done with their checks, so a
refusal that comes later leaves an account of somebody who was let in nowhere.

## Main definitions

* `Pdr.Identity.RefusesInto`: a refusal leaves a given state; `Pdr.Identity.LeavesNoTrace`: it
  leaves the state of the call.
* `Pdr.Identity.Database.LacksAccount`: saving an account would write something.

## Main results

* `Pdr.Identity.acceptInvitation_leavesNoTrace_iff`,
  `Pdr.Identity.openPractice_leavesNoTrace_iff`,
  `Pdr.Identity.attachAccount_leavesNoTrace_iff`: when a refusal leaves no trace.
* `Pdr.Identity.refused_onboarding_leaves_no_trace_iff`: the three of them together.
* `Pdr.Identity.refused_onboarding_leaves_an_account`: a practice without a name.
-/

namespace Pdr.Identity

open StoreProgram Program

/-! ### Where a refusal ends -/

section Refusals

variable {α β : Type} {start db db' : Database}

/-- If the scenario is refused, it leaves the state `start`. -/
def RefusesInto (start : Database) (scenario : Scenario α) (db : Database) : Prop :=
  ∀ failure db', scenario.run database db = (.error (.refused failure), db') → db' = start

/-- If the scenario is refused, everything is as before the call. -/
def LeavesNoTrace (scenario : Scenario α) (db : Database) : Prop := RefusesInto db scenario db

@[simp] theorem refusesInto_done (value : α) :
    RefusesInto start (.done value : Scenario α) db ↔ True := by
  simp [RefusesInto]

@[simp] theorem refusesInto_refuse (failure : Error) :
    RefusesInto start (refuse failure : Scenario α) db ↔ db = start := by
  simp [RefusesInto]

@[simp] theorem refusesInto_ask (call : Call) : RefusesInto start (ask call) db ↔ True :=
  iff_true_intro fun failure db' h => absurd h (run_ask_ne_refused call db db' failure)

theorem refusesInto_accept_bind {result : Result α} {next : α → Scenario β} :
    RefusesInto start (accept result >>= next) db ↔
      ((∃ failure, result = .error failure) → db = start) ∧
        ∀ value, result = .ok value → RefusesInto start (next value) db := by
  cases result with
  | ok value => simp
  | error failure => simp

theorem refusesInto_ask_bind {call : Call} {next : call.Answer → Scenario β} :
    RefusesInto start (ask call >>= next) db ↔
      ∀ answer db', database.exec call db = (.ok answer, db') →
        RefusesInto start (next answer) db' := by
  simp only [RefusesInto, run_bind_eq_error, run_perform]
  constructor
  · intro h answer between hexec failure db' hnext
    exact h failure db' (Or.inr ⟨answer, between, hexec, hnext⟩)
  · rintro h failure db' (hask | ⟨answer, between, hexec, hnext⟩)
    · exact absurd (congrArg Prod.fst hask) (exec_ne_refused call db failure)
    · exact h answer between hexec failure db' hnext

theorem RefusesInto.bind {scenario : Scenario α} {next : α → Scenario β}
    (h : RefusesInto start scenario db) (hnext : ∀ value db', RefusesInto start (next value) db') :
    RefusesInto start (scenario >>= next) db := by
  intro failure db' hrun
  rcases (run_bind_eq_error database).1 hrun with hfirst | ⟨value, between, -, hsecond⟩
  · exact h failure db' hfirst
  · exact hnext value between failure db' hsecond

theorem refusesInto_openSession (lifetimes : AuthLifetimes) (drawn : Drawn) (tenant : TenantId)
    (person : PersonId) (now : Int) (seen : Fingerprint) :
    RefusesInto start (openSession lifetimes drawn tenant person now seen) db := by
  rw [openSession, Session.open_of_pos lifetimes.positive.1, refusesInto_accept_bind]
  refine ⟨by simp, fun opened _ => refusesInto_ask_bind.2 fun answer db' _ => ?_⟩
  exact (refusesInto_done opened).2 trivial

end Refusals

/-! ### The account that is saved -/

section Saved

variable {start db : Database} {drawn : Drawn} {id : PersonId} {mail : Digest} {now : Int}

/-- The state with the account saved. -/
def Database.withAccount (account : Account) (db : Database) : Database :=
  (database.exec (.accounts (.save account)) db).2

/-- The registry has nobody under the mail, and does not say of the person what the account
says. -/
def Database.LacksAccount (account : Account) (db : Database) : Prop :=
  db.IsUnclaimed account.mail ∧ ¬ ∃ row ∈ db.accounts.rows, row.id = account.id ∧
    row.confirmedAt = account.confirmedAt ∧ row.confirmation = account.confirmation ∧
      row.confirmationExpiresAt = account.confirmationExpiresAt

@[simp] theorem people_withAccount (account : Account) (db : Database) :
    (db.withAccount account).people = db.people := rfl

@[simp] theorem roles_withAccount (account : Account) (db : Database) :
    (db.withAccount account).roles = db.roles := rfl

@[simp] theorem practices_withAccount (account : Account) (db : Database) :
    (db.withAccount account).practices = db.practices := rfl

@[simp] theorem tokens_withAccount (account : Account) (db : Database) :
    (db.withAccount account).tokens = db.tokens := rfl

/-- Where nobody has the mail, an invited account is saved. -/
theorem exists_upsert_invited (hmail : db.IsUnclaimed mail) :
    ∃ table, db.accounts.upsert (·.id = (Account.invited id mail now).id)
      (fun row => { row with
        confirmedAt := (Account.invited id mail now).confirmedAt
        confirmation := (Account.invited id mail now).confirmation
        confirmationExpiresAt := (Account.invited id mail now).confirmationExpiresAt })
      (Account.invited id mail now) = some table := by
  refine Table.exists_upsert (fun _ _ _ => rfl) (fun a b hclash => ?_) fun habsent => ⟨rfl, ?_⟩
  · simp only [Schema.clash] at hclash ⊢
    split at hclash <;> split at hclash <;> exact hclash
  · intro stored hstored
    have hid : stored.id ≠ id := of_decide_eq_false (habsent stored hstored)
    simp [Schema.clash, hid, isUnclaimed_iff.1 hmail stored hstored, Account.invited]

theorem exec_save_invited (hmail : db.IsUnclaimed mail) :
    database.exec (.accounts (.save (Account.invited id mail now))) db =
      (.ok (), db.withAccount (Account.invited id mail now)) := by
  obtain ⟨table, htable⟩ := exists_upsert_invited hmail
  refine Prod.ext ?_ rfl
  simp only [exec_accounts, AccountCall.exec]
  rw [htable]
  rfl

/-- Saving an invited account writes something exactly if the registry lacks it. -/
theorem withAccount_eq_self_iff (hmail : db.IsUnclaimed mail) :
    db.withAccount (Account.invited id mail now) = db ↔
        ¬ db.LacksAccount (Account.invited id mail now) := by
  obtain ⟨table, htable⟩ := exists_upsert_invited hmail
  have hsaved : db.withAccount (Account.invited id mail now) = { db with accounts := table } := by
    rw [Database.withAccount, exec_accounts, AccountCall.exec, htable]
    rfl
  have hsame : db.withAccount (Account.invited id mail now) = db ↔ table = db.accounts := by
    rw [hsaved]
    exact ⟨fun h => congrArg Database.accounts h, fun h => by rw [h]⟩
  rw [hsame, Table.upsert_eq_self_iff htable, Database.LacksAccount]
  have hunclaimed : db.IsUnclaimed (Account.invited id mail now).mail := hmail
  simp only [decide_eq_true_eq, hunclaimed, true_and, not_not]
  constructor
  · rintro ⟨⟨row, hrow, hid⟩, hall⟩
    have hchange := hall row hrow hid
    refine ⟨row, hrow, hid, ?_, ?_, ?_⟩
    · exact (congrArg Account.confirmedAt hchange).symm
    · exact (congrArg Account.confirmation hchange).symm
    · exact (congrArg Account.confirmationExpiresAt hchange).symm
  · rintro ⟨row, hrow, hid, hconfirmed, hsecret, hexpires⟩
    refine ⟨⟨row, hrow, hid⟩, fun other hother hsameId => ?_⟩
    obtain rfl : other = row := db.accounts.eq_of_clash hother hrow
      (by simp [Schema.clash, hsameId, hid])
    rw [← hconfirmed, ← hsecret, ← hexpires]

/-- The account is the one that is found, or one that is saved. -/
theorem refusesInto_accountOf_bind {β : Type} {next : Account → Scenario β} :
    RefusesInto start (accountOf drawn mail now >>= next) db ↔
      (∀ account, db.accounts.find? (·.mail = mail) = some account →
        RefusesInto start (next account) db) ∧
      (db.IsUnclaimed mail → RefusesInto start (next (Account.invited drawn.personId mail now))
        (db.withAccount (Account.invited drawn.personId mail now))) := by
  rw [accountOf, bind_bind, refusesInto_ask_bind]
  cases hfound : db.accounts.find? (·.mail = mail) with
  | some account =>
    have hclaimed : ¬ db.IsUnclaimed mail := by simp [Database.IsUnclaimed, hfound]
    constructor
    · intro h
      refine ⟨fun other hother => ?_, fun hnone => absurd hnone hclaimed⟩
      obtain rfl := Option.some.inj hother
      exact h (some account) db (Prod.ext (congrArg Except.ok hfound) rfl)
    · rintro ⟨h, -⟩ answer db' hexec
      obtain ⟨hanswer, rfl⟩ := Prod.mk.inj hexec
      obtain rfl := hfound.symm.trans (Except.ok.inj hanswer)
      exact h account rfl
  | none =>
    have hunclaimed : db.IsUnclaimed mail := hfound
    have hsave : RefusesInto start ((do
        ask (.accounts (.save (Account.invited drawn.personId mail now)))
        pure (Account.invited drawn.personId mail now)) >>= next) db ↔
          RefusesInto start (next (Account.invited drawn.personId mail now))
            (db.withAccount (Account.invited drawn.personId mail now)) := by
      rw [bind_bind, refusesInto_ask_bind]
      refine ⟨fun h => h () _ (exec_save_invited hunclaimed), fun h answer db' hexec => ?_⟩
      rw [exec_save_invited hunclaimed] at hexec
      rwa [← (Prod.mk.inj hexec).2]
    constructor
    · intro h
      refine ⟨by simp, fun _ => hsave.1 ?_⟩
      exact h none db (Prod.ext (congrArg Except.ok hfound) rfl)
    · rintro ⟨-, h⟩ answer db' hexec
      obtain ⟨hanswer, rfl⟩ := Prod.mk.inj hexec
      obtain rfl := hfound.symm.trans (Except.ok.inj hanswer)
      exact hsave.2 (h hunclaimed)

/-- What comes after the account is refused too late for some reason, or leaves a trace of its own:
then the whole leaves one where the account was lacking, or in any case. -/
theorem leavesNoTrace_accountOf_bind_iff {β : Type} {next : Account → Scenario β}
    {late other : Prop}
    (hnext : ∀ account db',
      db' = db ∨ db' = db.withAccount (Account.invited drawn.personId mail now) →
      (RefusesInto db (next account) db' ↔ (late → db' = db) ∧ ¬ other)) :
    LeavesNoTrace (accountOf drawn mail now >>= next) db ↔
      ¬ (db.LacksAccount (Account.invited drawn.personId mail now) ∧ late ∨ other) := by
  rw [LeavesNoTrace, refusesInto_accountOf_bind, not_or]
  cases hfound : db.accounts.find? (·.mail = mail) with
  | some account =>
    have hclaimed : ¬ db.IsUnclaimed mail := by simp [Database.IsUnclaimed, hfound]
    constructor
    · rintro ⟨h, -⟩
      refine ⟨fun hlacks => hclaimed hlacks.1.1, ((hnext account db (Or.inl rfl)).1 ?_).2⟩
      exact h account rfl
    · rintro ⟨-, hother⟩
      refine ⟨fun found _ => ?_, fun hunclaimed => absurd hunclaimed hclaimed⟩
      exact (hnext found db (Or.inl rfl)).2 ⟨fun _ => rfl, hother⟩
  | none =>
    have hunclaimed : db.IsUnclaimed mail := hfound
    have hsaved := hnext (Account.invited drawn.personId mail now) _ (Or.inr rfl)
    rw [withAccount_eq_self_iff hunclaimed] at hsaved
    constructor
    · rintro ⟨-, h⟩
      obtain ⟨hlate, hother⟩ := hsaved.1 (h hunclaimed)
      exact ⟨fun h => hlate h.2 h.1, hother⟩
    · rintro ⟨hlate, hother⟩
      exact ⟨by simp, fun _ => hsaved.2 ⟨fun hreached hlacks => hlate ⟨hlacks, hreached⟩, hother⟩⟩

end Saved

/-! ### The three scenarios -/

section Scenarios

variable {ports : AuthPorts} {drawn : Drawn} {db start : Database}

/-- Somebody of the tenant has the mail. -/
def Database.KnowsMail (tenant : TenantId) (mail : Email) (db : Database) : Prop :=
  ∃ row ∈ db.people.rows, row.tenant = tenant ∧ row.mail = some mail

/-- The tenant has a practice. -/
def Database.HasPractice (tenant : TenantId) (db : Database) : Prop :=
  ∃ row ∈ db.practices.rows, row.practice.tenant = tenant

/-- An enrolment is refused for a mail that is somebody's, and then nothing is written. -/
theorem enrol_eq_refused {tenant : TenantId} {enrolment : Enrolment} {people : Table PersonRow}
    {roles : Table RoleRow} {roleIds : Role → StrongId .roleAssignment} {failure : Error}
    (h : (DirectoryCall.exec (.enrol tenant enrolment roleIds) (people, roles)).1 =
      .ok (.error failure)) :
    (∃ row ∈ people.rows, row.tenant = tenant ∧ enrolment.person.mail.isSome = true ∧
      row.mail = enrolment.person.mail) ∧
    (DirectoryCall.exec (.enrol tenant enrolment roleIds) (people, roles)).2 = (people, roles) := by
  cases hinsert : people.insertUnless (fun other => other.tenant = tenant &&
      (DirectoryCall.personRow tenant enrolment).mail.isSome &&
        other.mail = (DirectoryCall.personRow tenant enrolment).mail)
      (DirectoryCall.personRow tenant enrolment) with
  | none => simp [DirectoryCall.exec, hinsert] at h
  | some inserted =>
    obtain ⟨isNew, people'⟩ := inserted
    rcases Table.insertUnless_cases hinsert with ⟨rfl, hany, -⟩ | ⟨rfl, -, -⟩
    · refine ⟨?_, by simp [DirectoryCall.exec, hinsert]⟩
      obtain ⟨row, hrow, htaken⟩ := hany
      simp only [DirectoryCall.personRow, Bool.and_eq_true, decide_eq_true_eq, and_assoc] at htaken
      exact ⟨row, hrow, htaken.1, htaken.2.1, of_decide_eq_true htaken.2.2⟩
    · cases hgrant : DirectoryCall.grantRoles tenant enrolment roleIds roles <;>
        simp [DirectoryCall.exec, hinsert, hgrant] at h

/-- An enrolment with a mail is refused exactly if somebody of the tenant has it. -/
theorem refusesInto_enrol_bind {β : Type} {tenant : TenantId} {enrolment : Enrolment} {mail : Email}
    {roleIds : Role → StrongId .roleAssignment} {next : Unit → Scenario β}
    (hmail : enrolment.person.mail = some mail)
    (hnext : ∀ db', RefusesInto start (next ()) db') :
    RefusesInto start (do
        let enrolled ← ask (.directory (.enrol tenant enrolment roleIds))
        accept enrolled >>= next) db ↔
      (db.KnowsMail tenant mail → db = start) := by
  have htaken : (db.people.rows.any fun other => other.tenant = tenant &&
      (DirectoryCall.personRow tenant enrolment).mail.isSome &&
        other.mail = (DirectoryCall.personRow tenant enrolment).mail) = true ↔
      db.KnowsMail tenant mail := by
    simp [DirectoryCall.personRow, hmail, Database.KnowsMail]
  rw [refusesInto_ask_bind]
  constructor
  · intro h hknows
    have hexec : database.exec (.directory (.enrol tenant enrolment roleIds)) db =
        (.ok (.error DirectoryCall.participantEmailTaken), db) := by
      simp only [exec_directory, DirectoryCall.exec, Table.insertUnless, htaken.2 hknows, if_true]
    exact (refusesInto_accept_bind.1 (h _ db hexec)).1 ⟨_, rfl⟩
  · intro h enrolled db' hexec
    refine refusesInto_accept_bind.2 ⟨?_, fun _ _ => hnext db'⟩
    rintro ⟨failure, rfl⟩
    rw [exec_directory] at hexec
    obtain ⟨hanswer, rfl⟩ := Prod.mk.inj hexec
    obtain ⟨⟨row, hrow, htenant, -, hsame⟩, hnothing⟩ := enrol_eq_refused hanswer
    rw [hnothing]
    exact h ⟨row, hrow, htenant, hsame.trans hmail⟩

/-- The link leads to an invitation that can be used, and the password and the settings are in
order. -/
def AcceptInvitationRequest.IsInOrder (ports : AuthPorts) (drawn : Drawn)
    (request : AcceptInvitationRequest) (db : Database) : Prop :=
  ∃ rules lifetimes found used chosen hash, ports.settings.passwords = .ok rules ∧
    ports.settings.lifetimes = .ok lifetimes ∧
    (db.tokens.find? fun row => row.tenant = request.tenant &&
      row.secret = ports.digests request.secret.value) = some found ∧
    found.purpose = .invitation ∧ found.used (drawn.clock 0) = .ok used ∧
    Password.chosen request.password rules = .ok chosen ∧
    ports.hasher.hash drawn.salt chosen rules = .ok hash

/-- An invitation that is refused leaves a trace exactly if everything was in order with it but that
the mail is somebody's in the tenant, while the registry has nobody under it. -/
theorem acceptInvitation_leavesNoTrace_iff (ports : AuthPorts) (drawn : Drawn)
    (request : AcceptInvitationRequest) (db : Database) :
    LeavesNoTrace (acceptInvitation ports drawn request) db ↔
      ¬ (request.IsInOrder ports drawn db ∧
        db.LacksAccount (Account.invited drawn.personId (ports.digests request.mail.value)
          (drawn.clock 0)) ∧
        db.KnowsMail request.tenant request.mail) := by
  have hfollow : ∀ rules lifetimes found (invitation : found.purpose = .invitation),
      RefusesInto db (followInvitation ports drawn rules lifetimes request found invitation) db ↔
        ∀ used, found.used (drawn.clock 0) = .ok used →
          ∀ chosen, Password.chosen request.password rules = .ok chosen →
            ∀ hash, ports.hasher.hash drawn.salt chosen rules = .ok hash →
              ¬ (db.LacksAccount (Account.invited drawn.personId
                  (ports.digests request.mail.value) (drawn.clock 0)) ∧
                db.KnowsMail request.tenant request.mail) := by
    intro rules lifetimes found invitation
    simp only [followInvitation, refusesInto_accept_bind, implies_true, true_and]
    refine forall₂_congr fun used _ => forall₂_congr fun chosen _ => forall₂_congr fun hash _ => ?_
    refine (leavesNoTrace_accountOf_bind_iff fun account db' hdb' => ?_).trans (by rw [or_false])
    have hknows : db'.KnowsMail request.tenant request.mail ↔
        db.KnowsMail request.tenant request.mail := by
      rcases hdb' with rfl | rfl <;> rfl
    rw [← hknows, not_false_eq_true, and_true]
    refine refusesInto_enrol_bind rfl fun db₁ => ?_
    refine refusesInto_ask_bind.2 fun _ db₂ _ => refusesInto_ask_bind.2 fun _ db₃ _ => ?_
    exact refusesInto_openSession lifetimes drawn request.tenant account.id _ request.seen
  rw [LeavesNoTrace, acceptInvitation, refusesInto_accept_bind]
  simp only [refusesInto_accept_bind, implies_true, true_and]
  constructor
  · rintro h ⟨⟨rules, lifetimes, found, used, chosen, hash, hrules, hlifetimes, hfound, hpurpose,
      hused, hchosen, hhash⟩, hleft⟩
    have hfind := refusesInto_ask_bind.1 (h rules hrules lifetimes hlifetimes) (some found) db
      (Prod.ext (congrArg Except.ok hfound) rfl)
    dsimp only at hfind
    rw [dif_pos hpurpose] at hfind
    exact (hfollow rules lifetimes found hpurpose).1 hfind used hused chosen hchosen hash hhash
      hleft
  · intro h rules hrules lifetimes hlifetimes
    refine refusesInto_ask_bind.2 fun answer db' hexec => ?_
    obtain ⟨hanswer, rfl⟩ := Prod.mk.inj hexec
    cases answer with
    | none => exact (refusesInto_refuse invitationUnknown).2 rfl
    | some found =>
      dsimp only
      split
      · rename_i hpurpose
        refine (hfollow rules lifetimes found hpurpose).2 fun used hused chosen hchosen hash hhash
          hleft => h ⟨⟨rules, lifetimes, found, used, chosen, hash, hrules, hlifetimes, ?_,
            hpurpose, hused, hchosen, hhash⟩, hleft⟩
        exact Except.ok.inj hanswer
      · exact (refusesInto_refuse invitationUnknown).2 rfl

/-- The password and the settings are in order. -/
def OpenPracticeRequest.IsInOrder (ports : AuthPorts) (drawn : Drawn)
    (request : OpenPracticeRequest) : Prop :=
  ∃ rules lifetimes chosen hash, ports.settings.passwords = .ok rules ∧
    ports.settings.lifetimes = .ok lifetimes ∧ Password.chosen request.password rules = .ok chosen ∧
    ports.hasher.hash drawn.salt chosen rules = .ok hash

/-- The row of the practice that is opened. -/
def OpenPracticeRequest.row (drawn : Drawn) (request : OpenPracticeRequest) : PracticeRow :=
  ⟨trimmed request.practiceName, request.zone, Practice.opened drawn.tenantId (drawn.clock 0)⟩

/-- Opening a practice is refused when the tenant has one, and what comes after it otherwise. -/
theorem refusesInto_openPractice_bind {β : Type} {tenant : Tenant} {zone : TimeZone}
    {practice : Practice} {next : Unit → Scenario β} (taken : Prop)
    (htenant : practice.tenant = tenant.id)
    (hnext : ∀ table, db.practices.insert ⟨tenant.name, zone, practice⟩ = some table →
      (RefusesInto start (next ()) { db with practices := table } ↔ ¬ taken)) :
    RefusesInto start (do
        let opened ← ask (.practices (.open_ tenant zone practice))
        accept opened >>= next) db ↔
      (db.HasPractice tenant.id → db = start) ∧
        ¬ (¬ db.HasPractice tenant.id ∧
          Schema.check (⟨tenant.name, zone, practice⟩ : PracticeRow) = true ∧ taken) := by
  rw [refusesInto_ask_bind]
  by_cases hhas : db.HasPractice tenant.id
  · have hexec : database.exec (.practices (.open_ tenant zone practice)) db =
        (.ok (.error PracticeCall.practiceAlreadyOpen), db) := by
      have hany : (db.practices.rows.any fun row => row.practice.tenant = tenant.id) = true := by
        simpa [Database.HasPractice] using hhas
      simp only [exec_practices, PracticeCall.exec, Table.insertUnless, hany, if_true]
    simp only [hexec, hhas, not_true, false_and, not_false_eq_true, and_true, true_implies]
    constructor
    · intro h
      exact (refusesInto_accept_bind.1 (h _ db rfl)).1 ⟨_, rfl⟩
    · rintro rfl answer db' hsame
      obtain ⟨hanswer, rfl⟩ := Prod.mk.inj hsame
      obtain rfl := Except.ok.inj hanswer
      exact refusesInto_accept_bind.2 ⟨fun _ => rfl, by simp⟩
  · have hnone : (db.practices.rows.any fun row => row.practice.tenant = tenant.id) = false := by
      simpa [Database.HasPractice] using hhas
    have hclash : ∀ stored ∈ db.practices.rows,
        Schema.clash stored ⟨tenant.name, zone, practice⟩ = false := by
      intro stored hstored
      have hother : stored.practice.tenant ≠ tenant.id := fun h => hhas ⟨stored, hstored, h⟩
      simpa [Schema.clash, htenant] using hother
    simp only [hhas, false_implies, not_false_eq_true, true_and, not_and]
    constructor
    · intro h hcheck
      obtain ⟨table, htable⟩ := Table.exists_insert hcheck hclash
      refine (hnext table htable).1 ?_
      have hexec : database.exec (.practices (.open_ tenant zone practice)) db =
          (.ok (.ok ()), { db with practices := table }) := by
        simp only [exec_practices, PracticeCall.exec, Table.insertUnless, hnone, htable,
          Option.map_some, Bool.false_eq_true, if_false]
      exact (refusesInto_accept_bind.1 (h _ _ hexec)).2 () rfl
    · intro h opened db' hexec
      simp only [exec_practices, PracticeCall.exec, Table.insertUnless, hnone, Bool.false_eq_true,
        if_false] at hexec
      cases htable : db.practices.insert ⟨tenant.name, zone, practice⟩ with
      | none => simp [htable] at hexec
      | some table =>
        simp only [htable, Option.map_some, Prod.mk.injEq, Except.ok.injEq] at hexec
        obtain ⟨rfl, rfl⟩ := hexec
        refine refusesInto_accept_bind.2 ⟨by simp, fun _ _ => (hnext table htable).2 (h ?_)⟩
        exact table.checked _ ((Table.mem_insert htable _).2 (Or.inr rfl))

/-- A practice that is refused leaves a trace exactly if the registry lacked the account and the
practice has no name or an identifier that is taken, or if the practice was opened and the mail is
somebody's in it. -/
theorem openPractice_leavesNoTrace_iff (ports : AuthPorts) (drawn : Drawn)
    (request : OpenPracticeRequest) (db : Database) :
    LeavesNoTrace (openPractice ports drawn request) db ↔
      ¬ (request.IsInOrder ports drawn ∧
        (db.LacksAccount (Account.invited drawn.personId (ports.digests request.mail.value)
            (drawn.clock 0)) ∧
          (trimmed request.practiceName = [] ∨ db.HasPractice drawn.tenantId) ∨
        trimmed request.practiceName ≠ [] ∧ ¬ db.HasPractice drawn.tenantId ∧
          Schema.check (request.row drawn) = true ∧ db.KnowsMail drawn.tenantId request.mail)) := by
  have haccount : ∀ lifetimes hash, LeavesNoTrace (do
      let account ← accountOf drawn (ports.digests request.mail.value) (drawn.clock 0)
      let practice ← accept (Tenant.compose drawn.tenantId request.practiceName)
      let opened ← ask (.practices (.open_ practice request.zone
        (Practice.opened practice.id (drawn.clock 0))))
      accept opened
      let enrolled ← ask (.directory (.enrol practice.id
        ⟨⟨account.id, some request.mail, request.bornOn⟩, BitSet.ofList [.owner, .tutor],
          request.displayName, request.zone⟩ drawn.roleIds))
      accept enrolled
      ask (.credentials (.save practice.id account.id hash))
      let session ← openSession lifetimes drawn practice.id account.id (drawn.clock 0) request.seen
      return (⟨practice.id, account.id, session⟩ : OpenedPractice)) db ↔
        ¬ (db.LacksAccount (Account.invited drawn.personId (ports.digests request.mail.value)
            (drawn.clock 0)) ∧
          (trimmed request.practiceName = [] ∨ db.HasPractice drawn.tenantId) ∨
        trimmed request.practiceName ≠ [] ∧ ¬ db.HasPractice drawn.tenantId ∧
          Schema.check (request.row drawn) = true ∧
            db.KnowsMail drawn.tenantId request.mail) := by
    intro lifetimes hash
    refine leavesNoTrace_accountOf_bind_iff fun account db' hdb' => ?_
    have hpractices : db'.practices = db.practices := by rcases hdb' with rfl | rfl <;> rfl
    have hpeople : db'.people = db.people := by rcases hdb' with rfl | rfl <;> rfl
    rw [refusesInto_accept_bind, Tenant.compose]
    by_cases hname : trimmed request.practiceName = []
    · simp [hname]
    · simp only [if_false, reduceCtorEq, exists_false, false_implies, true_and,
        Except.ok.injEq, forall_eq', hname, false_or, ne_eq, not_false_eq_true]
      have hhas : db'.HasPractice drawn.tenantId ↔ db.HasPractice drawn.tenantId := by
        rw [Database.HasPractice, Database.HasPractice, hpractices]
      rw [← hhas]
      refine refusesInto_openPractice_bind (db.KnowsMail drawn.tenantId request.mail) rfl
        fun table htable => ?_
      refine (refusesInto_enrol_bind rfl fun db₁ => ?_).trans ?_
      · refine refusesInto_ask_bind.2 fun _ db₂ _ => ?_
        refine RefusesInto.bind (refusesInto_openSession lifetimes drawn drawn.tenantId account.id _
          request.seen) fun session db₃ => ?_
        exact (refusesInto_done _).2 trivial
      · -- The practice is written already, so a refusal leaves a trace.
        have hwritten : { db' with practices := table } ≠ db := by
          intro hsame
          have htaken : table = db.practices := congrArg Database.practices hsame
          have hrows := Table.rows_of_insert htable
          rw [hpractices, htaken] at hrows
          simpa using congrArg List.length hrows
        have hknows : { db' with practices := table }.KnowsMail drawn.tenantId request.mail ↔
            db.KnowsMail drawn.tenantId request.mail := by
          rw [Database.KnowsMail, Database.KnowsMail, ← hpeople]
        simp only [hknows, hwritten, imp_false]
  rw [LeavesNoTrace, openPractice, refusesInto_accept_bind]
  simp only [refusesInto_accept_bind, implies_true, true_and]
  constructor
  · rintro h ⟨⟨rules, lifetimes, chosen, hash, hrules, hlifetimes, hchosen, hhash⟩, hleft⟩
    exact (haccount lifetimes hash).1
      (h rules hrules lifetimes hlifetimes chosen hchosen hash hhash) hleft
  · intro h rules hrules lifetimes hlifetimes chosen hchosen hash hhash
    refine (haccount lifetimes hash).2 fun hleft => h ⟨?_, hleft⟩
    exact ⟨rules, lifetimes, chosen, hash, hrules, hlifetimes, hchosen, hhash⟩

/-- An invitation to the mail is refused: the settings are broken, a live one is there, or the
secret that was drawn has no proper form. -/
def InvitationIsRefused (ports : AuthPorts) (drawn : Drawn) (tenant : TenantId) (mail : Email)
    (db : Database) : Prop :=
  (∃ failure, ports.settings.lifetimes = .error failure) ∨
  (∃ row ∈ db.tokens.rows, row.tenant = tenant ∧ row.purpose = .invitation ∧
    row.invited = some (ports.digests mail.value) ∧ row.usedAt = none ∧
      drawn.clock 0 < row.expiresAt) ∨
  ∃ failure, TokenSecret.parse drawn.tokenText = .error failure

/-- An invitation that is refused has written nothing itself. -/
theorem refusesInto_inviteParticipant_iff {tenant : TenantId} {role : Role} {mail : Email} :
    RefusesInto start (inviteParticipant ports drawn tenant role (some mail)) db ↔
      (InvitationIsRefused ports drawn tenant mail db → db = start) := by
  rw [inviteParticipant, refusesInto_accept_bind, InvitationIsRefused, or_imp]
  refine and_congr_right fun hbroken => ?_
  have hissue : ∀ lifetimes : AuthLifetimes, RefusesInto start (do
      let secret ← accept (TokenSecret.parse drawn.tokenText)
      let token ← accept (OneTimeToken.invitation drawn.tokenId tenant (ports.digests secret.value)
        role (some (ports.digests mail.value)) (drawn.clock 1) lifetimes.invitation)
      ask (.tokens (.issue token))
      return (⟨token, secret⟩ : IssuedLink)) db ↔
        ((∃ failure, TokenSecret.parse drawn.tokenText = .error failure) → db = start) := by
    intro lifetimes
    rw [refusesInto_accept_bind]
    refine and_iff_left fun secret _ => refusesInto_accept_bind.2 ⟨?_, fun token _ => ?_⟩
    · rintro ⟨failure, hfailure⟩
      rw [OneTimeToken.invitation, if_neg (not_le.2 lifetimes.positive.2.1)] at hfailure
      cases hfailure
    · refine refusesInto_ask_bind.2 fun _ db' _ => ?_
      exact (refusesInto_done _).2 trivial
  have hlive : (∃ row ∈ db.tokens.rows, row.tenant = tenant ∧ row.purpose = .invitation ∧
      row.invited = some (ports.digests mail.value) ∧ row.usedAt = none ∧
        drawn.clock 0 < row.expiresAt) ↔
      (db.tokens.find? fun row => row.tenant = tenant && row.purpose = .invitation &&
        row.invited = some (ports.digests mail.value) && row.usedAt.isNone &&
          drawn.clock 0 < row.expiresAt).isSome = true := by
    simp [Table.find?, and_assoc]
  rw [hlive, or_imp]
  cases hlifetimes : ports.settings.lifetimes with
  | error failure =>
    have hsame := hbroken ⟨failure, hlifetimes⟩
    exact ⟨fun _ => ⟨fun _ => hsame, fun _ => hsame⟩, by simp⟩
  | ok lifetimes =>
    simp only [Except.ok.injEq, forall_eq', Option.map_some]
    rw [refuseIfInvited, bind_bind, refusesInto_ask_bind, ← hissue lifetimes]
    cases hfound : db.tokens.find? fun row => row.tenant = tenant && row.purpose = .invitation &&
        row.invited = some (ports.digests mail.value) && row.usedAt.isNone &&
          drawn.clock 0 < row.expiresAt with
    | some row =>
      constructor
      · intro h
        have hsame : db = start := (refusesInto_refuse _).1
          (h (some row) db (Prod.ext (congrArg Except.ok hfound) rfl))
        exact ⟨fun _ => hsame, (hissue lifetimes).2 fun _ => hsame⟩
      · rintro ⟨hrefused, -⟩ answer db' hexec
        obtain ⟨hanswer, rfl⟩ := Prod.mk.inj hexec
        obtain rfl := hfound.symm.trans (Except.ok.inj hanswer)
        exact (refusesInto_refuse _).2 (hrefused rfl)
    | none =>
      constructor
      · intro h
        exact ⟨by simp, h none db (Prod.ext (congrArg Except.ok hfound) rfl)⟩
      · rintro ⟨-, h⟩ answer db' hexec
        obtain ⟨hanswer, rfl⟩ := Prod.mk.inj hexec
        obtain rfl := hfound.symm.trans (Except.ok.inj hanswer)
        exact h

/-- A mail that is attached in vain leaves a trace exactly if the registry lacked the account and
the invitation is refused. -/
theorem attachAccount_leavesNoTrace_iff (ports : AuthPorts) (drawn : Drawn) (tenant : TenantId)
    (child : PersonId) (mail : Email) (db : Database) :
    LeavesNoTrace (attachAccount ports drawn tenant child mail) db ↔
      ¬ (db.LacksAccount (Account.invited child (ports.digests mail.value) (drawn.clock 0)) ∧
        InvitationIsRefused ports (drawn.later 1) tenant mail db) := by
  rw [LeavesNoTrace, attachAccount, claimMail, bind_bind, refusesInto_ask_bind]
  cases hfound : db.accounts.find? (·.mail = ports.digests mail.value) with
  | some existing =>
    have hclaimed : ¬ db.IsUnclaimed (ports.digests mail.value) := by
      simp [Database.IsUnclaimed, hfound]
    refine iff_of_true (fun answer db' hexec => ?_) fun h => hclaimed h.1.1
    obtain ⟨hanswer, rfl⟩ := Prod.mk.inj hexec
    obtain rfl := hfound.symm.trans (Except.ok.inj hanswer)
    dsimp only
    split
    · exact (refusesInto_refuse accountBelongsToAnother).2 rfl
    · exact refusesInto_inviteParticipant_iff.2 fun _ => rfl
  | none =>
    have hunclaimed : db.IsUnclaimed (ports.digests mail.value) := hfound
    have hsave : RefusesInto db (ask (.accounts (.save (Account.invited child
        (ports.digests mail.value) (drawn.clock 0)))) >>= fun _ =>
          inviteParticipant ports (drawn.later 1) tenant .student (some mail)) db ↔
        (InvitationIsRefused ports (drawn.later 1) tenant mail db →
          ¬ db.LacksAccount
            (Account.invited child (ports.digests mail.value) (drawn.clock 0))) := by
      rw [refusesInto_ask_bind, ← withAccount_eq_self_iff hunclaimed]
      refine Iff.trans
        ⟨fun h => h () _ (exec_save_invited hunclaimed), fun h answer db' hexec => ?_⟩
        refusesInto_inviteParticipant_iff
      rw [exec_save_invited hunclaimed] at hexec
      rwa [← (Prod.mk.inj hexec).2]
    constructor
    · rintro h ⟨hlacks, hrefused⟩
      exact hsave.1 (h none db (Prod.ext (congrArg Except.ok hfound) rfl)) hrefused hlacks
    · intro h answer db' hexec
      obtain ⟨hanswer, rfl⟩ := Prod.mk.inj hexec
      obtain rfl := hfound.symm.trans (Except.ok.inj hanswer)
      exact hsave.2 fun hrefused hlacks => h ⟨hlacks, hrefused⟩

end Scenarios

/-! ### Accounts of nobody -/

theorem not_leavesNoTrace {α : Type} {scenario : Scenario α} {db : Database} {failure : Error}
    (hrefused : (scenario.run database db).1 = .error (.refused failure))
    (hmore : (scenario.run database db).2.accounts.rows.length ≠ db.accounts.rows.length) :
    ¬ LeavesNoTrace scenario db := by
  intro h
  have hsame := h failure _ (Prod.ext hrefused rfl)
  exact hmore (congrArg (fun db => db.accounts.rows.length) hsame)

/-- A practice whose name is one space. -/
def namelessPractice : OpenPracticeRequest :=
  { practiceOpened (mailOf (ascii "a@b.c")) with practiceName := ascii " " }

/-- The child was enrolled, and an invitation was sent to the mail. -/
def childMailInvited : Database :=
  ((inviteParticipant standIn (drawnAt 20 3) (repeated 7) .student (some childMail)).run database
    childHome.2).2

end Pdr.Identity
