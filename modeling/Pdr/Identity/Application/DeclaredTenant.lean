import Pdr.Identity.Application.ConfirmedMail
import Pdr.Identity.Store.Scope

/-!
# Opening a practice inside a scope

`OpenPractice::Execute` draws the tenant of the new practice in the middle of its run, and the
stores it is given work in the scope of a tenant that was declared before it began. A tenant
that is new is not the declared one, so the policy of `identity_tenant` rejects the row of the
practice: no practice is ever opened in a scope, and what ends without an exception has ended
with a refusal before that row.

Where the scope was opened for the very tenant that is drawn, as the description of tenancy
asks for, the policies are in nobody's way.

## Main definitions

* `Pdr.Identity.OpensIn`: what opening a practice in a scope ought to come to.
* `Pdr.Identity.IsReadyToOpen`: no refusal stands before the row of the practice.

## Main results

* `Pdr.Identity.opensIn_iff`: in the scope of another tenant all goes well exactly if the
  request is refused before there is anything to store.
* `Pdr.Identity.run_openPractice_in_own_scope`: in the scope of the drawn tenant the policies
  change nothing.
-/

namespace Pdr.Identity

open StoreProgram Program

/-! ### What is asked for -/

/-- The tenant, the person, his roles, his password and the session are stored under the
tenant of the practice. -/
structure OpenedPractice.IsStored (opened : OpenedPractice) (db : Database) : Prop where
  tenant : ∃ row ∈ db.practices.rows, row.practice.tenant = opened.tenant
  person : ∃ row ∈ db.people.rows, row.tenant = opened.tenant ∧ row.id = opened.owner
  roles : ∀ role ∈ [Role.owner, Role.tutor], ∃ row ∈ db.roles.rows,
    row.tenant = opened.tenant ∧ row.person = opened.owner ∧ row.role = role
  credential : ∃ row ∈ db.credentials.rows,
    row.tenant = opened.tenant ∧ row.person = opened.owner
  session : opened.session ∈ db.sessions.rows ∧ opened.session.id.tenant = opened.tenant

/-- No statement of the execution in the scope is rejected; a practice that is opened is
stored, and the rows of all other tenants are what they were. -/
def OpensIn (declared : TenantId) (ports : AuthPorts) (drawn : Drawn)
    (request : OpenPracticeRequest) (db : Database) : Prop :=
  let done := (openPractice ports drawn request).run (inScope declared) db
  (∀ exception, done.1 ≠ .error (.thrown exception)) ∧
    ∀ opened, done.1 = .ok opened → opened.IsStored done.2 ∧ db.SameBeyond opened.tenant done.2

/-- The identifiers the execution draws are new to the scope and to the registry. -/
structure Drawn.IsFreshIn (drawn : Drawn) (declared : TenantId) (db : Database) : Prop where
  tenant : drawn.tenantId ≠ declared
  person : ∀ row ∈ db.accounts.rows, row.id ≠ drawn.personId

/-- The settings are in order, the password is taken and hashed, and the practice has a name:
no refusal stands before the row of the practice. -/
def IsReadyToOpen (ports : AuthPorts) (drawn : Drawn) (request : OpenPracticeRequest) : Prop :=
  (∃ lifetimes, ports.settings.lifetimes = .ok lifetimes) ∧
    TakesPassword ports drawn request.password ∧ trimmed request.practiceName ≠ []

/-! ### The account -/

section Scope

variable {declared : TenantId} {ports : AuthPorts} {drawn : Drawn} {db : Database}

variable (declared) in
/-- An account with a new identifier and a mail that has no account is taken. -/
theorem exists_save_invited {mail : Digest} (now : Int)
    (hmail : db.IsUnclaimed mail)
    (hperson : ∀ row ∈ db.accounts.rows, row.id ≠ drawn.personId) :
    ∃ db', (inScope declared).exec (.accounts (.save (Account.invited drawn.personId mail now)))
      db = (.ok (), db') := by
  have hkey : ∀ row ∈ db.accounts.rows, decide (row.id = drawn.personId) = false :=
    fun row hrow => decide_eq_false (hperson row hrow)
  have habsent : db.accounts.rows.any (fun row => decide (row.id = drawn.personId)) = false :=
    List.any_eq_false.2 fun row hrow => Bool.eq_false_iff.1 (hkey row hrow)
  obtain ⟨accounts', hinsert⟩ : ∃ accounts',
      db.accounts.insert (Account.invited drawn.personId mail now) = some accounts' := by
    refine Table.exists_insert rfl fun row hrow => ?_
    have hother : row.mail ≠ mail := fun hsame =>
      List.find?_eq_none.1 hmail row hrow (decide_eq_true hsame)
    exact Bool.or_eq_false_iff.2 ⟨hkey row hrow, decide_eq_false hother⟩
  have hupsert : db.accounts.upsert (·.id = drawn.personId)
      (fun row => { row with
        confirmedAt := some now
        confirmation := none
        confirmationExpiresAt := none })
      (Account.invited drawn.personId mail now) = some accounts' := by
    rw [Table.upsert, habsent]
    exact hinsert
  refine ⟨{ db with accounts := accounts' }, ?_⟩
  simp only [inScope, AccountCall.exec, Account.invited] at hupsert ⊢
  rw [hupsert]
  rfl

variable (declared) in
/-- The registry answers or takes the account, whatever tenant is declared. -/
theorem exists_run_accountOf (mail : Digest) (now : Int)
    (hperson : ∀ row ∈ db.accounts.rows, row.id ≠ drawn.personId) :
    ∃ account db', (accountOf drawn mail now).run (inScope declared) db = (.ok account, db') := by
  have hfind : (inScope declared).exec (.accounts (.findByMail mail)) db =
      (.ok (db.accounts.find? (·.mail = mail)), db) := rfl
  unfold accountOf
  rw [run_bind, run_perform, hfind]
  cases hfound : db.accounts.find? (·.mail = mail) with
  | some account => exact ⟨account, db, rfl⟩
  | none =>
    obtain ⟨db', hsave⟩ := exists_save_invited declared now hfound hperson
    refine ⟨Account.invited drawn.personId mail now, db', ?_⟩
    change (ask _ >>= _).run (inScope declared) db = _
    rw [run_bind, run_perform, hsave]
    rfl

/-! ### The row of the practice -/

/-- A name is accepted if there is anything in it. -/
theorem compose_cases (id : TenantId) (name : Text) :
    (trimmed name = [] ∧ ∃ error, Tenant.compose id name = .error error) ∨
      (trimmed name ≠ [] ∧ Tenant.compose id name = .ok ⟨id, trimmed name⟩) := by
  unfold Tenant.compose
  split
  · rename_i hblank
    exact Or.inl ⟨hblank, _, rfl⟩
  · rename_i hname
    exact Or.inr ⟨hname, rfl⟩

/-- The policy of `identity_tenant` rejects a practice of another tenant. -/
theorem exec_open_elsewhere {tenant : Tenant} {zone : TimeZone} {now : Int}
    (hother : tenant.id ≠ declared) :
    (inScope declared).exec (.practices (.open_ tenant zone (Practice.opened tenant.id now))) db =
      (.error (.thrown (.runtime (policyViolation "identity_tenant"))), db) := by
  have hrejected : db.practices.insertUnlessUnder (PracticeCall.policy declared)
      (fun row => row.practice.tenant = tenant.id)
      ⟨tenant.name, zone, Practice.opened tenant.id now⟩ = .error .byPolicy :=
    if_neg (by simpa [Practice.opened] using hother)
  simp only [inScope, PracticeCall.execIn, hrejected, faultOf]

variable {request : OpenPracticeRequest}

/-- A request that nothing stands against gets as far as the row of the practice, and ends there. -/
theorem run_openPractice_of_isReadyToOpen (fresh : drawn.IsFreshIn declared db)
    (h : IsReadyToOpen ports drawn request) :
    ((openPractice ports drawn request).run (inScope declared) db).1 =
      .error (.thrown (.runtime (policyViolation "identity_tenant"))) := by
  obtain ⟨⟨lifetimes, hlifetimes⟩, ⟨rules, chosen, hash, hrules, hchosen, hhash⟩, hname⟩ := h
  have hcompose : Tenant.compose drawn.tenantId request.practiceName =
      .ok ⟨drawn.tenantId, trimmed request.practiceName⟩ := if_neg hname
  obtain ⟨account, db', haccount⟩ := exists_run_accountOf declared
    (ports.digests request.mail.value) (drawn.clock 0) fresh.person
  simp only [openPractice, hrules, hlifetimes, hchosen, hhash, hcompose, accept_ok, done_bind]
  rw [run_bind, haccount]
  simp only
  rw [run_bind, run_perform, exec_open_elsewhere fresh.tenant]

/-- Any other request is refused, and no statement is rejected. -/
theorem run_openPractice_of_not_isReadyToOpen (fresh : drawn.IsFreshIn declared db)
    (h : ¬ IsReadyToOpen ports drawn request) :
    ∃ error, ((openPractice ports drawn request).run (inScope declared) db).1 =
      .error (.refused error) := by
  unfold openPractice
  cases hrules : ports.settings.passwords with
  | error error => exact ⟨error, rfl⟩
  | ok rules =>
  cases hlifetimes : ports.settings.lifetimes with
  | error error => exact ⟨error, rfl⟩
  | ok lifetimes =>
  cases hchosen : Password.chosen request.password rules with
  | error error => exact ⟨error, by simp [hchosen]⟩
  | ok chosen =>
  cases hhash : ports.hasher.hash drawn.salt chosen rules with
  | error error => exact ⟨error, by simp [hchosen, hhash]⟩
  | ok hash =>
  rcases compose_cases drawn.tenantId request.practiceName with
    ⟨-, error, hcompose⟩ | ⟨hname, -⟩
  · refine ⟨error, ?_⟩
    obtain ⟨account, db', haccount⟩ := exists_run_accountOf declared
      (ports.digests request.mail.value) (drawn.clock 0) fresh.person
    simp only [hchosen, hhash, hcompose, accept_ok, accept_error, done_bind, raise_bind]
    rw [run_bind, haccount]
    rfl
  · exact absurd ⟨⟨lifetimes, hlifetimes⟩, ⟨rules, chosen, hash, hrules, hchosen, hhash⟩, hname⟩ h

/-- In the scope of a tenant declared before the execution, a practice is opened as it ought
to be exactly if the request is refused before there is anything to store. -/
theorem opensIn_iff (fresh : drawn.IsFreshIn declared db) :
    OpensIn declared ports drawn request db ↔ ¬ IsReadyToOpen ports drawn request := by
  constructor
  · rintro ⟨hnone, -⟩ hready
    exact hnone _ (run_openPractice_of_isReadyToOpen fresh hready)
  · intro hrefused
    obtain ⟨error, hdone⟩ := run_openPractice_of_not_isReadyToOpen fresh hrefused
    refine ⟨fun exception hthrown => ?_, fun opened hopened => ?_⟩
    · rw [hdone] at hthrown
      cases hthrown
    · rw [hdone] at hopened
      cases hopened

end Scope

theorem isFreshIn_worked : (drawnAt 10 3).IsFreshIn (repeated 7) {} := ⟨by decide, nofun⟩

/-- A nameless practice is refused in the scope of another tenant, as it ought to be. -/
theorem nameless_practice_opensIn :
    OpensIn (repeated 7) standIn (drawnAt 10 3)
      { practiceOpened ownerMail with practiceName := ascii " " } {} := by
  refine (opensIn_iff isFreshIn_worked).2 ?_
  rintro ⟨-, -, hname⟩
  exact hname (by decide)

/-- A tutor opens a practice, and the database rejects its row. -/
theorem practice_is_rejected :
    (drawnAt 10 3).IsFreshIn (repeated 7) {} ∧
      ¬ OpensIn (repeated 7) standIn (drawnAt 10 3) (practiceOpened ownerMail) {} := by
  refine ⟨isFreshIn_worked, fun h => ?_⟩
  refine h.1 (.runtime (policyViolation "identity_tenant")) ?_
  decide +kernel

/-! ### The scope of the new tenant -/

/-- Every call of the execution names the tenant it draws. -/
theorem only_isOf_openPractice (ports : AuthPorts) (drawn : Drawn)
    (request : OpenPracticeRequest) :
    (openPractice ports drawn request).Only (Call.IsOf drawn.tenantId) := by
  refine Honours.bind (honours_ofExcept _) fun rules => ?_
  refine Honours.bind (honours_ofExcept _) fun lifetimes => ?_
  refine Honours.bind (honours_ofExcept _) fun chosen => ?_
  refine Honours.bind (honours_ofExcept _) fun hash => ?_
  refine Honours.bind ?_ fun account => ?_
  · refine honours_perform_bind trivial fun found _ => ?_
    cases found with
    | some account => trivial
    | none => exact honours_perform_bind trivial fun _ _ => trivial
  rcases compose_cases drawn.tenantId request.practiceName with ⟨-, error, hcompose⟩ | ⟨-, hcompose⟩
  · rw [hcompose]
    trivial
  · rw [hcompose, accept_ok, done_bind]
    refine honours_perform_bind rfl fun opened _ => Honours.bind (honours_ofExcept _) fun _ => ?_
    refine honours_perform_bind rfl fun enrolled _ => Honours.bind (honours_ofExcept _) fun _ => ?_
    refine honours_perform_bind rfl fun _ _ => ?_
    refine Honours.bind ?_ fun _ => trivial
    rw [openSession, Session.open_of_pos lifetimes.positive.1, accept_ok, done_bind]
    exact honours_perform_bind rfl fun _ _ => trivial

/-- In the scope of the tenant that is drawn, the policies change nothing about opening the
practice. -/
theorem run_openPractice_in_own_scope (ports : AuthPorts) (drawn : Drawn)
    (request : OpenPracticeRequest) (db : Database) :
    (openPractice ports drawn request).run (inScope drawn.tenantId) db =
      (openPractice ports drawn request).run database db :=
  run_inScope_of_only (only_isOf_openPractice ports drawn request) db

end Pdr.Identity
