import Pdr.Identity.Store.Database
import Pdr.StoreProgram.RowSecurity

/-!
# The store inside the scope of a tenant

`TenantContext::Open` declares a tenant to the database, and from then on the policies of the
migrations stand between the adapters and the tables: `tenant_id` is compared with the
declared tenant in what is read and in what is written. The queries of the adapters rely on
it, and few of them ask for the tenant themselves. The registry of accounts and the counter
of registrations have no tenant and no policy; their adapters work outside the scope.

## Main definitions

* `Pdr.Identity.inScope`: what the calls do inside the scope of a tenant.
* `Pdr.Identity.Call.IsOf`: a call that names one tenant and no other.
* `Pdr.Identity.Database.SameBeyond`: the rows of all other tenants are the same.

## Main results

* `Pdr.Identity.exec_inScope_of_isOf`, `Pdr.Identity.run_inScope_of_only`: a call that names the
  declared tenant does in the scope what it does in the store without policies, and so does a
  scenario of such calls.
* `Pdr.Identity.sameBeyond_inScope`, `Pdr.Identity.sameBeyond_run_inScope`: no call in the scope
  changes a row of another tenant, and no scenario run there does.
-/

namespace Pdr.Identity

open StoreProgram

/-- The text the database refuses such a row with. -/
def policyViolation (table : String) : String :=
  "new row violates row-level security policy for table \"" ++ table ++ "\""

/-- How the rejection of a statement on the named table reaches the scenario. -/
def faultOf (name : String) : Rejection → Fault
  | .byPolicy => .thrown (.runtime (policyViolation name))
  | .bySchema => .thrown (.schemaViolation name)

/-- A statement of the session gives the table it leaves, or is rejected. -/
def commitUnder {Row : Type} [Schema Row] (name : String) (table : Table Row)
    (outcome : Except Rejection (Table Row)) : Except Fault Unit × Table Row :=
  match outcome with
  | .ok table' => (.ok (), table')
  | .error rejection => (.error (faultOf name rejection), table)

@[simp] theorem commitUnder_orSchema {Row : Type} [Schema Row] (name : String)
    (table : Table Row) (outcome : Option (Table Row)) :
    commitUnder name table (Rejection.orSchema outcome) = commit name table outcome := by
  cases outcome <;> rfl

/-! ### The calls -/

variable (declared : TenantId)

namespace TokenCall

/-- The policy of the table of tokens. -/
abbrev policy : RowPolicy OneTimeToken := .isolation (·.tenant) declared

/-- A token that is found is given the tenant the caller named. -/
def execIn : (call : TokenCall) → Table OneTimeToken →
    Except Fault call.Answer × Table OneTimeToken
  | issue token, table => commitUnder "identity_one_time_token" table <|
    table.insertUnder (policy declared) token
  | find tenant secret, table =>
    (.ok (((table.seen (policy declared)).find? (·.secret = secret)).map ({ · with tenant })),
      table)
  | liveInvitationTo tenant invited now, table =>
    (.ok (((table.seen (policy declared)).find? fun row => row.purpose = .invitation &&
      row.invited = some invited && row.usedAt.isNone && now < row.expiresAt).map
        ({ · with tenant })), table)
  | markUsed token, table => commitUnder "identity_one_time_token" table <|
    table.updateUnder (policy declared) (fun row => row.id = token.id && row.usedAt.isNone)
      (fun row => { row with usedAt := token.usedAt })

end TokenCall

namespace DirectoryCall

/-- The policy of the table of people. -/
abbrev peoplePolicy : RowPolicy PersonRow := .isolation (·.tenant) declared

/-- The policy of the table of roles. -/
abbrev rolesPolicy : RowPolicy RoleRow := .isolation (·.tenant) declared

/-- The roles of an enrolment are inserted one after another. -/
def grantRolesIn (tenant : TenantId) (enrolment : Enrolment)
    (roleIds : Role → StrongId .roleAssignment) (roles : Table RoleRow) :
    Except Rejection (Table RoleRow) :=
  (everyRole.filter enrolment.roles.has).foldlM (fun table role =>
    table.insertUnder (rolesPolicy declared)
      ⟨tenant, roleIds role, enrolment.person.id, role, none⟩) roles

/-- What the calls of the directory do in the scope. -/
def execIn : (call : DirectoryCall) → Table PersonRow × Table RoleRow →
    Except Fault call.Answer × (Table PersonRow × Table RoleRow)
  | enrol tenant enrolment roleIds, (people, roles) =>
    let row := personRow tenant enrolment
    match people.insertUnlessUnder (peoplePolicy declared)
        (fun other => other.tenant = tenant && row.mail.isSome && other.mail = row.mail) row with
    | .error rejection => (.error (faultOf "identity_person" rejection), people, roles)
    | .ok (false, _) => (.ok (.error participantEmailTaken), people, roles)
    | .ok (true, people') =>
      match grantRolesIn declared tenant enrolment roleIds roles with
      | .error rejection => (.error (faultOf "identity_role_assignment" rejection), people, roles)
      | .ok roles' => (.ok (.ok ()), people', roles')
  | knows _ mail, (people, roles) =>
    (.ok ((people.seen (peoplePolicy declared)).any (·.mail = some mail)), people, roles)
  | bornOn _ person, (people, roles) =>
    (.ok (((people.seen (peoplePolicy declared)).find? (·.id = person)).bind (·.bornOn)),
      people, roles)
  | rolesOf _ person, (people, roles) =>
    (.ok (BitSet.ofList (((roles.seen (rolesPolicy declared)).filter fun row =>
      row.person = person && row.revokedAt.isNone).map (·.role))), people, roles)

end DirectoryCall

namespace CredentialCall

/-- The policy of the table of passwords. -/
abbrev policy : RowPolicy CredentialRow := .isolation (·.tenant) declared

/-- The mail is asked for in the rows of the people, and the credential by their tenant. -/
def execIn : (call : CredentialCall) → Table PersonRow → Table CredentialRow →
    Except Fault call.Answer × Table CredentialRow
  | findByEmail _ mail, people, table =>
    (.ok (((people.seen (DirectoryCall.peoplePolicy declared)).find?
        (·.mail = some mail)).bind fun person =>
      ((table.seen (policy declared)).find? fun row =>
        person.tenant = row.tenant && person.id = row.person).map fun row =>
          ⟨row.person, row.hash⟩), table)
  | findFor _ person, _, table =>
    (.ok (((table.seen (policy declared)).find? (·.person = person)).map (·.hash)), table)
  | save tenant person hash, _, table => commitUnder "identity_credential" table <|
    table.upsertUnder (policy declared) (fun row => row.tenant = tenant && row.person = person)
      (fun row => { row with hash }) ⟨tenant, person, hash⟩

end CredentialCall

namespace SessionCall

/-- The policy of the table of sessions. -/
abbrev policy : RowPolicy Session := .isolation (·.id.tenant) declared

/-- A session that is found is given the identifier the caller named. -/
def execIn : (call : SessionCall) → Table Session → Except Fault call.Answer × Table Session
  | save session, table => commitUnder "identity_session" table <|
    table.upsertUnder (policy declared) (·.id = session.id)
      (fun row => { row with revokedAt := session.revokedAt }) session
  | find id, table =>
    (.ok (((table.seen (policy declared)).find? (·.id.secret = id.secret)).map ({ · with id })),
      table)
  | revokeAllFor _ person at_, table => commitUnder "identity_session" table <|
    table.updateUnder (policy declared) (fun row => row.person = person && row.revokedAt.isNone)
      (fun row => { row with revokedAt := some at_ })

end SessionCall

namespace AttemptCall

/-- The policy of the table of failed sign-ins. -/
abbrev policy : RowPolicy AttemptRow := .isolation (·.tenant) declared

/-- What the calls of the counter do in the scope. -/
def execIn : (call : AttemptCall) → Table AttemptRow →
    Except Fault call.Answer × Table AttemptRow
  | register tenant subject of at_ window, table =>
    match table.upsertUnder (policy declared) (isOf tenant subject of)
        (fun row => { row with window := countedUp row.window at_ (at_ - window) })
        ⟨tenant, subject, of, ⟨at_, 1⟩⟩ with
    | .ok table' => (.ok (windowOf tenant subject of table'), table')
    | .error rejection => (.error (faultOf "identity_login_attempt" rejection), table)
  | seen _ subject of, table =>
    (.ok ((((table.seen (policy declared)).find? fun row =>
      row.subject = subject && row.of = of).map (·.window)).getD ⟨0, 0⟩), table)
  | forget _ subject of, table =>
    (.ok (), table.deleteUnder (policy declared) fun row => row.subject = subject && row.of = of)

end AttemptCall

namespace PracticeCall

/-- The policy of the table of practices. -/
abbrev policy : RowPolicy PracticeRow := .isolation (·.practice.tenant) declared

/-- What the calls of the register do in the scope. -/
def execIn : (call : PracticeCall) → Table PracticeRow →
    Except Fault call.Answer × Table PracticeRow
  | open_ tenant zone practice, table =>
    match table.insertUnlessUnder (policy declared) (fun row => row.practice.tenant = tenant.id)
        ⟨tenant.name, zone, practice⟩ with
    | .error rejection => (.error (faultOf "identity_tenant" rejection), table)
    | .ok (false, _) => (.ok (.error practiceAlreadyOpen), table)
    | .ok (true, table') => (.ok (.ok ()), table')
  | find tenant, table =>
    (.ok (((table.seen (policy declared)).find? fun row =>
      row.practice.tenant = tenant).map (·.practice)), table)

end PracticeCall

namespace GuardianshipCall

/-- The policy of the table of guardianships. -/
abbrev policy : RowPolicy Guardianship := .isolation (·.tenant) declared

/-- The source has no adapter of this port; the statements of its stand-in under the policy of
`identity_guardianship`. -/
def execIn : (call : GuardianshipCall) → Table Guardianship →
    Except Fault call.Answer × Table Guardianship
  | findActive tenant guardian student, table =>
    (.ok ((table.seen (policy declared)).find? fun row =>
      isOf tenant guardian student row && row.isActive), table)
  | guardiansOf tenant student, table =>
    (.ok (((table.seen (policy declared)).filter fun row =>
      row.tenant = tenant && row.student = student && row.isActive).map (·.guardian)), table)
  | save guardianship, table => commitUnder "identity_guardianship" table <|
    table.upsertUnder (policy declared)
      (isOf guardianship.tenant guardianship.guardian guardianship.student)
      (fun _ => guardianship) guardianship

end GuardianshipCall

namespace ConsentCall

/-- The policy of the table of consents. -/
abbrev policy : RowPolicy GuardianConsent := .isolation (·.tenant) declared

/-- `ActiveFor`, with the tenant the caller named put into what is found. -/
def activeIn (tenant : TenantId) (guardian student : PersonId) (table : Table GuardianConsent) :
    List GuardianConsent :=
  ((table.seen (policy declared)).filter fun row =>
    row.guardian = guardian && row.student = student && row.revokedAt.isNone).map
      ({ · with tenant })

/-- What the calls about consents do in the scope. -/
def execIn : (call : ConsentCall) → Table GuardianConsent →
    Except Fault call.Answer × Table GuardianConsent
  | activeFor tenant guardian student, table =>
    (.ok (activeIn declared tenant guardian student table), table)
  | findActive tenant guardian student scope, table =>
    (.ok ((activeIn declared tenant guardian student table).find? (·.scope = scope)), table)
  | save consent, table => commitUnder "identity_guardian_consent" table <|
    let isSaved := fun row : GuardianConsent => row.tenant = consent.tenant && row.id = consent.id
    -- The policy is looked at before the checks of the changed row.
    if (policy declared).takes consent &&
        table.rows.any fun row => isSaved row && !mayTake consent row then
      .error .bySchema
    else table.upsertUnder (policy declared) isSaved (withRevocationOf consent) consent

end ConsentCall

/-- What the calls do in the scope of the declared tenant. -/
def inScope : Machine Call.Answer Fault Database where
  exec call db := match call with
    | .tokens call =>
      let done := call.execIn declared db.tokens
      (done.1, { db with tokens := done.2 })
    | .accounts call =>
      let done := call.exec db.accounts
      (done.1, { db with accounts := done.2 })
    | .directory call =>
      let done := call.execIn declared (db.people, db.roles)
      (done.1, { db with people := done.2.1, roles := done.2.2 })
    | .credentials call =>
      let done := call.execIn declared db.people db.credentials
      (done.1, { db with credentials := done.2 })
    | .sessions call =>
      let done := call.execIn declared db.sessions
      (done.1, { db with sessions := done.2 })
    | .attempts call =>
      let done := call.execIn declared db.attempts
      (done.1, { db with attempts := done.2 })
    | .guardianships call =>
      let done := call.execIn declared db.guardianships
      (done.1, { db with guardianships := done.2 })
    | .consents call =>
      let done := call.execIn declared db.consents
      (done.1, { db with consents := done.2 })
    | .practices call =>
      let done := call.execIn declared db.practices
      (done.1, { db with practices := done.2 })
    | .signups call =>
      let done := call.exec db.signups
      (done.1, { db with signups := done.2 })

/-! ### Calls that name the declared tenant -/

/-- The tenant that a call names. -/
@[simp] def TokenCall.tenant : TokenCall → TenantId
  | issue token => token.tenant
  | find tenant _ => tenant
  | liveInvitationTo tenant _ _ => tenant
  | markUsed token => token.tenant

/-- The tenant that a call names. -/
@[simp] def DirectoryCall.tenant : DirectoryCall → TenantId
  | enrol tenant .. => tenant
  | knows tenant _ => tenant
  | bornOn tenant _ => tenant
  | rolesOf tenant _ => tenant

/-- The tenant that a call names. -/
@[simp] def CredentialCall.tenant : CredentialCall → TenantId
  | findByEmail tenant _ => tenant
  | findFor tenant _ => tenant
  | save tenant .. => tenant

/-- The tenant that a call names. -/
@[simp] def SessionCall.tenant : SessionCall → TenantId
  | save session => session.id.tenant
  | find id => id.tenant
  | revokeAllFor tenant .. => tenant

/-- The tenant that a call names. -/
@[simp] def AttemptCall.tenant : AttemptCall → TenantId
  | register tenant .. => tenant
  | seen tenant .. => tenant
  | forget tenant .. => tenant

/-- The tenant that a call names. -/
@[simp] def PracticeCall.tenant : PracticeCall → TenantId
  | open_ _ _ practice => practice.tenant
  | find tenant => tenant

/-- The tenant that a call names. -/
@[simp] def GuardianshipCall.tenant : GuardianshipCall → TenantId
  | findActive tenant .. => tenant
  | guardiansOf tenant _ => tenant
  | save guardianship => guardianship.tenant

/-- The tenant that a call names. -/
@[simp] def ConsentCall.tenant : ConsentCall → TenantId
  | activeFor tenant .. => tenant
  | findActive tenant .. => tenant
  | save consent => consent.tenant

/-- Every tenant that the call names is the declared one. -/
def Call.IsOf (declared : TenantId) : Call → Prop
  | tokens call => call.tenant = declared
  | accounts _ => True
  | directory call => call.tenant = declared
  | credentials call => call.tenant = declared
  | sessions call => call.tenant = declared
  | attempts call => call.tenant = declared
  | guardianships call => call.tenant = declared
  | consents call => call.tenant = declared
  | practices call => call.tenant = declared
  | signups _ => True

variable {declared}

/-- What the adapter writes into a row it found is what the row has. -/
theorem find?_seen_retagged {Row : Type} [Schema Row] {tenantOf : Row → TenantId}
    {retag : Row → Row} {wanted wantedHere : Row → Bool} {table : Table Row}
    (hsame : ∀ row, (decide (tenantOf row = declared) && wantedHere row) = wanted row)
    (hretag : ∀ row, tenantOf row = declared → wantedHere row = true → retag row = row) :
    ((table.seen (.isolation tenantOf declared)).find? wantedHere).map retag =
      table.find? wanted := by
  rw [Table.find?_seen hsame]
  cases hfound : table.find? wanted with
  | none => rfl
  | some row =>
    have hwanted := Table.wanted_of_find? hfound
    rw [← hsame row] at hwanted
    obtain ⟨htenant, hhere⟩ := Bool.and_eq_true_iff.1 hwanted
    exact congrArg some (hretag row (of_decide_eq_true htenant) hhere)

theorem TokenCall.execIn_of_tenant {call : TokenCall} (h : call.tenant = declared)
    (table : Table OneTimeToken) : call.execIn declared table = call.exec table := by
  subst h
  have hretag : ∀ tenant (row : OneTimeToken), row.tenant = tenant →
      { row with tenant } = row := fun tenant row hrow => by cases hrow; rfl
  cases call with
  | issue token =>
    simp only [execIn, exec, tenant]
    rw [Table.insertUnder_of_takes (by simp), commitUnder_orSchema]
  | find tenant secret =>
    exact congrArg (fun found => (Except.ok found, table))
      (find?_seen_retagged (fun row => rfl) fun row hrow _ => hretag tenant row hrow)
  | liveInvitationTo tenant invited now =>
    exact congrArg (fun found => (Except.ok found, table))
      (find?_seen_retagged (fun row => by simp only [Bool.and_assoc]; rfl)
        fun row hrow _ => hretag tenant row hrow)
  | markUsed token =>
    simp only [execIn, exec, tenant]
    rw [Table.updateUnder_of_takes (fun row hrow => hrow), commitUnder_orSchema]
    simp [Bool.and_assoc]

theorem sessionId_eq_iff (id other : SessionId) :
    id = other ↔ id.tenant = other.tenant ∧ id.secret = other.secret := by
  obtain ⟨tenant, secret⟩ := id
  obtain ⟨tenant', secret'⟩ := other
  exact SessionId.mk.injEq .. ▸ Iff.rfl

theorem SessionCall.execIn_of_tenant {call : SessionCall} (h : call.tenant = declared)
    (table : Table Session) : call.execIn declared table = call.exec table := by
  subst h
  cases call with
  | save session =>
    simp only [execIn, exec, tenant]
    rw [Table.upsertUnder_of_takes (by simp) fun row hrow => ?_, commitUnder_orSchema]
    simp [of_decide_eq_true hrow]
  | find id =>
    simp only [execIn, exec, SessionCall.tenant]
    rw [find?_seen_retagged (fun row => ?_) fun row htenant hsecret => ?_]
    · simp [sessionId_eq_iff]
    · have hid : row.id = id := (sessionId_eq_iff ..).2 ⟨htenant, of_decide_eq_true hsecret⟩
      exact hid ▸ rfl
  | revokeAllFor tenant person at_ =>
    simp only [execIn, exec, SessionCall.tenant]
    rw [Table.updateUnder_of_takes (fun row hrow => hrow), commitUnder_orSchema]
    simp [Bool.and_assoc]

theorem AttemptCall.execIn_of_tenant {call : AttemptCall} (h : call.tenant = declared)
    (table : Table AttemptRow) : call.execIn declared table = call.exec table := by
  subst h
  cases call with
  | register tenant subject of at_ window =>
    simp only [execIn, exec, AttemptCall.tenant]
    rw [Table.upsertUnder_of_takes (by simp) fun row hrow => ?_]
    · generalize table.upsert _ _ _ = outcome
      cases outcome <;> rfl
    · simp only [isOf, Bool.and_eq_true, decide_eq_true_eq] at hrow
      simp [hrow.1.1]
  | seen tenant subject of =>
    simp only [execIn, exec, AttemptCall.tenant, windowOf]
    rw [Table.find?_seen fun row => ?_]
    simp [isOf, Bool.and_assoc]
  | forget tenant subject of =>
    simp only [execIn, exec, Table.deleteUnder, AttemptCall.tenant]
    congr 2
    funext row
    simp [isOf, Bool.and_assoc]

theorem PracticeCall.execIn_of_tenant {call : PracticeCall} (h : call.tenant = declared)
    (table : Table PracticeRow) : call.execIn declared table = call.exec table := by
  subst h
  cases call with
  | open_ tenant zone practice =>
    simp only [execIn, exec, PracticeCall.tenant]
    rw [Table.insertUnlessUnder_of_takes (by simp)]
    generalize table.insertUnless _ _ = outcome
    rcases outcome with _ | ⟨_ | _, _⟩ <;> rfl
  | find tenant =>
    simp only [execIn, exec, PracticeCall.tenant]
    rw [Table.find?_seen fun row => ?_]
    simp

theorem GuardianshipCall.execIn_of_tenant {call : GuardianshipCall} (h : call.tenant = declared)
    (table : Table Guardianship) : call.execIn declared table = call.exec table := by
  subst h
  cases call with
  | findActive tenant guardian student =>
    simp only [execIn, exec, GuardianshipCall.tenant]
    rw [Table.find?_seen fun row => ?_]
    simp [isOf, Bool.and_assoc]
  | guardiansOf tenant student =>
    simp only [execIn, exec, GuardianshipCall.tenant]
    rw [Table.filter_seen fun row => ?_]
    simp [Bool.and_assoc]
  | save guardianship =>
    simp only [execIn, exec, GuardianshipCall.tenant]
    rw [Table.upsertUnder_of_takes (by simp) fun row hrow => ?_, commitUnder_orSchema]
    simp only [isOf, Bool.and_eq_true, decide_eq_true_eq] at hrow
    simp [hrow.1.1]

theorem ConsentCall.activeIn_of_tenant (tenant : TenantId) (guardian student : PersonId)
    (table : Table GuardianConsent) :
    activeIn tenant tenant guardian student table =
      activeRows tenant guardian student table.rows := by
  have hsame : (table.seen (policy tenant)).filter (fun row =>
      row.guardian = guardian && row.student = student && row.revokedAt.isNone) =
        activeRows tenant guardian student table.rows :=
    Table.filter_seen fun row => by simp only [RowPolicy.isolation_sees, Bool.and_assoc]
  rw [activeIn, hsame]
  refine (List.map_congr_left fun row hrow => ?_).trans (List.map_id _)
  have htenant : row.tenant = tenant := by
    have hkept := (List.mem_filter.1 hrow).2
    simp only [Bool.and_eq_true, decide_eq_true_eq] at hkept
    exact hkept.1.1.1
  cases htenant
  rfl

theorem ConsentCall.execIn_of_tenant {call : ConsentCall} (h : call.tenant = declared)
    (table : Table GuardianConsent) : call.execIn declared table = call.exec table := by
  subst h
  cases call with
  | activeFor tenant guardian student =>
    simp only [execIn, exec, ConsentCall.tenant, activeIn_of_tenant]
  | findActive tenant guardian student scope =>
    simp only [execIn, exec, ConsentCall.tenant, activeIn_of_tenant]
  | save consent =>
    simp only [execIn, exec, ConsentCall.tenant]
    rw [Table.upsertUnder_of_takes (by simp) fun row hrow => ?_]
    · have hall : (table.rows.all fun row => !(decide (row.tenant = consent.tenant) &&
          decide (row.id = consent.id)) || mayTake consent row) =
            !(table.rows.any fun row => (decide (row.tenant = consent.tenant) &&
              decide (row.id = consent.id)) && !mayTake consent row) := by
        rw [List.not_any_eq_all_not]
        simp
      simp only [hall, RowPolicy.isolation_takes, decide_true, Bool.true_and]
      cases table.rows.any _ with
      | true => rfl
      | false => exact commitUnder_orSchema ..
    · simp only [Bool.and_eq_true, decide_eq_true_eq] at hrow
      refine ⟨decide_eq_true hrow.1, decide_eq_true ?_⟩
      unfold withRevocationOf
      split <;> exact hrow.1

theorem CredentialCall.execIn_of_tenant {call : CredentialCall} (h : call.tenant = declared)
    (people : Table PersonRow) (table : Table CredentialRow) :
    call.execIn declared people table = call.exec people table := by
  subst h
  cases call with
  | findByEmail tenant mail =>
    simp only [execIn, exec, CredentialCall.tenant]
    rw [Table.find?_seen fun row => (rfl : _ = (decide (row.tenant = tenant) && _))]
    cases hfound : people.find? fun row => row.tenant = tenant && row.mail = some mail with
    | none => rfl
    | some person =>
      have htenant : person.tenant = tenant := by
        have hwanted := Table.wanted_of_find? hfound
        simp only [Bool.and_eq_true, decide_eq_true_eq] at hwanted
        exact hwanted.1
      simp only [Option.bind_some]
      rw [Table.find?_seen fun row => ?_]
      simp only [htenant, RowPolicy.isolation_sees]
      simp [eq_comm]
  | findFor tenant person =>
    simp only [execIn, exec, CredentialCall.tenant]
    rw [Table.find?_seen fun row => ?_]
    simp
  | save tenant person hash =>
    simp only [execIn, exec, CredentialCall.tenant]
    rw [Table.upsertUnder_of_takes (by simp) fun row hrow => ?_, commitUnder_orSchema]
    simp only [Bool.and_eq_true, decide_eq_true_eq] at hrow
    simp [hrow.1]

theorem DirectoryCall.grantRolesIn_of_tenant (tenant : TenantId) (enrolment : Enrolment)
    (roleIds : Role → StrongId .roleAssignment) (roles : Table RoleRow) :
    grantRolesIn tenant tenant enrolment roleIds roles =
      Rejection.orSchema (grantRoles tenant enrolment roleIds roles) := by
  unfold grantRolesIn grantRoles
  induction everyRole.filter enrolment.roles.has generalizing roles with
  | nil => rfl
  | cons role rest ih =>
    rw [List.foldlM_cons, List.foldlM_cons, Table.insertUnder_of_takes (by simp)]
    cases roles.insert ⟨tenant, roleIds role, enrolment.person.id, role, none⟩ with
    | none => rfl
    | some roles' => exact ih roles'

theorem DirectoryCall.execIn_of_tenant {call : DirectoryCall} (h : call.tenant = declared)
    (tables : Table PersonRow × Table RoleRow) :
    call.execIn declared tables = call.exec tables := by
  subst h
  obtain ⟨people, roles⟩ := tables
  cases call with
  | enrol tenant enrolment roleIds =>
    simp only [execIn, exec, DirectoryCall.tenant, grantRolesIn_of_tenant]
    rw [Table.insertUnlessUnder_of_takes (by simp [personRow])]
    generalize people.insertUnless _ _ = enrolled
    generalize grantRoles tenant enrolment roleIds roles = granted
    rcases enrolled with _ | ⟨_ | _, _⟩ <;> try rfl
    cases granted <;> rfl
  | knows tenant mail =>
    simp only [execIn, exec, DirectoryCall.tenant, Table.seen, List.any_filter]
    rfl
  | bornOn tenant person =>
    simp only [execIn, exec, DirectoryCall.tenant]
    rw [Table.find?_seen fun row => ?_]
    simp
  | rolesOf tenant person =>
    simp only [execIn, exec, DirectoryCall.tenant]
    rw [Table.filter_seen fun row => ?_]
    simp [Bool.and_assoc]

/-- A call that names the declared tenant, or none, does in the scope what it does in the
store without policies. -/
theorem exec_inScope_of_isOf {call : Call} (h : call.IsOf declared) (db : Database) :
    (inScope declared).exec call db = database.exec call db := by
  cases call with
  | tokens call => simp only [inScope, database, TokenCall.execIn_of_tenant h]
  | accounts call => rfl
  | directory call => simp only [inScope, database, DirectoryCall.execIn_of_tenant h]
  | credentials call => simp only [inScope, database, CredentialCall.execIn_of_tenant h]
  | sessions call => simp only [inScope, database, SessionCall.execIn_of_tenant h]
  | attempts call => simp only [inScope, database, AttemptCall.execIn_of_tenant h]
  | guardianships call => simp only [inScope, database, GuardianshipCall.execIn_of_tenant h]
  | consents call => simp only [inScope, database, ConsentCall.execIn_of_tenant h]
  | practices call => simp only [inScope, database, PracticeCall.execIn_of_tenant h]
  | signups call => rfl

/-- A scenario whose calls name the declared tenant runs in the scope as it does without
policies. -/
theorem run_inScope_of_only {α : Type} {program : Scenario α}
    (h : program.Only (Call.IsOf declared)) (db : Database) :
    program.run (inScope declared) db = program.run database db := by
  induction program generalizing db with
  | done value => rfl
  | raise error => rfl
  | call op rest ih =>
    rw [Program.run_call, Program.run_call, exec_inScope_of_isOf h.1]
    exact ih _ (h.2 _ trivial) _

/-! ### The rows of other tenants -/

/-- The rows of all other tenants are the same, in each table that has a tenant. -/
structure Database.SameBeyond (tenant : TenantId) (before after : Database) : Prop where
  tokens : Table.SameBeyond (fun row => row.tenant = tenant) before.tokens after.tokens
  people : Table.SameBeyond (fun row => row.tenant = tenant) before.people after.people
  roles : Table.SameBeyond (fun row => row.tenant = tenant) before.roles after.roles
  credentials :
    Table.SameBeyond (fun row => row.tenant = tenant) before.credentials after.credentials
  sessions : Table.SameBeyond (fun row => row.id.tenant = tenant) before.sessions after.sessions
  attempts : Table.SameBeyond (fun row => row.tenant = tenant) before.attempts after.attempts
  guardianships :
    Table.SameBeyond (fun row => row.tenant = tenant) before.guardianships after.guardianships
  consents : Table.SameBeyond (fun row => row.tenant = tenant) before.consents after.consents
  practices :
    Table.SameBeyond (fun row => row.practice.tenant = tenant) before.practices after.practices

theorem Database.SameBeyond.refl (tenant : TenantId) (db : Database) :
    db.SameBeyond tenant db := ⟨rfl, rfl, rfl, rfl, rfl, rfl, rfl, rfl, rfl⟩

theorem sameBeyond_commitUnder {Row : Type} [Schema Row] {own : Row → Bool} {name : String}
    {table : Table Row} {outcome : Except Rejection (Table Row)}
    (h : ∀ table', outcome = .ok table' → Table.SameBeyond own table table') :
    Table.SameBeyond own table (commitUnder name table outcome).2 := by
  cases outcome with
  | ok table' => exact h table' rfl
  | error rejection => rfl

theorem DirectoryCall.sameBeyond_grantRolesIn {tenant : TenantId} {enrolment : Enrolment}
    {roleIds : Role → StrongId .roleAssignment} {roles roles' : Table RoleRow}
    (h : grantRolesIn declared tenant enrolment roleIds roles = .ok roles') :
    Table.SameBeyond (fun row => row.tenant = declared) roles roles' := by
  unfold grantRolesIn at h
  generalize everyRole.filter enrolment.roles.has = granted at h
  induction granted generalizing roles with
  | nil =>
    cases h
    rfl
  | cons role rest ih =>
    rw [List.foldlM_cons] at h
    obtain ⟨between, hgranted, hrest⟩ := bind_eq_ok.1 h
    exact (Table.sameBeyond_of_insertUnder (RowPolicy.isAbout_isolation _ _) hgranted).trans
      (ih hrest)

theorem DirectoryCall.sameBeyond_execIn (declared : TenantId) (call : DirectoryCall)
    (people : Table PersonRow) (roles : Table RoleRow) :
    Table.SameBeyond (fun row => row.tenant = declared) people
        (call.execIn declared (people, roles)).2.1 ∧
      Table.SameBeyond (fun row => row.tenant = declared) roles
        (call.execIn declared (people, roles)).2.2 := by
  cases call with
  | enrol tenant enrolment roleIds =>
    simp only [execIn]
    split
    · exact ⟨rfl, rfl⟩
    · exact ⟨rfl, rfl⟩
    · rename_i people' hpeople
      split
      · exact ⟨rfl, rfl⟩
      · rename_i roles' hroles
        exact ⟨Table.sameBeyond_of_insertUnlessUnder (RowPolicy.isAbout_isolation _ _) hpeople,
          sameBeyond_grantRolesIn hroles⟩
  | knows tenant mail => exact ⟨rfl, rfl⟩
  | bornOn tenant person => exact ⟨rfl, rfl⟩
  | rolesOf tenant person => exact ⟨rfl, rfl⟩

/-- No call in the scope changes a row of another tenant. -/
theorem sameBeyond_inScope (call : Call) (db : Database) :
    db.SameBeyond declared ((inScope declared).exec call db).2 := by
  have about {Row : Type} (tenantOf : Row → TenantId) :=
    RowPolicy.isAbout_isolation tenantOf declared
  cases call with
  | tokens call =>
    refine { Database.SameBeyond.refl declared db with tokens := ?_ }
    cases call with
    | issue token =>
      exact sameBeyond_commitUnder fun _ => Table.sameBeyond_of_insertUnder (about _)
    | markUsed token =>
      exact sameBeyond_commitUnder fun _ => Table.sameBeyond_of_updateUnder (about _)
    | find tenant secret => rfl
    | liveInvitationTo tenant invited now => rfl
  | accounts call => exact { Database.SameBeyond.refl declared db with }
  | directory call =>
    obtain ⟨hpeople, hroles⟩ := DirectoryCall.sameBeyond_execIn declared call db.people db.roles
    exact { Database.SameBeyond.refl declared db with people := hpeople, roles := hroles }
  | credentials call =>
    refine { Database.SameBeyond.refl declared db with credentials := ?_ }
    cases call with
    | save tenant person hash =>
      exact sameBeyond_commitUnder fun _ => Table.sameBeyond_of_upsertUnder (about _)
    | findByEmail tenant mail => rfl
    | findFor tenant person => rfl
  | sessions call =>
    refine { Database.SameBeyond.refl declared db with sessions := ?_ }
    cases call with
    | save session =>
      exact sameBeyond_commitUnder fun _ => Table.sameBeyond_of_upsertUnder (about _)
    | revokeAllFor tenant person at_ =>
      exact sameBeyond_commitUnder fun _ => Table.sameBeyond_of_updateUnder (about _)
    | find id => rfl
  | attempts call =>
    refine { Database.SameBeyond.refl declared db with attempts := ?_ }
    cases call with
    | register tenant subject of at_ window =>
      simp only [inScope, AttemptCall.execIn]
      split
      · rename_i attempts' hregistered
        exact Table.sameBeyond_of_upsertUnder (about _) hregistered
      · rfl
    | forget tenant subject of => exact Table.sameBeyond_of_deleteUnder (about _)
    | seen tenant subject of => rfl
  | guardianships call =>
    refine { Database.SameBeyond.refl declared db with guardianships := ?_ }
    cases call with
    | save guardianship =>
      exact sameBeyond_commitUnder fun _ => Table.sameBeyond_of_upsertUnder (about _)
    | findActive tenant guardian student => rfl
    | guardiansOf tenant student => rfl
  | consents call =>
    refine { Database.SameBeyond.refl declared db with consents := ?_ }
    cases call with
    | save consent =>
      refine sameBeyond_commitUnder fun table' h => ?_
      dsimp only at h
      split at h
      · cases h
      · exact Table.sameBeyond_of_upsertUnder (about _) h
    | activeFor tenant guardian student => rfl
    | findActive tenant guardian student scope => rfl
  | practices call =>
    refine { Database.SameBeyond.refl declared db with practices := ?_ }
    cases call with
    | open_ tenant zone practice =>
      simp only [inScope, PracticeCall.execIn]
      split
      · rfl
      · rfl
      · rename_i practices' hopened
        exact Table.sameBeyond_of_insertUnlessUnder (about _) hopened
    | find tenant => rfl
  | signups call => exact { Database.SameBeyond.refl declared db with }

theorem Database.SameBeyond.trans {tenant : TenantId} {first second third : Database}
    (h : first.SameBeyond tenant second) (h' : second.SameBeyond tenant third) :
    first.SameBeyond tenant third where
  tokens := h.tokens.trans h'.tokens
  people := h.people.trans h'.people
  roles := h.roles.trans h'.roles
  credentials := h.credentials.trans h'.credentials
  sessions := h.sessions.trans h'.sessions
  attempts := h.attempts.trans h'.attempts
  guardianships := h.guardianships.trans h'.guardianships
  consents := h.consents.trans h'.consents
  practices := h.practices.trans h'.practices

theorem sameBeyond_run_inScope {α : Type} (program : Scenario α) (db : Database) :
    db.SameBeyond declared (program.run (inScope declared) db).2 :=
  Program.run_keeps _ (fun call _ h => h.trans (sameBeyond_inScope call _)) program
    (Database.SameBeyond.refl declared db)

end Pdr.Identity
