import Pdr.Identity.Application.Provenance
import Pdr.Identity.Application.SingleUse

/-!
# Where everything comes from

Every row that is there at the end of a run is followed back: it was there at the start, or a
scenario wrote it that had its grounds, in answers that it got earlier in the same run. So nobody
is signed in without a password, a letter or a practice of his own, nobody has a role that nobody
gave, and a practice that nobody opened and to which nobody is invited is entered by nobody.

## Main definitions

* `Pdr.Identity.sessionLineage`, `Pdr.Identity.credentialLineage`, `Pdr.Identity.tokenLineage`,
  `Pdr.Identity.roleLineage`: what the calls do to the rows.
* `Pdr.Identity.RoleGiven`: how a person got a role, and `Pdr.Identity.InvitationSent`: how an
  invitation to it came about.
* `Pdr.Identity.Database.IsShut`: nothing of a practice lets anybody in.

## Main results

* `Pdr.Identity.every_session_was_earned`, `Pdr.Identity.every_password_was_set`: who is signed
  in, and whose password is set.
* `Pdr.Identity.every_role_was_given`: who has a role.
* `Pdr.Identity.shut_practice_stays_shut`: who cannot get in.
-/

namespace Pdr.Identity

open StoreProgram

variable {ι : Type}

/-! ### Where the rows come from -/

/-- A stored token was there before, or it is issued. -/
theorem TokenCall.comes_from (call : TokenCall) {table : Table OneTimeToken} {row : OneTimeToken}
    (hrow : row ∈ (call.exec table).2.rows) :
    (∃ was ∈ table.rows, was.Becomes row) ∨ call = .issue row := by
  cases call with
  | find tenant secret => exact Or.inl ⟨row, hrow, .refl row⟩
  | liveInvitationTo tenant invited now => exact Or.inl ⟨row, hrow, .refl row⟩
  | issue token =>
    rw [exec, commit_snd] at hrow
    cases hissued : table.insert token with
    | none =>
      rw [hissued] at hrow
      exact Or.inl ⟨row, hrow, .refl row⟩
    | some table' =>
      rw [hissued] at hrow
      rcases (Table.mem_insert hissued row).1 hrow with hwas | rfl
      · exact Or.inl ⟨row, hwas, .refl row⟩
      · exact Or.inr rfl
  | markUsed token =>
    rw [exec, commit_snd] at hrow
    cases hmarked : table.updateWhere (fun row =>
        row.tenant = token.tenant && row.id = token.id && row.usedAt.isNone)
        (fun row => { row with usedAt := token.usedAt }) with
    | none =>
      rw [hmarked] at hrow
      exact Or.inl ⟨row, hrow, .refl row⟩
    | some table' =>
      rw [hmarked] at hrow
      have hrow : row ∈ table'.rows := hrow
      rw [Table.rows_of_updateWhere hmarked] at hrow
      obtain ⟨was, hwas, rfl⟩ := List.mem_map.1 hrow
      refine Or.inl ⟨was, hwas, ?_⟩
      split
      · rename_i hchosen
        refine ⟨⟨token.usedAt, rfl⟩, fun hused => ?_⟩
        simp [Option.isSome_iff_ne_none.1 hused] at hchosen
      · exact .refl was

/-- A password that is stored was there before, or it is saved. -/
theorem CredentialCall.comes_from (call : CredentialCall) {people : Table PersonRow}
    {table : Table CredentialRow} {row : CredentialRow}
    (hrow : row ∈ (call.exec people table).2.rows) :
    row ∈ table.rows ∨ call = .save row.tenant row.person row.hash := by
  cases call with
  | findByEmail tenant mail => exact Or.inl hrow
  | findFor tenant person => exact Or.inl hrow
  | save tenant person hash =>
    rw [exec, commit_snd, Table.upsert] at hrow
    split at hrow
    · cases hsaved : table.updateWhere (fun row => row.tenant = tenant && row.person = person)
          (fun row => { row with hash }) with
      | none =>
        rw [hsaved] at hrow
        exact Or.inl hrow
      | some table' =>
        rw [hsaved] at hrow
        have hrow : row ∈ table'.rows := hrow
        rw [Table.rows_of_updateWhere hsaved] at hrow
        obtain ⟨was, hwas, rfl⟩ := List.mem_map.1 hrow
        split
        · rename_i hchosen
          simp only [Bool.and_eq_true, decide_eq_true_eq] at hchosen
          exact Or.inr (by rw [← hchosen.1, ← hchosen.2])
        · exact Or.inl hwas
    · cases hsaved : table.insert ⟨tenant, person, hash⟩ with
      | none =>
        rw [hsaved] at hrow
        exact Or.inl hrow
      | some table' =>
        rw [hsaved] at hrow
        rcases (Table.mem_insert hsaved row).1 hrow with hwas | rfl
        · exact Or.inl hwas
        · exact Or.inr rfl

/-- The roles of an enrolment are those that it names. -/
theorem DirectoryCall.mem_grantRoles {tenant : TenantId} {enrolment : Enrolment}
    {roleIds : Role → StrongId .roleAssignment} {roles roles' : Table RoleRow} {row : RoleRow}
    (h : grantRoles tenant enrolment roleIds roles = some roles') (hrow : row ∈ roles'.rows) :
    row ∈ roles.rows ∨ row.tenant = tenant ∧ row.person = enrolment.person.id ∧
      enrolment.roles.has row.role = true := by
  have hall : ∀ role ∈ everyRole.filter enrolment.roles.has, enrolment.roles.has role = true :=
    fun role hrole => (List.mem_filter.1 hrole).2
  unfold grantRoles at h
  generalize everyRole.filter enrolment.roles.has = given at h hall
  induction given generalizing roles with
  | nil =>
    obtain rfl := Option.some.inj h
    exact Or.inl hrow
  | cons role given ih =>
    obtain ⟨next, hinsert, hrest⟩ := Option.bind_eq_some_iff.1 h
    rcases ih hrest fun other hother => hall other (List.mem_cons_of_mem _ hother) with hwas | hnew
    · rcases (Table.mem_insert hinsert row).1 hwas with hwas | rfl
      · exact Or.inl hwas
      · exact Or.inr ⟨rfl, rfl, hall role List.mem_cons_self⟩
    · exact Or.inr hnew

/-- A role that is stored was there before, or its person is enrolled with it. -/
theorem DirectoryCall.role_comes_from (call : DirectoryCall)
    {tables : Table PersonRow × Table RoleRow} {row : RoleRow}
    (hrow : row ∈ (call.exec tables).2.2.rows) :
    row ∈ tables.2.rows ∨ ∃ enrolment roleIds, call = .enrol row.tenant enrolment roleIds ∧
      row.person = enrolment.person.id ∧ enrolment.roles.has row.role = true := by
  obtain ⟨people, roles⟩ := tables
  cases call with
  | knows tenant mail => exact Or.inl hrow
  | bornOn tenant person => exact Or.inl hrow
  | rolesOf tenant person => exact Or.inl hrow
  | enrol tenant enrolment roleIds =>
    dsimp only [exec] at hrow
    split at hrow
    · exact Or.inl hrow
    · exact Or.inl hrow
    · split at hrow
      · exact Or.inl hrow
      · rename_i roles' hgranted
        rcases mem_grantRoles hgranted hrow with hwas | ⟨rfl, hperson, hrole⟩
        · exact Or.inl hwas
        · exact Or.inr ⟨enrolment, roleIds, rfl, hperson, hrole⟩

/-- A session that is stored was there before, with its person, or it is saved for the first
time. -/
theorem SessionCall.comes_from (call : SessionCall) {table : Table Session} {row : Session}
    (hrow : row ∈ (call.exec table).2.rows) :
    (∃ was ∈ table.rows, was.id = row.id ∧ was.person = row.person) ∨
      (∀ was ∈ table.rows, was.id ≠ row.id) ∧ call = .save row := by
  cases call with
  | find id => exact Or.inl ⟨row, hrow, rfl, rfl⟩
  | save session =>
    rw [exec, commit_snd] at hrow
    cases hsaved : table.upsert (·.id = session.id)
        (fun row => { row with revokedAt := session.revokedAt }) session with
    | none =>
      rw [hsaved] at hrow
      exact Or.inl ⟨row, hrow, rfl, rfl⟩
    | some table' =>
      rw [hsaved] at hrow
      rcases Table.upsert_cases hsaved with ⟨-, hupdate⟩ | ⟨habsent, hinsert⟩
      · obtain ⟨was, hwas, rfl⟩ := (Table.mem_updateWhere hupdate row).1 hrow
        refine Or.inl ⟨was, hwas, ?_⟩
        split <;> exact ⟨rfl, rfl⟩
      · rcases (Table.mem_insert hinsert row).1 hrow with hwas | rfl
        · exact Or.inl ⟨row, hwas, rfl, rfl⟩
        · exact Or.inr ⟨fun was hwas => of_decide_eq_false (habsent was hwas), rfl⟩
  | revokeAllFor tenant person at_ =>
    rw [exec, commit_snd] at hrow
    cases hrevoked : table.updateWhere
        (fun row => row.id.tenant = tenant && row.person = person && row.revokedAt.isNone)
        (fun row => { row with revokedAt := some at_ }) with
    | none =>
      rw [hrevoked] at hrow
      exact Or.inl ⟨row, hrow, rfl, rfl⟩
    | some table' =>
      rw [hrevoked] at hrow
      obtain ⟨was, hwas, rfl⟩ := (Table.mem_updateWhere hrevoked row).1 hrow
      refine Or.inl ⟨was, hwas, ?_⟩
      split <;> exact ⟨rfl, rfl⟩

namespace Database

variable {db db' : Database} {tenant : TenantId}

theorem session_comes_from (call : Call) (db : Database) (row : Session)
    (hrow : row ∈ (database.exec call db).2.sessions.rows) :
    (∃ was, was ∈ db.sessions.rows ∧ was.id = row.id ∧ was.person = row.person) ∨
      db.IsAbsent row.id ∧ call = .sessions (.save row) := by
  cases call with
  | sessions call =>
    exact (call.comes_from hrow).imp_right fun h => ⟨h.1, congrArg Call.sessions h.2⟩
  | _ => exact Or.inl ⟨row, hrow, rfl, rfl⟩

theorem credential_comes_from (call : Call) (db : Database) (row : CredentialRow)
    (hrow : row ∈ (database.exec call db).2.credentials.rows) :
    (∃ was, was ∈ db.credentials.rows ∧ was = row) ∨
      call = .credentials (.save row.tenant row.person row.hash) := by
  cases call with
  | credentials call =>
    exact (call.comes_from hrow).imp (fun h => ⟨row, h, rfl⟩) (congrArg Call.credentials)
  | _ => exact Or.inl ⟨row, hrow, rfl⟩

theorem token_comes_from (call : Call) (db : Database) (row : OneTimeToken)
    (hrow : row ∈ (database.exec call db).2.tokens.rows) :
    (∃ was, was ∈ db.tokens.rows ∧ was.Becomes row) ∨ call = .tokens (.issue row) := by
  cases call with
  | tokens call => exact (call.comes_from hrow).imp_right (congrArg Call.tokens)
  | _ => exact Or.inl ⟨row, hrow, .refl row⟩

theorem role_comes_from (call : Call) (db : Database) (row : RoleRow)
    (hrow : row ∈ (database.exec call db).2.roles.rows) :
    (∃ was, was ∈ db.roles.rows ∧ was = row) ∨
      ∃ enrolment roleIds, call = .directory (.enrol row.tenant enrolment roleIds) ∧
        row.person = enrolment.person.id ∧ enrolment.roles.has row.role = true := by
  cases call with
  | directory call =>
    refine (call.role_comes_from hrow).imp (fun h => ⟨row, h, rfl⟩) ?_
    rintro ⟨enrolment, roleIds, rfl, hgiven⟩
    exact ⟨enrolment, roleIds, rfl, hgiven⟩
  | _ => exact Or.inl ⟨row, hrow, rfl⟩

theorem session_of_find {id : SessionId} {found : Session}
    (h : database.exec (.sessions (.find id)) db = (.ok (some found), db')) :
    found ∈ db.sessions.rows ∧ found.id = id := by
  have hfound : db.sessions.find? _ = some found := Except.ok.inj (congrArg Prod.fst h)
  have hwanted := Table.wanted_of_find? hfound
  exact ⟨Table.mem_of_find? hfound, of_decide_eq_true hwanted⟩

/-- Whoever is known by his mail has a password in the tenant. -/
theorem credential_of_findByEmail {mail : Email} {found : Credential}
    (h : database.exec (.credentials (.findByEmail tenant mail)) db = (.ok (some found), db')) :
    ∃ row ∈ db.credentials.rows, row.tenant = tenant := by
  have hfound := Except.ok.inj (congrArg Prod.fst h)
  obtain ⟨person, -, hfound⟩ := Option.bind_eq_some_iff.1 hfound
  obtain ⟨row, hrow, -⟩ := Option.map_eq_some_iff.1 hfound
  have hwanted := Table.wanted_of_find? hrow
  simp only [Bool.and_eq_true, decide_eq_true_eq] at hwanted
  exact ⟨row, Table.mem_of_find? hrow, hwanted.1⟩

end Database

/-- Sessions: a call passes on the identifier and the person, or saves a new one. -/
def sessionLineage : Lineage database Session where
  holds db row := row ∈ db.sessions.rows
  ancestor was row := was.id = row.id ∧ was.person = row.person
  makes db call row := db.IsAbsent row.id ∧ call = .sessions (.save row)
  refl _ := ⟨rfl, rfl⟩
  trans h h' := ⟨h.1.trans h'.1, h.2.trans h'.2⟩
  step := Database.session_comes_from

/-- Passwords: a call leaves the row as it is, or saves it. -/
def credentialLineage : Lineage database CredentialRow where
  holds db row := row ∈ db.credentials.rows
  ancestor was row := was = row
  makes _ call row := call = .credentials (.save row.tenant row.person row.hash)
  refl _ := rfl
  trans h h' := h.trans h'
  step := Database.credential_comes_from

/-- Letters: a call passes on everything but the moment of use, or issues a new one. -/
def tokenLineage : Lineage database OneTimeToken where
  holds db row := row ∈ db.tokens.rows
  ancestor was row := was.Becomes row
  makes _ call row := call = .tokens (.issue row)
  refl := OneTimeToken.Becomes.refl
  trans := OneTimeToken.Becomes.trans
  step := Database.token_comes_from

/-- Roles: a call leaves the row as it is, or enrols its person with it. -/
def roleLineage : Lineage database RoleRow where
  holds db row := row ∈ db.roles.rows
  ancestor was row := was = row
  makes _ call row := ∃ enrolment roleIds, call = .directory (.enrol row.tenant enrolment roleIds) ∧
    row.person = enrolment.person.id ∧ enrolment.roles.has row.role = true
  refl _ := rfl
  trans h h' := h.trans h'
  step := Database.role_comes_from

/-! ### Runs -/

/-- A step with which a practice is opened. -/
def OpensPractice (tenant : TenantId) (t : Step ι Call.Answer Fault Database) : Prop :=
  ∃ practice zone opened, practice.id = tenant ∧
    t.entry = ⟨.practices (.open_ practice zone opened), .ok (.ok ())⟩

/-- How an invitation to a role came about: it was there from the start, somebody sent it, or
attached a mail to a child. -/
inductive InvitationSent (work : ι → Undertaking) (db : Database) (tenant : TenantId)
    (role : Role) : Prop where
  | letter {token : OneTimeToken} (stored : token ∈ db.tokens.rows)
      (within : token.tenant = tenant) (purpose : token.purpose = .invitation)
      (invitedTo : token.role = some role)
  | invitation {i : ι} {settings : AuthSettings} {rule : Result MaturityRule} {drawn : Drawn}
      {addressee : Option Email}
      (ordered : work i =
        .order ⟨settings, rule, drawn, .inviteParticipant tenant role addressee⟩)
  | attached {i : ι} {settings : AuthSettings} {rule : Result MaturityRule} {drawn : Drawn}
      {child : PersonId} {mail : Email}
      (ordered : work i = .order ⟨settings, rule, drawn, .attachAccount tenant child mail⟩)
      (student : role = .student)

/-- A step with which a person is enrolled with a role, and perhaps others. -/
structure Enrols (tenant : TenantId) (enrolment : Enrolment) (role : Role)
    (t : Step ι Call.Answer Fault Database) : Prop where
  op : ∃ roleIds, t.entry.op = .directory (.enrol tenant enrolment roleIds)
  role : enrolment.roles.has role = true

/-- How a person got a role. He was enrolled in the run, as the one who opened the practice, as a
child, or as the one who followed an invitation to the role. -/
inductive RoleGiven (work : ι → Undertaking) (db : Database)
    (steps : List (Step ι Call.Answer Fault Database)) (tenant : TenantId) (person : PersonId)
    (role : Role) : Prop where
  | opening {t u : Step ι Call.Answer Fault Database} {settings : AuthSettings}
      {rule : Result MaturityRule} {drawn : Drawn} {request : OpenPracticeRequest}
      {enrolment : Enrolment} (ht : t ∈ steps) (hu : u ∈ steps)
      (ordered : work t.thread = .order ⟨settings, rule, drawn, .openPractice request⟩)
      (same : u.thread = t.thread) (opens : OpensPractice tenant u)
      (enrols : Enrols tenant enrolment role t) (who : enrolment.person.id = person)
      (mail : enrolment.person.mail = some request.mail) (own : role = .owner ∨ role = .tutor)
  | child {t : Step ι Call.Answer Fault Database} {drawn : Drawn} {request : EnrolChildRequest}
      {enrolment : Enrolment} (ht : t ∈ steps) (ordered : work t.thread = .enrolChild drawn request)
      (within : request.tenant = tenant) (enrols : Enrols tenant enrolment role t)
      (who : enrolment.person.id = person) (drawnFor : person = drawn.personId)
      (student : role = .student)
  | invitation {t : Step ι Call.Answer Fault Database} {settings : AuthSettings}
      {rule : Result MaturityRule} {drawn : Drawn} {request : AcceptInvitationRequest}
      {enrolment : Enrolment} (ht : t ∈ steps)
      (ordered : work t.thread = .order ⟨settings, rule, drawn, .acceptInvitation request⟩)
      (within : request.tenant = tenant) (enrols : Enrols tenant enrolment role t)
      (who : enrolment.person.id = person) (mail : enrolment.person.mail = some request.mail)
      (invited : InvitationSent work db tenant role)

/-- Nothing of a practice lets anybody in: there is no session, no password and no letter. -/
structure Database.IsShut (tenant : TenantId) (db : Database) : Prop where
  sessions : ∀ row ∈ db.sessions.rows, row.id.tenant ≠ tenant
  credentials : ∀ row ∈ db.credentials.rows, row.tenant ≠ tenant
  tokens : ∀ row ∈ db.tokens.rows, row.tenant ≠ tenant

/-- Somebody is invited to the practice. -/
def Undertaking.InvitesTo (tenant : TenantId) : Undertaking → Prop
  | .order ⟨_, _, _, .inviteParticipant within _ _⟩ => within = tenant
  | .order ⟨_, _, _, .attachAccount within _ _⟩ => within = tenant
  | _ => False

section Runs

variable [DecidableEq ι] {digests : Digests} {hasher : PasswordHasher} {work : ι → Undertaking}
  {pool' : ι → Scenario Unit} {db db' : Database}
  {steps early late : List (Step ι Call.Answer Fault Database)}
  {t : Step ι Call.Answer Fault Database} {tenant : TenantId} {role : Role}

/-- **Nobody is signed in without a reason.** Scenarios run in any order, each beside the others.
A session that is there at the end and was not at the start was saved by a scenario that had been
told what lets its person in. -/
theorem every_session_was_earned
    (hrun : Runs database (fun i => (work i).scenario digests hasher) db steps pool' db')
    {session : Session} (hrow : session ∈ db'.sessions.rows) (hnew : db.IsAbsent session.id) :
    ∃ early t late opened, steps = early ++ t :: late ∧ t.entry.op = .sessions (.save opened) ∧
      opened.id = session.id ∧ opened.person = session.person ∧
      LetIn digests hasher (historyOf t.thread early) (work t.thread) session.id.tenant
        session.person := by
  rcases hrun.end_comes_from sessionLineage
    (fun i => Undertaking.grounded digests hasher (work i)) hrow with ⟨was, hwas, hid, -⟩ |
    ⟨early, t, late, opened, rfl, ⟨habsent, hop⟩, ⟨hid, hperson⟩, hgrounds⟩
  · exact absurd hid (hnew was hwas)
  · refine ⟨early, t, late, opened, rfl, hop, hid, hperson, ?_⟩
    rw [hop] at hgrounds
    rcases hgrounds with ⟨id, found, hfound, hsame⟩ | hin
    · -- a session that was found is not saved for the first time
      obtain ⟨before, u, after, rfl, -, -, hexec⟩ := hrun.told hfound
      have hkept := Database.keeps_hasSession opened.id found.person
      have hthere : t.before.HasSession opened.id found.person := by
        refine hrun.keeps_between (fun v hv => hrun.kept_step hkept (by simp [hv])) ?_
        exact hrun.kept_step hkept (by simp)
          ⟨found, (Database.session_of_find hexec).1, hsame, rfl⟩
      obtain ⟨row, hmem, hrowId, -⟩ := hthere
      exact absurd hrowId (habsent row hmem)
    · rwa [hid, hperson] at hin

/-- A password that was not there at the start was set by a scenario that had been told what lets
its person in. -/
theorem every_password_was_set
    (hrun : Runs database (fun i => (work i).scenario digests hasher) db steps pool' db')
    {row : CredentialRow} (hrow : row ∈ db'.credentials.rows) (hnew : row ∉ db.credentials.rows) :
    ∃ early t late, steps = early ++ t :: late ∧
      t.entry.op = .credentials (.save row.tenant row.person row.hash) ∧
      LetIn digests hasher (historyOf t.thread early) (work t.thread) row.tenant row.person := by
  rcases hrun.end_comes_from credentialLineage
    (fun i => Undertaking.grounded digests hasher (work i)) hrow with ⟨was, hwas, rfl⟩ |
    ⟨early, t, late, made, rfl, hop, rfl, hgrounds⟩
  · exact absurd hwas hnew
  · refine ⟨early, t, late, rfl, hop, ?_⟩
    rw [hop] at hgrounds
    exact hgrounds

omit [DecidableEq ι] in
/-- Whoever sends an invitation gives its role. -/
theorem Sent.gives {told : Told} {sender : Undertaking} {token : OneTimeToken}
    (h : Sent told sender token) {i : ι} (hwork : work i = sender)
    (purpose : token.purpose = .invitation) (hrole : token.role = some role) :
    InvitationSent work db token.tenant role := by
  cases h with
  | invitation within _ invitedTo =>
    subst within
    obtain rfl := Option.some.inj (hrole.symm.trans invitedTo)
    exact .invitation hwork
  | attached within _ invitedTo =>
    subst within
    exact .attached hwork (Option.some.inj (hrole.symm.trans invitedTo))
  | reset _ _ reset _ =>
    rw [reset] at purpose
    cases purpose

/-- An invitation that a step finds was there at the start, or somebody sent it before. -/
theorem role_of_letter
    (hrun : Runs database (fun i => (work i).scenario digests hasher) db (early ++ t :: late)
      pool' db') {token : OneTimeToken} (found : token ∈ t.before.tokens.rows)
    (purpose : token.purpose = .invitation) (hrole : token.role = some role) :
    InvitationSent work db token.tenant role := by
  rcases hrun.comes_from tokenLineage (fun i => Undertaking.grounded digests hasher (work i))
    found with ⟨was, hwas, hbecomes⟩ | ⟨before, u, after, issued, rfl, hop, hbecomes, hgrounds⟩
  · obtain ⟨⟨usedAt, rfl⟩, -⟩ := hbecomes
    exact .letter hwas rfl purpose hrole
  · obtain ⟨⟨usedAt, rfl⟩, -⟩ := hbecomes
    rw [hop] at hgrounds
    have hsent : Sent (historyOf u.thread before) (work u.thread) issued := hgrounds
    exact hsent.gives rfl purpose hrole

/-- The roles of an enrolment were given to the person who is enrolled. -/
theorem Empowered.gives
    (hrun : Runs database (fun i => (work i).scenario digests hasher) db (early ++ t :: late)
      pool' db') {enroller : Undertaking} {enrolment : Enrolment}
    (h : Empowered digests (historyOf t.thread early) enroller tenant enrolment)
    (hwork : work t.thread = enroller) (henrols : Enrols tenant enrolment role t) :
    RoleGiven work db (early ++ t :: late) tenant enrolment.person.id role := by
  have ht : t ∈ early ++ t :: late := List.mem_append_right _ List.mem_cons_self
  have hrole := henrols.role
  cases h with
  | @invitation settings rule drawn request token _ shown purpose mail roles =>
    refine .invitation ht hwork rfl henrols rfl mail ?_
    obtain ⟨before, u, after, rfl, -, -, hexec⟩ := hrun.told shown.found
    obtain ⟨hmem, htenant, -⟩ := Database.mem_of_find hexec
    rw [List.append_assoc, List.cons_append] at hrun
    rw [roles, BitSet.has_ofList, decide_eq_true_eq, List.mem_singleton] at hrole
    rw [← htenant]
    exact role_of_letter hrun hmem purpose (hrole ▸ (Option.some_get _).symm)
  | opening opened mail roles =>
    obtain ⟨before, u, after, rfl, hthread, hentry, -⟩ := hrun.told opened
    rw [roles, BitSet.has_ofList, decide_eq_true_eq] at hrole
    exact .opening ht (by simp) hwork hthread ⟨_, _, _, rfl, hentry⟩ henrols rfl mail
      (by simpa using hrole)
  | child drawnFor roles =>
    rw [roles, BitSet.has_ofList, decide_eq_true_eq, List.mem_singleton] at hrole
    exact .child ht hwork rfl henrols rfl drawnFor hrole

/-- **Nobody has a role that nobody gave.** Scenarios run in any order. A role that somebody has
at the end and had not at the start was given to him: he was enrolled by the scenario that opened
the practice, or as a child, or because he followed an invitation to this role in this practice,
and the invitation was there at the start or was sent. -/
theorem every_role_was_given
    (hrun : Runs database (fun i => (work i).scenario digests hasher) db steps pool' db')
    {row : RoleRow} (hrow : row ∈ db'.roles.rows) :
    row ∈ db.roles.rows ∨ RoleGiven work db steps row.tenant row.person row.role := by
  rcases hrun.end_comes_from roleLineage
    (fun i => Undertaking.grounded digests hasher (work i)) hrow with ⟨was, hwas, rfl⟩ |
    ⟨early, t, late, made, rfl, ⟨enrolment, roleIds, hop, hperson, hrole⟩, rfl, hgrounds⟩
  · exact Or.inl hwas
  · rw [hop] at hgrounds
    rw [hperson]
    exact Or.inr (Empowered.gives hrun hgrounds rfl ⟨⟨roleIds, hop⟩, hrole⟩)

section Shut

variable (hrun : Runs database (fun i => (work i).scenario digests hasher) db (early ++ t :: late)
  pool' db') (hshut : ∀ u ∈ early, u.before.IsShut tenant)
include hrun hshut

theorem letter_not_found {i : ι} {secret : Digest} {token : OneTimeToken} :
    ¬ Told.Has (historyOf i early) (.tokens (.find tenant secret)) (some token) := by
  intro hfound
  obtain ⟨before, u, after, rfl, -, -, hexec⟩ := hrun.told hfound
  obtain ⟨hmem, hwithin, -⟩ := Database.mem_of_find hexec
  exact (hshut u (by simp)).tokens token hmem hwithin

theorem mail_not_known {i : ι} {mail : Email} {stored : Credential} :
    ¬ Told.Has (historyOf i early) (.credentials (.findByEmail tenant mail)) (some stored) := by
  intro hfound
  obtain ⟨before, u, after, rfl, -, -, hexec⟩ := hrun.told hfound
  obtain ⟨row, hrow, hwithin⟩ := Database.credential_of_findByEmail hexec
  exact (hshut u (by simp)).credentials row hrow hwithin

theorem session_not_found {i : ι} {id : SessionId} {found : Session}
    (hwithin : found.id.tenant = tenant) :
    ¬ Told.Has (historyOf i early) (.sessions (.find id)) (some found) := by
  intro hfound
  obtain ⟨before, u, after, rfl, -, -, hexec⟩ := hrun.told hfound
  exact (hshut u (by simp)).sessions found (Database.session_of_find hexec).1 hwithin

/-- Nobody is let in to a practice that was shut all the time and that nobody opened. -/
theorem LetIn.false_of_shut (hopens : ∀ u ∈ early, ¬ OpensPractice tenant u)
    {visitor : Undertaking} {person : PersonId}
    (h : LetIn digests hasher (historyOf t.thread early) visitor tenant person) : False := by
  cases h with
  | password read fits => exact mail_not_known hrun hshut read
  | invitation shown purpose enrolled marked => exact letter_not_found hrun hshut shown.found
  | reset shown purpose marked => exact letter_not_found hrun hshut shown.found
  | change shown live usable read old fits => exact session_not_found hrun hshut rfl shown
  | opening opened enrolled =>
    obtain ⟨before, u, after, rfl, -, hentry, -⟩ := hrun.told opened
    exact hopens u (by simp) ⟨_, _, _, rfl, hentry⟩

/-- One step keeps a practice shut to which its scenario invites nobody. -/
theorem isShut_after (hinvites : ¬ (work t.thread).InvitesTo tenant)
    (hopens : ∀ u ∈ early, ¬ OpensPractice tenant u) (hbefore : t.before.IsShut tenant) :
    t.after.IsShut tenant := by
  have hgrounds := hrun.grounded fun i => Undertaking.grounded digests hasher (work i)
  have hafter : t.after = (database.exec t.entry.op t.before).2 := by
    rw [hrun.exec_eq (List.mem_append_right _ List.mem_cons_self)]
  constructor
  · rintro row hrow rfl
    rw [hafter] at hrow
    rcases Database.session_comes_from _ _ row hrow with ⟨was, hwas, hid, -⟩ | ⟨-, hop⟩
    · exact hbefore.sessions was hwas (by rw [hid])
    · rw [hop] at hgrounds
      rcases hgrounds with ⟨id, found, hfound, hsame⟩ | hin
      · exact session_not_found hrun hshut (by rw [hsame]) hfound
      · exact LetIn.false_of_shut hrun hshut hopens hin
  · rintro row hrow rfl
    rw [hafter] at hrow
    rcases Database.credential_comes_from _ _ row hrow with ⟨was, hwas, rfl⟩ | hop
    · exact hbefore.credentials was hwas rfl
    · rw [hop] at hgrounds
      exact LetIn.false_of_shut hrun hshut hopens hgrounds
  · rintro row hrow rfl
    rw [hafter] at hrow
    rcases Database.token_comes_from _ _ row hrow with ⟨was, hwas, hbecomes⟩ | hop
    · obtain ⟨⟨usedAt, rfl⟩, -⟩ := hbecomes
      exact hbefore.tokens was hwas rfl
    · rw [hop] at hgrounds
      have hsent : Sent (historyOf t.thread early) (work t.thread) row := hgrounds
      generalize work t.thread = sender at hsent hinvites
      cases hsent with
      | invitation within purpose invitedTo => exact hinvites within.symm
      | attached within purpose invitedTo => exact hinvites within.symm
      | reset read within purpose of =>
        subst within
        exact mail_not_known hrun hshut read

end Shut

/-- **A shut practice stays shut.** Nothing of the practice lets anybody in at the start, nobody
opens it, and nobody is invited to it. Then nothing lets anybody in at the end, whatever the
scenarios are and in whatever order they run. -/
theorem shut_practice_stays_shut
    (hrun : Runs database (fun i => (work i).scenario digests hasher) db steps pool' db')
    (hshut : db.IsShut tenant) (hinvites : ∀ i, ¬ (work i).InvitesTo tenant)
    (hopens : ∀ t ∈ steps, ¬ OpensPractice tenant t) : db'.IsShut tenant := by
  refine (hrun.linked.keeps_looking_back hshut ?_).1
  rintro early t late rfl hpast hbefore
  exact isShut_after hrun hpast (hinvites t.thread)
    (fun u hu => hopens u (List.mem_append_left _ hu)) hbefore

end Runs

/-! ### An invitation that is followed, and a letter that is shown elsewhere -/

/-- A student is invited to practice 7, and follows the letter. -/
def invitedStudent : Bool → Undertaking
  | false => .order (orderAt 10 0
      (.inviteParticipant (repeated 7) .student (some (guestMail false))))
  | true => .order (orderAt 20 101 (.acceptInvitation
      { tenant := repeated 7
        secret := letterSecret
        displayName := ascii "student"
        mail := guestMail false
        bornOn := childEnrolled.bornOn
        zone := childEnrolled.zone
        password := ascii "password"
        seen := guestSeen }))

/-- The invitation is sent, and then it is followed. -/
def invitedStudentPlay : List (Step Bool Call.Answer Fault Database) ×
    (Bool → Scenario Unit) × Database :=
  play database (List.replicate 3 false ++ List.replicate 8 true)
    (fun i => (invitedStudent i).scenario standIn.digests standIn.hasher) {}

theorem invitedStudentPlay_runs : Runs database
    (fun i => (invitedStudent i).scenario standIn.digests standIn.hasher) {}
    invitedStudentPlay.1 invitedStudentPlay.2.1 invitedStudentPlay.2.2 :=
  play_runs database _ _ {}

/-- The session of the student, which he got for his letter. -/
theorem student_was_let_in :
    ∃ early t late opened, invitedStudentPlay.1 = early ++ t :: late ∧
      t.entry.op = .sessions (.save opened) ∧ opened.id = ⟨repeated 7, repeated 101⟩ ∧
      opened.person = repeated 101 ∧
      LetIn standIn.digests standIn.hasher (historyOf t.thread early) (invitedStudent t.thread)
        (repeated 7) (repeated 101) := by
  have hrow : (⟨⟨repeated 7, repeated 101⟩, repeated 101, 20, 86400000020, none, guestSeen⟩ :
      Session) ∈ invitedStudentPlay.2.2.sessions.rows := by
    rw [show invitedStudentPlay.2.2.sessions.rows = [_] from rfl]
    exact List.mem_singleton.2 rfl
  exact every_session_was_earned invitedStudentPlay_runs hrow
    fun row hrow => absurd hrow List.not_mem_nil

/-- The password of the student, which he set with his letter. -/
theorem student_set_his_password :
    ∃ early t late, invitedStudentPlay.1 = early ++ t :: late ∧
      t.entry.op =
        .credentials (.save (repeated 7) (repeated 101) (standInHash plainPassword)) ∧
      LetIn standIn.digests standIn.hasher (historyOf t.thread early) (invitedStudent t.thread)
        (repeated 7) (repeated 101) := by
  have hrow : (⟨repeated 7, repeated 101, standInHash plainPassword⟩ : CredentialRow) ∈
      invitedStudentPlay.2.2.credentials.rows := by
    rw [show invitedStudentPlay.2.2.credentials.rows = [_] from rfl]
    exact List.mem_singleton.2 rfl
  exact every_password_was_set invitedStudentPlay_runs hrow List.not_mem_nil

/-- The role of the student, to which he was invited. -/
theorem student_was_given_his_role :
    RoleGiven invitedStudent {} invitedStudentPlay.1 (repeated 7) (repeated 101) .student := by
  have hrow : (⟨repeated 7, repeated 103, repeated 101, .student, none⟩ : RoleRow) ∈
      invitedStudentPlay.2.2.roles.rows := by
    rw [show invitedStudentPlay.2.2.roles.rows = [_] from rfl]
    exact List.mem_singleton.2 rfl
  exact (every_role_was_given invitedStudentPlay_runs hrow).resolve_left List.not_mem_nil

/-- A stranger shows the letter of practice 7 in practice 8, and a password that he made up. -/
def strangers : Bool → Undertaking
  | false => .order (orderAt 20 101 (.acceptInvitation
      { tenant := repeated 8
        secret := letterSecret
        displayName := ascii "stranger"
        mail := guestMail false
        bornOn := childEnrolled.bornOn
        zone := childEnrolled.zone
        password := ascii "password"
        seen := guestSeen }))
  | true => .order (orderAt 20 105 (.signIn
      { tenant := repeated 8
        mail := guestMail true
        secret := ascii "password"
        current := none
        seen := guestSeen }))

/-- One after the other they try. -/
def strangersPlay : List (Step Bool Call.Answer Fault Database) × (Bool → Scenario Unit) ×
    Database :=
  play database (List.replicate 2 false ++ List.replicate 6 true)
    (fun i => (strangers i).scenario standIn.digests standIn.hasher) letterSent

/-- The stranger gets into practice 8 in neither way. -/
theorem strangers_stay_out : strangersPlay.2.2.IsShut (repeated 8) := by
  have hrun : Runs database (fun i => (strangers i).scenario standIn.digests standIn.hasher)
      letterSent strangersPlay.1 strangersPlay.2.1 strangersPlay.2.2 :=
    play_runs database _ _ letterSent
  have hports : strangersPlay.1.map (·.entry.op.port) =
      [.tokens, .attempts, .attempts, .credentials, .attempts, .attempts] := rfl
  refine shut_practice_stays_shut hrun ⟨?_, ?_, ?_⟩ (fun i => ?_) ?_
  · exact fun row hrow => absurd hrow List.not_mem_nil
  · exact fun row hrow => absurd hrow List.not_mem_nil
  · intro row hrow
    obtain rfl := List.mem_singleton.1 hrow
    decide
  · cases i <;> exact id
  · rintro t ht ⟨practice, zone, opened, -, hentry⟩
    have hport : t.entry.op.port ∈ strangersPlay.1.map (·.entry.op.port) :=
      List.mem_map_of_mem ht
    rw [hports, hentry] at hport
    exact absurd (show Port.practices ∈ [_, _, _, _, _, _] from hport) (by decide)

end Pdr.Identity
