import Pdr.Identity.Application.Footprint
import Pdr.Identity.Application.Outcomes
import Pdr.Identity.Application.ResetLinks

/-!
# Which sessions live after a change of the password

Six scenarios write the table of sessions: four of them open a session under a fresh secret,
two close the session that was shown, and two close every session of a person at once. A save
overwrites the moment of revocation, but a scenario saves either a session that nobody has
stored or one it has just read, so a closed session stays closed at the moment it was closed
first.

## Main definitions

* `Pdr.Identity.DrawsFresh`: the secret drawn for a turn names no stored session.
* `Pdr.Identity.IsRefusal`: the scenario ended with a refusal and not with an exception.
* `Pdr.Identity.OnlyLives`: one session of its person is usable and no other.

## Main results

* `Pdr.Identity.maintains_closed`: a closed session stays as it is.
* `Pdr.Identity.sessions_of_passwordReplaced`: the sessions after a password was replaced.
* `Pdr.Identity.spares_sessions`: a refused scenario touches no session and no credential.
* `Pdr.Identity.only_the_returned_session_lives`: the three over any sequential run.
-/

namespace Pdr.Identity

open StoreProgram Program

/-! ### A closed session -/

section Closed

variable {drawn : Drawn} {row : Session}

/-- The row is stored as it is. -/
def Stored (row : Session) (db : Database) : Prop := row ∈ db.sessions.rows

/-- A save keeps a row unless it is a save of that session with another revocation. -/
theorem stored_of_save {session : Session} {db : Database}
    (hsame : session.id = row.id → session.revokedAt = row.revokedAt) (h : Stored row db) :
    Stored row (database.exec (.sessions (.save session)) db).2 := by
  rw [Stored, exec_sessions, SessionCall.exec, commit_snd]
  cases hsaved : db.sessions.upsert _ _ _ with
  | none => exact h
  | some table =>
    have hkept := Table.keeps_mem_of_upsert hsaved h
    split at hkept
    · rename_i hid
      have hrevoked := hsame (of_decide_eq_true hid).symm
      rwa [hrevoked] at hkept
    · exact hkept

/-- Closing every session of a person keeps a closed one as it is. -/
theorem stored_of_revokeAllFor {tenant : TenantId} {person : PersonId} {at_ : Int} {db : Database}
    (hrevoked : row.revokedAt.isSome = true) (h : Stored row db) :
    Stored row (database.exec (.sessions (.revokeAllFor tenant person at_)) db).2 := by
  rw [Stored, exec_sessions, SessionCall.exec, commit_snd]
  cases hall : db.sessions.updateWhere _ _ with
  | none => exact h
  | some table =>
    have hkept := Table.keeps_mem_of_updateWhere hall h
    rwa [if_neg (by simp [Option.isSome_iff_ne_none.1 hrevoked])] at hkept

/-- The session that is shown is found as it is stored, and closing it twice changes nothing. -/
theorem maintains_revokeCurrent (hrevoked : row.revokedAt.isSome = true)
    (current : Option SessionId) (now : Int) :
    (revokeCurrent current now).Maintains database (Stored row) := by
  intro db h
  cases current with
  | none => exact h
  | some id =>
    rw [revokeCurrent, run_bind, run_perform]
    cases hfind : db.sessions.find? (·.id = id) with
    | none => simpa [SessionCall.exec, hfind] using h
    | some previous =>
      have hmem := Table.mem_of_find? hfind
      simp only [exec_sessions, SessionCall.exec, hfind, run_perform]
      refine stored_of_save (fun hid => ?_) h
      rw [Session.id_revoked] at hid
      obtain rfl := db.sessions.eq_of_clash hmem h (by simp [Schema.clash, hid])
      rw [Session.revoked, if_pos hrevoked]

theorem maintains_openSession (hfresh : row.id.secret ≠ drawn.sessionSecret)
    (lifetimes : AuthLifetimes) (tenant : TenantId) (person : PersonId) (now : Int)
    (seen : Fingerprint) :
    (openSession lifetimes drawn tenant person now seen).Maintains database (Stored row) := by
  simp only [openSession, Session.open_of_pos lifetimes.positive.1, accept_ok, done_bind]
  refine Maintains.bind (maintains_perform.2 fun db h => stored_of_save (fun hid => ?_) h)
    fun _ => maintains_done _
  exact absurd (by rw [← hid]) hfresh

end Closed

/-! ### How the scenarios reach the sessions -/

/-- Every store but the sessions. -/
def otherPorts : List Port :=
  [.tokens, .accounts, .directory, .credentials, .attempts, .guardianships, .consents, .practices,
    .signups]

/-- What a predicate needs of the parts that reach the sessions, to be kept by a scenario. -/
structure KeptBySessionWrites (drawn : Drawn) (P : Database → Prop) : Prop where
  other : ∀ call : Call, call.IsTo otherPorts → ∀ db, P db → P (database.exec call db).2
  closing : ∀ current now, (revokeCurrent current now).Maintains database P
  closingAll : ∀ tenant person at_ db, P db →
    P (database.exec (.sessions (.revokeAllFor tenant person at_)) db).2
  opening : ∀ lifetimes tenant person now seen,
    (openSession lifetimes drawn tenant person now seen).Maintains database P

section Reaching

variable {ports : AuthPorts} {drawn : Drawn} {P : Database → Prop}

theorem KeptBySessionWrites.apart {α : Type} {part : Scenario α} {used : List Port}
    (kept : KeptBySessionWrites drawn P) (hpart : part.Only (Call.IsTo used))
    (hused : used ⊆ otherPorts := by decide) : part.Maintains database P :=
  maintains_of_only kept.other (hpart.mono (Call.IsTo.mono hused))

theorem KeptBySessionWrites.ask (kept : KeptBySessionWrites drawn P) {call : Call}
    (hcall : call.IsTo otherPorts) : (ask call).Maintains database P :=
  maintains_perform.2 (kept.other call hcall)

theorem KeptBySessionWrites.signIn (kept : KeptBySessionWrites drawn P) (request : SignInRequest) :
    (signIn ports drawn request).Maintains database P := by
  refine Maintains.bind (maintains_ofExcept _) fun _ => ?_
  refine Maintains.bind (maintains_ofExcept _) fun limits => ?_
  refine Maintains.bind (maintains_ofExcept _) fun lifetimes => ?_
  refine Maintains.bind (kept.apart (footprint_refuseIfBlocked ..)) fun _ => ?_
  refine Maintains.bind (kept.apart (footprint_refuseIfBlocked ..)) fun _ => ?_
  refine Maintains.bind (kept.ask rfl) fun found => ?_
  cases matchedPerson ports.hasher (Password.given request.secret) found with
  | none =>
    refine Maintains.bind (kept.ask rfl) fun _ => Maintains.bind (kept.ask rfl) fun _ => ?_
    exact maintains_raise _
  | some person =>
    refine Maintains.bind (kept.ask rfl) fun _ => Maintains.bind (kept.ask rfl) fun _ => ?_
    exact Maintains.bind (kept.closing _ _) fun _ => kept.opening _ _ _ _ _

theorem KeptBySessionWrites.acceptInvitation (kept : KeptBySessionWrites drawn P)
    (request : AcceptInvitationRequest) :
    (acceptInvitation ports drawn request).Maintains database P := by
  refine Maintains.bind (maintains_ofExcept _) fun rules => ?_
  refine Maintains.bind (maintains_ofExcept _) fun lifetimes => ?_
  refine Maintains.bind (kept.ask rfl) fun found => ?_
  cases found with
  | none => exact maintains_raise _
  | some found =>
    dsimp only
    split
    · refine Maintains.bind (maintains_ofExcept _) fun used => ?_
      refine Maintains.bind (maintains_ofExcept _) fun chosen => ?_
      refine Maintains.bind (maintains_ofExcept _) fun hash => ?_
      refine Maintains.bind (kept.apart (footprint_accountOf ..)) fun account => ?_
      refine Maintains.bind (kept.ask rfl) fun enrolled => ?_
      refine Maintains.bind (maintains_ofExcept _) fun _ => ?_
      refine Maintains.bind (kept.ask rfl) fun _ => Maintains.bind (kept.ask rfl) fun _ => ?_
      exact kept.opening _ _ _ _ _
    · exact maintains_raise _

theorem KeptBySessionWrites.openPractice (kept : KeptBySessionWrites drawn P)
    (request : OpenPracticeRequest) : (openPractice ports drawn request).Maintains database P := by
  refine Maintains.bind (maintains_ofExcept _) fun rules => ?_
  refine Maintains.bind (maintains_ofExcept _) fun lifetimes => ?_
  refine Maintains.bind (maintains_ofExcept _) fun chosen => ?_
  refine Maintains.bind (maintains_ofExcept _) fun hash => ?_
  refine Maintains.bind (kept.apart (footprint_accountOf ..)) fun account => ?_
  refine Maintains.bind (maintains_ofExcept _) fun practice => ?_
  refine Maintains.bind (kept.ask rfl) fun opened => ?_
  refine Maintains.bind (maintains_ofExcept _) fun _ => ?_
  refine Maintains.bind (kept.ask rfl) fun enrolled => ?_
  refine Maintains.bind (maintains_ofExcept _) fun _ => ?_
  refine Maintains.bind (kept.ask rfl) fun _ => ?_
  exact Maintains.bind (kept.opening _ _ _ _ _) fun _ => maintains_done _

theorem KeptBySessionWrites.replacePassword (kept : KeptBySessionWrites drawn P)
    (lifetimes : AuthLifetimes) (tenant : TenantId) (person : PersonId) (hash : PasswordHash)
    (now : Int) (seen : Fingerprint) :
    (replacePassword lifetimes drawn tenant person hash now seen).Maintains database P := by
  refine Maintains.bind (kept.ask rfl) fun _ => ?_
  exact Maintains.bind (maintains_perform.2 (kept.closingAll _ _ _)) fun _ => kept.opening _ _ _ _ _

theorem KeptBySessionWrites.resetPassword (kept : KeptBySessionWrites drawn P)
    (request : ResetPasswordRequest) :
    (resetPassword ports drawn request).Maintains database P := by
  refine Maintains.bind (maintains_ofExcept _) fun rules => ?_
  refine Maintains.bind (maintains_ofExcept _) fun lifetimes => ?_
  refine Maintains.bind (kept.ask rfl) fun found => ?_
  cases found with
  | none => exact maintains_raise _
  | some found =>
    dsimp only
    split
    · refine Maintains.bind (maintains_ofExcept _) fun used => ?_
      refine Maintains.bind (maintains_ofExcept _) fun chosen => ?_
      refine Maintains.bind (maintains_ofExcept _) fun hash => ?_
      exact Maintains.bind (kept.ask rfl) fun _ => kept.replacePassword _ _ _ _ _ _
    · exact maintains_raise _

theorem KeptBySessionWrites.changePassword (kept : KeptBySessionWrites drawn P)
    (request : ChangePasswordRequest) :
    (changePassword ports drawn request).Maintains database P := by
  refine Maintains.bind (maintains_ofExcept _) fun rules => ?_
  refine Maintains.bind (maintains_ofExcept _) fun lifetimes => ?_
  refine Maintains.bind ?_ fun session => ?_
  · refine Maintains.bind (maintains_perform.2 fun _ h => h) fun found => ?_
    cases found with
    | none => exact maintains_raise _
    | some found =>
      dsimp only
      split
      · exact maintains_raise _
      · split
        · exact maintains_raise _
        · exact maintains_done _
  refine Maintains.bind (kept.apart (footprint_checkOldPassword ..)) fun _ => ?_
  refine Maintains.bind (maintains_ofExcept _) fun chosen => ?_
  refine Maintains.bind (maintains_ofExcept _) fun hash => ?_
  exact kept.replacePassword _ _ _ _ _ _

end Reaching

/-- A scenario reaches the sessions by these parts and by no other. -/
theorem Order.maintains_of_session_writes {P : Database → Prop} (digests : Digests)
    (hasher : PasswordHasher) (order : Order) (kept : KeptBySessionWrites order.drawn P) :
    (order.scenario digests hasher).Maintains database P := by
  obtain ⟨settings, rule, drawn, intent⟩ := order
  cases intent with
  | signIn request => exact kept.signIn request
  | signOut id => exact kept.closing (some id) (drawn.clock 0)
  | acceptInvitation request => exact kept.acceptInvitation request
  | openPractice request => exact kept.openPractice request
  | resetPassword request => exact kept.resetPassword request
  | changePassword request => exact kept.changePassword request
  | inviteParticipant tenant role addressee => exact kept.apart (footprint_inviteParticipant ..)
  | requestPasswordReset tenant mail => exact kept.apart (footprint_requestPasswordReset ..)
  | registerOnMyOwn mail from_ => exact kept.apart (footprint_registerOnMyOwn ..)
  | confirmEmail account shown => exact kept.apart (footprint_confirmEmail ..)
  | attachAccount tenant child mail => exact kept.apart (footprint_attachAccount ..)
  | grantGuardianScope request => exact kept.apart (footprint_grantGuardianScope ..)
  | revokeGuardianScope request => exact kept.apart (footprint_revokeGuardianScope ..)

/-- **A closed session stays as it is**, whatever scenario runs. -/
theorem maintains_closed (digests : Digests) (hasher : PasswordHasher) {order : Order}
    {row : Session} (hrevoked : row.revokedAt.isSome = true)
    (hfresh : row.id.secret ≠ order.drawn.sessionSecret) :
    (order.scenario digests hasher).Maintains database (Stored row) := by
  refine order.maintains_of_session_writes digests hasher
    ⟨fun call hcall db h => ?_, maintains_revokeCurrent hrevoked,
      fun tenant person at_ db => stored_of_revokeAllFor hrevoked, maintains_openSession hfresh⟩
  cases call with
  | sessions call => cases hcall
  | _ => exact h

/-! ### After a password was replaced -/

/-- A session of the person that was open is closed, every other row is as it was. -/
def closedFor (tenant : TenantId) (person : PersonId) (at_ : Int) (row : Session) : Session :=
  if row.id.tenant = tenant ∧ row.person = person ∧ row.revokedAt = none then
    { row with revokedAt := some at_ }
  else row

theorem closedFor_of_other {tenant : TenantId} {person : PersonId} {at_ : Int} {row : Session}
    (h : ¬ (row.id.tenant = tenant ∧ row.person = person)) :
    closedFor tenant person at_ row = row :=
  if_neg fun hopen => h ⟨hopen.1, hopen.2.1⟩

@[simp] theorem closedFor_id (tenant : TenantId) (person : PersonId) (at_ : Int) (row : Session) :
    (closedFor tenant person at_ row).id = row.id := by
  unfold closedFor
  split <;> rfl

@[simp] theorem closedFor_person (tenant : TenantId) (person : PersonId) (at_ : Int)
    (row : Session) : (closedFor tenant person at_ row).person = row.person := by
  unfold closedFor
  split <;> rfl

theorem isSome_revokedAt_closedFor {tenant : TenantId} {person : PersonId} {at_ : Int}
    {row : Session} (htenant : row.id.tenant = tenant) (hperson : row.person = person) :
    (closedFor tenant person at_ row).revokedAt.isSome = true := by
  unfold closedFor
  split
  · rfl
  · rename_i hclosed
    exact Option.isSome_iff_ne_none.2 fun hopen => hclosed ⟨htenant, hperson, hopen⟩

/-- The rows after a password was replaced: those of before, the person's closed, and the new
one. -/
theorem sessions_of_passwordReplaced {tenant : TenantId} {person : PersonId} {now : Int}
    {session : Session} {db db' : Database}
    (h : PasswordReplaced tenant person now db session db')
    (hnew : ∀ row ∈ db.sessions.rows, row.id ≠ session.id) (row : Session) :
    row ∈ db'.sessions.rows ↔
      (∃ old ∈ db.sessions.rows, row = closedFor tenant person now old) ∨ row = session := by
  obtain ⟨hash, db₁, db₂, hcredential, hrevoke, hsave⟩ := h.calls
  have hsessions₁ : db₁.sessions = db.sessions :=
    (congrArg (fun done => done.2.sessions) hcredential).symm
  have hall := commit_fst_ok (congrArg Prod.fst hrevoke)
  have hsessions₂ : (SessionCall.exec _ db₁.sessions).2 = db₂.sessions :=
    congrArg (fun done => done.2.sessions) hrevoke
  have hmem₂ : ∀ row, row ∈ db₂.sessions.rows ↔
      ∃ old ∈ db.sessions.rows, row = closedFor tenant person now old := by
    intro row
    rw [← hsessions₂, ← hsessions₁]
    refine (Table.mem_updateWhere hall row).trans ?_
    simp only [closedFor, Bool.and_eq_true, decide_eq_true_eq, Option.isNone_iff_eq_none, and_assoc]
  have hsaved := commit_fst_ok (congrArg Prod.fst hsave)
  have hsessions₃ : (SessionCall.exec _ db₂.sessions).2 = db'.sessions :=
    congrArg (fun done => done.2.sessions) hsave
  rcases Table.upsert_cases hsaved with ⟨⟨stored, hstored, hsame⟩, -⟩ | ⟨-, hinsert⟩
  · obtain ⟨old, hold, rfl⟩ := (hmem₂ stored).1 hstored
    rw [decide_eq_true_eq, closedFor_id] at hsame
    exact absurd hsame (hnew old hold)
  · rw [← hsessions₃, ← hmem₂]
    exact Table.mem_insert hinsert row

/-! ### A refused scenario -/

/-- The scenario ended with a refusal and not with an exception. -/
def IsRefusal (fault : Fault) : Prop := ∃ error, fault = .refused error

/-- The sessions and the credentials. -/
def lettingIn (db : Database) : Table Session × Table CredentialRow := (db.sessions, db.credentials)

/-- A call that writes no session and no credential. -/
def LeavesLettingIn (call : Call) : Prop := ∀ db, lettingIn (database.exec call db).2 = lettingIn db

/-- Every store but the sessions and the credentials. -/
def quietPorts : List Port :=
  [.tokens, .accounts, .directory, .attempts, .guardianships, .consents, .practices, .signups]

theorem leavesLettingIn_of_isTo (call : Call) (h : call.IsTo quietPorts) :
    LeavesLettingIn call := by
  intro db
  cases call with
  | sessions call => cases h
  | credentials call => cases h
  | _ => rfl

theorem spares_bind {α β : Type} {part : Scenario α} {rest : α → Scenario β}
    (hpart : part.Only LeavesLettingIn)
    (hrest : ∀ value, (rest value).Spares database IsRefusal lettingIn) :
    (part >>= rest).Spares database IsRefusal lettingIn :=
  Spares.bind (fun _ => maintains_of_only (fun call hcall db h => by rw [hcall db, h]) hpart) hrest

theorem leaves_of_only {α : Type} {part : Scenario α} {used : List Port}
    (hpart : part.Only (Call.IsTo used)) (hused : used ⊆ quietPorts := by decide) :
    part.Only LeavesLettingIn :=
  hpart.mono fun call hcall => leavesLettingIn_of_isTo call (Call.IsTo.mono hused call hcall)

theorem spares_accept_bind {α β : Type} {result : Result α} {rest : α → Scenario β}
    (hrest : ∀ value, (rest value).Spares database IsRefusal lettingIn) :
    (accept result >>= rest).Spares database IsRefusal lettingIn :=
  spares_bind (honours_ofExcept _) hrest

theorem spares_of_only {α : Type} {part : Scenario α} (hpart : part.Only LeavesLettingIn) :
    part.Spares database IsRefusal lettingIn := by
  intro db fault db' h _
  have hkept := maintains_of_only (P := fun later => lettingIn later = lettingIn db)
    (fun call hcall later h => by rw [hcall later, h]) hpart db rfl
  rwa [h] at hkept

theorem leaves_ask {call : Call} (h : LeavesLettingIn call) : (ask call).Only LeavesLettingIn :=
  (honours_perform _).2 h

theorem avoids_ask (call : Call) : (ask call).Avoids database IsRefusal := by
  refine avoids_perform (fun call db error h => ?_) call
  rintro ⟨refusal, rfl⟩
  exact exec_ne_refused call db refusal h

theorem avoids_openSession (lifetimes : AuthLifetimes) (drawn : Drawn) (tenant : TenantId)
    (person : PersonId) (now : Int) (seen : Fingerprint) :
    (openSession lifetimes drawn tenant person now seen).Avoids database IsRefusal := by
  simp only [openSession, Session.open_of_pos lifetimes.positive.1, accept_ok, done_bind]
  exact (avoids_ask _).bind fun _ => avoids_done _

theorem avoids_revokeCurrent (current : Option SessionId) (now : Int) :
    (revokeCurrent current now).Avoids database IsRefusal := by
  cases current with
  | none => exact avoids_done _
  | some id =>
    refine (avoids_ask _).bind fun found => ?_
    cases found with
    | none => exact avoids_done _
    | some previous => exact avoids_ask _

theorem avoids_replacePassword (lifetimes : AuthLifetimes) (drawn : Drawn) (tenant : TenantId)
    (person : PersonId) (hash : PasswordHash) (now : Int) (seen : Fingerprint) :
    (replacePassword lifetimes drawn tenant person hash now seen).Avoids database IsRefusal :=
  (avoids_ask _).bind fun _ => (avoids_ask _).bind fun _ => avoids_openSession _ _ _ _ _ _

section Refused

variable {ports : AuthPorts} {drawn : Drawn}

theorem spares_signIn (request : SignInRequest) :
    (signIn ports drawn request).Spares database IsRefusal lettingIn := by
  refine spares_accept_bind fun _ => spares_accept_bind fun limits => ?_
  refine spares_accept_bind fun lifetimes => ?_
  refine spares_bind (leaves_of_only (footprint_refuseIfBlocked ..)) fun _ => ?_
  refine spares_bind (leaves_of_only (footprint_refuseIfBlocked ..)) fun _ => ?_
  refine spares_bind (leaves_ask fun _ => rfl) fun found => ?_
  cases matchedPerson ports.hasher (Password.given request.secret) found with
  | none =>
    refine spares_bind (leaves_ask fun _ => rfl) fun _ => ?_
    exact spares_bind (leaves_ask fun _ => rfl) fun _ => spares_raise _
  | some person =>
    -- From here on nothing refuses.
    refine Avoids.spares ((avoids_ask _).bind fun _ => (avoids_ask _).bind fun _ => ?_)
    exact (avoids_revokeCurrent _ _).bind fun _ => avoids_openSession _ _ _ _ _ _

theorem spares_acceptInvitation (request : AcceptInvitationRequest) :
    (acceptInvitation ports drawn request).Spares database IsRefusal lettingIn := by
  refine spares_accept_bind fun rules => spares_accept_bind fun lifetimes => ?_
  refine spares_bind (leaves_ask fun _ => rfl) fun found => ?_
  cases found with
  | none => exact spares_raise _
  | some found =>
    dsimp only
    split
    · refine spares_accept_bind fun used => spares_accept_bind fun chosen => ?_
      refine spares_accept_bind fun hash => ?_
      refine spares_bind (leaves_of_only (footprint_accountOf ..)) fun account => ?_
      refine spares_bind (leaves_ask fun _ => rfl) fun enrolled => spares_accept_bind fun _ => ?_
      refine Avoids.spares ((avoids_ask _).bind fun _ => (avoids_ask _).bind fun _ => ?_)
      exact avoids_openSession _ _ _ _ _ _
    · exact spares_raise _

theorem spares_openPractice (request : OpenPracticeRequest) :
    (openPractice ports drawn request).Spares database IsRefusal lettingIn := by
  refine spares_accept_bind fun rules => spares_accept_bind fun lifetimes => ?_
  refine spares_accept_bind fun chosen => spares_accept_bind fun hash => ?_
  refine spares_bind (leaves_of_only (footprint_accountOf ..)) fun account => ?_
  refine spares_accept_bind fun practice => ?_
  refine spares_bind (leaves_ask fun _ => rfl) fun opened => spares_accept_bind fun _ => ?_
  refine spares_bind (leaves_ask fun _ => rfl) fun enrolled => spares_accept_bind fun _ => ?_
  refine Avoids.spares ((avoids_ask _).bind fun _ => ?_)
  exact (avoids_openSession _ _ _ _ _ _).bind fun _ => avoids_done _

theorem spares_resetPassword (request : ResetPasswordRequest) :
    (resetPassword ports drawn request).Spares database IsRefusal lettingIn := by
  refine spares_accept_bind fun rules => spares_accept_bind fun lifetimes => ?_
  refine spares_bind (leaves_ask fun _ => rfl) fun found => ?_
  cases found with
  | none => exact spares_raise _
  | some found =>
    dsimp only
    split
    · refine spares_accept_bind fun used => spares_accept_bind fun chosen => ?_
      refine spares_accept_bind fun hash => Avoids.spares ((avoids_ask _).bind fun _ => ?_)
      exact avoids_replacePassword _ _ _ _ _ _ _
    · exact spares_raise _

theorem spares_changePassword (request : ChangePasswordRequest) :
    (changePassword ports drawn request).Spares database IsRefusal lettingIn := by
  refine spares_accept_bind fun rules => spares_accept_bind fun lifetimes => ?_
  refine spares_bind ?_ fun session => ?_
  · refine honours_perform_bind (fun _ => rfl) fun found _ => ?_
    cases found with
    | none => trivial
    | some found =>
      dsimp only
      split
      · trivial
      · split <;> trivial
  refine spares_bind ?_ fun _ => ?_
  · refine honours_perform_bind (fun _ => rfl) fun stored _ => ?_
    cases stored with
    | none => trivial
    | some stored =>
      refine Honours.bind (honours_ofExcept _) fun given => ?_
      split <;> trivial
  refine spares_accept_bind fun chosen => spares_accept_bind fun hash => ?_
  exact (avoids_replacePassword _ _ _ _ _ _ _).spares

theorem spares_requestPasswordReset (tenant : TenantId) (mail : Email) :
    (requestPasswordReset ports drawn tenant mail).Spares database IsRefusal lettingIn := by
  refine spares_accept_bind fun lifetimes => ?_
  refine spares_bind (leaves_ask fun _ => rfl) fun found => ?_
  cases found with
  | none => exact spares_done _
  | some found =>
    refine spares_accept_bind fun secret => spares_accept_bind fun token => ?_
    exact spares_bind (leaves_ask fun _ => rfl) fun _ => spares_done _

end Refused

/-- A refused scenario touches no session and no credential. -/
theorem spares_sessions (digests : Digests) (hasher : PasswordHasher) (order : Order) :
    (order.scenario digests hasher).Spares database IsRefusal lettingIn := by
  obtain ⟨settings, rule, drawn, intent⟩ := order
  cases intent with
  | signIn request => exact spares_signIn request
  | signOut id => exact (avoids_revokeCurrent (some id) (drawn.clock 0)).spares
  | acceptInvitation request => exact spares_acceptInvitation request
  | openPractice request => exact spares_openPractice request
  | resetPassword request => exact spares_resetPassword request
  | changePassword request => exact spares_changePassword request
  | requestPasswordReset tenant mail => exact spares_requestPasswordReset tenant mail
  | inviteParticipant tenant role addressee =>
    exact spares_of_only (leaves_of_only (footprint_inviteParticipant ..))
  | registerOnMyOwn mail from_ =>
    exact spares_of_only (leaves_of_only (footprint_registerOnMyOwn ..))
  | confirmEmail account shown => exact spares_of_only (leaves_of_only (footprint_confirmEmail ..))
  | attachAccount tenant child mail =>
    exact spares_of_only (leaves_of_only (footprint_attachAccount ..))
  | grantGuardianScope request =>
    exact spares_of_only (leaves_of_only (footprint_grantGuardianScope ..))
  | revokeGuardianScope request =>
    exact spares_of_only (leaves_of_only (footprint_revokeGuardianScope ..))

/-! ### Sequential runs -/

/-- The secret drawn for a turn names no stored session. -/
def DrawsFresh (t : OrderTurn) : Prop :=
  ∀ row ∈ t.before.sessions.rows, row.id.secret ≠ t.entry.op.drawn.sessionSecret

instance (t : OrderTurn) : Decidable (DrawsFresh t) :=
  inferInstanceAs (Decidable (∀ row ∈ t.before.sessions.rows, _))

/-- The session is stored and usable until its term, and no other session of its person is
usable at any moment. -/
structure OnlyLives (session : Session) (db : Database) : Prop where
  stored : session ∈ db.sessions.rows
  lasts : session.createdAt < session.expiresAt
  usable : ∀ moment < session.expiresAt, session.isUsableAt moment = true
  alone : ∀ row ∈ db.sessions.rows, row.id.tenant = session.id.tenant →
    row.person = session.person → ∀ moment, row.isUsableAt moment = true → row = session

section Runs

variable {digests : Digests} {hasher : PasswordHasher} {t : OrderTurn} {session : Session}

/-- A turn that replaced a password, as a replacement over the sessions before it. -/
theorem passwordReplaced_of_turn
    (hexec : (application digests hasher).exec t.entry.op t.before = (t.entry.answer, t.after))
    (hreplaced : replacedPassword t = some session) :
    ∃ now db₁, db₁.sessions = t.before.sessions ∧
      PasswordReplaced session.id.tenant session.person now db₁ session t.after ∧
      session.id.secret = t.entry.op.drawn.sessionSecret := by
  rcases replacedPassword_eq_some.1 hreplaced with
    ⟨settings, rule, drawn, request, hentry⟩ | ⟨settings, rule, drawn, request, hentry⟩
  · rw [hentry] at hexec ⊢
    obtain ⟨found, db₁, -, -, -, hmark, hdone, -, hsecret⟩ := resetPassword_returned hexec
    have hsessions : db₁.sessions = t.before.sessions :=
      (congrArg (fun done => done.2.sessions) hmark).symm
    obtain ⟨htenant, -⟩ := hdone.session_eq
    exact ⟨drawn.clock 0, db₁, hsessions, htenant ▸ hdone, hsecret⟩
  · rw [hentry] at hexec ⊢
    obtain ⟨current, -, -, hdone, hsecret⟩ := changePassword_returned hexec
    obtain ⟨htenant, hperson, -⟩ := hdone.session_eq
    exact ⟨drawn.clock 1, t.before, rfl, htenant ▸ hperson ▸ hdone, hsecret⟩

/-- Right after a password was replaced only the returned session of the person lives, and the
sessions of everybody else are as they were. -/
theorem onlyLives_of_replacedPassword
    (hexec : (application digests hasher).exec t.entry.op t.before = (t.entry.answer, t.after))
    (hfresh : DrawsFresh t) (hreplaced : replacedPassword t = some session) :
    OnlyLives session t.after ∧
      ∀ row : Session, ¬ (row.id.tenant = session.id.tenant ∧ row.person = session.person) →
        (row ∈ t.after.sessions.rows ↔ row ∈ t.before.sessions.rows) := by
  obtain ⟨now, db₁, hsessions, hdone, hsecret⟩ := passwordReplaced_of_turn hexec hreplaced
  have hnew : ∀ row ∈ db₁.sessions.rows, row.id ≠ session.id := by
    intro row hrow hid
    rw [hsessions] at hrow
    exact hfresh row hrow (by rw [hid, hsecret])
  have hrows := sessions_of_passwordReplaced hdone hnew
  rw [hsessions] at hrows
  obtain ⟨-, -, hcreated, hopen, hterm⟩ := hdone.session_eq
  refine ⟨⟨(hrows session).2 (Or.inr rfl), by rw [hcreated]; exact hterm, ?_, ?_⟩, ?_⟩
  · intro moment hmoment
    simp [Session.isUsableAt, hopen, hmoment]
  · intro row hrow htenant hperson moment husable
    rcases (hrows row).1 hrow with ⟨old, -, rfl⟩ | rfl
    · rw [closedFor_id] at htenant
      rw [closedFor_person] at hperson
      rw [Session.not_isUsableAt_of_revoked (isSome_revokedAt_closedFor htenant hperson)] at husable
      cases husable
    · rfl
  · intro row hother
    rw [hrows row]
    constructor
    · rintro (⟨old, hold, rfl⟩ | rfl)
      · rw [closedFor_id, closedFor_person] at hother
        rwa [closedFor_of_other hother]
      · exact absurd ⟨rfl, rfl⟩ hother
    · intro hrow
      exact Or.inl ⟨row, hrow, (closedFor_of_other hother).symm⟩

/-- A closed session is the same row after the turn. -/
theorem stored_after_turn {row : Session}
    (hexec : (application digests hasher).exec t.entry.op t.before = (t.entry.answer, t.after))
    (hfresh : DrawsFresh t) (hrow : row ∈ t.before.sessions.rows)
    (hrevoked : row.revokedAt.isSome = true) : row ∈ t.after.sessions.rows := by
  have hkept : Stored row ((t.entry.op.scenario digests hasher).run database t.before).2 :=
    maintains_closed digests hasher hrevoked (hfresh row hrow) t.before hrow
  have hafter : ((t.entry.op.scenario digests hasher).run database t.before).2 = t.after :=
    congrArg Prod.snd hexec
  rwa [hafter] at hkept

/-- **Only the returned session lives.** In a sequential run in which every turn draws a fresh
secret: a change or a reset of a password leaves its own session as the one usable session of
the person and touches no session of anybody else; a session that is closed stays closed at
the same moment in every later state and is never usable; and a refused turn touches neither
sessions nor credentials. -/
theorem only_the_returned_session_lives {db db' : Database} {steps : List OrderTurn}
    (hrun : Linked (application digests hasher) db steps db') (hfresh : ∀ t ∈ steps, DrawsFresh t) :
    (∀ t ∈ steps, ∀ session, replacedPassword t = some session →
      OnlyLives session t.after ∧
        ∀ row : Session, ¬ (row.id.tenant = session.id.tenant ∧ row.person = session.person) →
          (row ∈ t.after.sessions.rows ↔ row ∈ t.before.sessions.rows)) ∧
    (∀ early t late, steps = early ++ t :: late → ∀ row ∈ t.before.sessions.rows,
      row.revokedAt.isSome = true → ∀ u ∈ t :: late,
        row ∈ u.after.sessions.rows ∧ ∀ later ∈ u.after.sessions.rows, later.id = row.id →
          later.revokedAt = row.revokedAt ∧ ∀ moment, later.isUsableAt moment = false) ∧
    ∀ t ∈ steps, ∀ error, t.entry.answer = .error (.refused error) →
      t.after.sessions = t.before.sessions ∧ t.after.credentials = t.before.credentials := by
  refine ⟨?_, ?_, ?_⟩
  · intro t ht session
    exact onlyLives_of_replacedPassword (hrun.exec_eq ht) (hfresh t ht)
  · rintro early t late rfl row hrow hrevoked u hu
    obtain ⟨-, hexec, hlater⟩ := hrun.split
    have hstep : ∀ v ∈ t :: late, row ∈ v.before.sessions.rows → row ∈ v.after.sessions.rows := by
      intro v hv hbefore
      have hmem : v ∈ early ++ t :: late := List.mem_append_right _ hv
      exact stored_after_turn (hrun.exec_eq hmem) (hfresh v hmem) hbefore hrevoked
    have hbefore : row ∈ u.before.sessions.rows := by
      rcases List.mem_cons.1 hu with rfl | hu
      · exact hrow
      · exact hlater.holds_before (P := fun db => row ∈ db.sessions.rows)
          (fun v hv => hstep v (List.mem_cons_of_mem _ hv)) (hstep t (by simp) hrow) u hu
    have hafter := hstep u hu hbefore
    refine ⟨hafter, fun later hmem hid => ?_⟩
    obtain rfl := u.after.sessions.eq_of_clash hmem hafter (by simp [Schema.clash, hid])
    exact ⟨rfl, Session.not_isUsableAt_of_revoked hrevoked⟩
  · intro t ht error hanswer
    have hexec : (t.entry.op.scenario digests hasher).run database t.before =
        (.error (.refused error), t.after) := by
      rw [← hanswer]
      exact hrun.exec_eq ht
    have hsame := spares_sessions digests hasher t.entry.op t.before _ _ hexec ⟨error, rfl⟩
    exact Prod.mk.inj hsame

end Runs

/-- The two resets by the owner's letters: after the second of them its own session lives. -/
theorem letters_leave_one_session :
    (∀ t ∈ lettersAsked.1 ++ secondLetterFollowed :: [firstLetterFollowed], DrawsFresh t) ∧
      OnlyLives resetSession secondLetterFollowed.after := by
  have hfresh : ∀ t ∈ lettersAsked.1 ++ secondLetterFollowed :: [firstLetterFollowed],
      DrawsFresh t := by decide +kernel
  refine ⟨hfresh, ?_⟩
  exact ((only_the_returned_session_lives lettersFollowed_linked hfresh).1 secondLetterFollowed
    (by simp) resetSession (by decide +kernel)).1

end Pdr.Identity
