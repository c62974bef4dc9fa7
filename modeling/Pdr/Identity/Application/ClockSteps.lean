import Pdr.Identity.Application.LivingSessions
import Pdr.Identity.Application.OldPassword
import Pdr.Identity.Store.Moments

/-!
# When the clock steps back

The clocks of two replicas differ, so a later scenario may read an earlier moment. A consent
and a guardianship refuse to end before they began. A session and a one-time link do not ask:
they take the moment they are given, and the table refuses the row with an exception. So a
session created by a replica whose clock is ahead can be closed by nobody whose clock has not
caught up: neither by signing out nor by a change or a reset of the password.

## Main definitions

* `Pdr.Identity.OnTime`: what a scenario closes or marks began no later than it reads the clock.
* `Pdr.Identity.KeepsOrder`: a turn writes no row out of order and is not stopped by one.

## Main results

* `Pdr.Identity.moments_stay_in_order`: a run of turns that are on time keeps the order.
* `Pdr.Identity.session_of_a_fast_replica_stays_open`: without it a session cannot be closed.
-/

namespace Pdr.Identity

open StoreProgram Program

/-! ### Being on time -/

/-- The open sessions of a kind were created no later than the moment. -/
def OpenedBy (which : Session → Prop) (moment : Int) (sessions : Table Session) : Prop :=
  ∀ row ∈ sessions.rows, which row → row.revokedAt = none → row.createdAt ≤ moment

section Conditions

variable (ports : AuthPorts) (drawn : Drawn) (db : Database)

/-- The password is taken by the rules in force, and hashed. -/
def TakesPassword (text : Text) : Prop :=
  ∃ rules chosen hash, ports.settings.passwords = .ok rules ∧
    Password.chosen text rules = .ok chosen ∧ ports.hasher.hash drawn.salt chosen rules = .ok hash

/-- The window of a subject is not full. -/
def IsOpenTo (tenant : TenantId) (subject : AttemptSubject) (of : Digest) : Prop :=
  ∃ limits, ports.settings.throttle = .ok limits ∧
    (AttemptCall.windowOf tenant subject of db.attempts).isBlockedAt (drawn.clock 0) limits.window
      (limits.limitFor subject) = false

/-- The sign-in is let in: the settings are there, neither window is full, and the password is
the person's. -/
def IsLetIn (request : SignInRequest) : Prop :=
  (∃ rules lifetimes, ports.settings.passwords = .ok rules ∧
    ports.settings.lifetimes = .ok lifetimes) ∧
  IsOpenTo ports drawn db request.tenant .account
    (accountFingerprint ports.digests request.tenant request.mail) ∧
  IsOpenTo ports drawn db request.tenant .address request.seen.address ∧
  ∃ found,
    (database.exec (.credentials (.findByEmail request.tenant request.mail)) db).1 = .ok found ∧
    (matchedPerson ports.hasher (Password.given request.secret) found).isSome = true

/-- The change is made by this session: it is usable, the old password fits, and the new one is
taken. -/
def IsChangedBy (request : ChangePasswordRequest) (current : Session) : Prop :=
  (∃ lifetimes, ports.settings.lifetimes = .ok lifetimes) ∧
  db.sessions.find? (·.id = request.current) = some current ∧
  current.isUsableAt (drawn.clock 0) = true ∧
  (∃ stored given, (database.exec (.credentials (.findFor current.id.tenant current.person)) db).1 =
      .ok (some stored) ∧
    Password.given request.oldSecret = .ok given ∧
    ports.hasher.matchesHash given stored = true) ∧
  TakesPassword ports drawn request.newSecret

/-- The link of this token is followed: it fits and is usable, and the password is taken. -/
def IsFollowed (purpose : TokenPurpose) (tenant : TenantId) (secret : TokenSecret)
    (password : Text) (found : OneTimeToken) : Prop :=
  (∃ lifetimes, ports.settings.lifetimes = .ok lifetimes) ∧
  (database.exec (.tokens (.find tenant (ports.digests secret.value))) db).1 = .ok (some found) ∧
  found.purpose = purpose ∧ found.isUsableAt (drawn.clock 0) = true ∧
  TakesPassword ports drawn password

/-- The account of a mail, or the one that would be made for it now. -/
def accountFor (mail : Digest) : Account :=
  (db.accounts.find? (·.mail = mail)).getD (Account.invited drawn.personId mail (drawn.clock 0))

/-- The directory takes the person who accepts the invitation. -/
def IsEnrolled (request : AcceptInvitationRequest) (role : Role) : Prop :=
  (database.exec (.directory (.enrol request.tenant
    ⟨⟨(accountFor drawn db (ports.digests request.mail.value)).id, some request.mail,
        request.bornOn⟩,
      BitSet.ofList [role], request.displayName, request.zone⟩ drawn.roleIds)) db).1 = .ok (.ok ())

end Conditions

/-- What the scenario closes or marks, if it comes so far, began no later than the moment it
reads. -/
def OnTime (digests : Digests) (hasher : PasswordHasher) (order : Order) (db : Database) : Prop :=
  let ports : AuthPorts := ⟨order.settings, digests, hasher⟩
  let drawn := order.drawn
  match order.intent with
  | .signOut id => OpenedBy (·.id = id) (drawn.clock 0) db.sessions
  | .signIn request => IsLetIn ports drawn db request →
      OpenedBy (some ·.id = request.current) (drawn.clock 0) db.sessions
  | .changePassword request => ∀ current, IsChangedBy ports drawn db request current →
      OpenedBy (fun row => row.id.tenant = current.id.tenant ∧ row.person = current.person)
        (drawn.clock 1) db.sessions
  | .resetPassword request => ∀ found,
      IsFollowed ports drawn db .passwordReset request.tenant request.secret request.password
          found →
        found.createdAt ≤ drawn.clock 0 ∧
        OpenedBy (fun row => row.id.tenant = request.tenant ∧ some row.person = found.person)
          (drawn.clock 0) db.sessions
  | .acceptInvitation request => ∀ found role,
      IsFollowed ports drawn db .invitation request.tenant request.secret request.password found →
        found.role = some role → IsEnrolled ports drawn db request role →
          found.createdAt ≤ drawn.clock 0
  | _ => True

/-! ### The parts that write moments -/

/-- The call writes its rows in order, and the store takes them. -/
def Succeeds (call : Call) (db : Database) : Prop := WritesInOrder call db ∧ Answers call db

theorem succeeds_sessions {call : SessionCall} {db : Database}
    (h : WritesInOrder (.sessions call) db) : Succeeds (.sessions call) db :=
  ⟨h, exec_sessions_ok h⟩

theorem succeeds_of_isTo {call : Call} (h : call.IsTo [.credentials, .attempts]) (db : Database) :
    Succeeds call db := by
  cases call with
  | credentials call => exact ⟨trivial, exec_credentials_ok call⟩
  | attempts call => exact ⟨trivial, exec_attempts_ok call⟩
  | _ => cases h

section Parts

variable {drawn : Drawn} {tenant : TenantId} {person : PersonId} {now : Int} {seen : Fingerprint}
  {db : Database}

/-- A session that is opened begins before it ends. -/
theorem along_openSession (lifetimes : AuthLifetimes) :
    (openSession lifetimes drawn tenant person now seen).Along database Succeeds db := by
  have hpositive := lifetimes.positive.1
  simp only [openSession, Session.open_of_pos hpositive, accept_ok, done_bind]
  refine along_perform_bind (succeeds_sessions ⟨fun row hrow _ => ?_, fun _ => ?_⟩)
    fun _ _ _ => trivial
  · have hrow := check_session.1 (db.sessions.checked row hrow)
    exact check_session.2 ⟨hrow.1, by simp⟩
  · refine check_session.2 ⟨?_, by simp⟩
    show now < now + lifetimes.session
    omega

/-- The session shown is closed no earlier than it began. -/
theorem along_revokeCurrent {current : Option SessionId}
    (hopened : OpenedBy (some ·.id = current) now db.sessions) :
    (revokeCurrent current now).Along database Succeeds db := by
  cases current with
  | none => trivial
  | some id =>
    refine along_perform_bind (succeeds_sessions trivial) fun found db' hfind => ?_
    obtain rfl : db = db' := congrArg Prod.snd hfind
    have hfound : db.sessions.find? (·.id = id) = found := Except.ok.inj (congrArg Prod.fst hfind)
    cases found with
    | none => trivial
    | some previous =>
      have hmem := Table.mem_of_find? hfound
      have hid : previous.id = id := by simpa using Table.wanted_of_find? hfound
      have hprevious := check_session.1 (db.sessions.checked previous hmem)
      refine (along_perform _).2 (succeeds_sessions ⟨fun row hrow hsame => ?_, fun habsent => ?_⟩)
      · rw [Session.id_revoked] at hsame
        obtain rfl := db.sessions.eq_of_clash hrow hmem (by simp [Schema.clash, hsame])
        refine check_session.2 ⟨hprevious.1, fun revoked hrevoked => ?_⟩
        unfold Session.revoked at hrevoked
        split at hrevoked
        · exact hprevious.2 revoked hrevoked
        · rename_i hopen
          obtain rfl : now = revoked := by simpa using hrevoked
          exact hopened row hrow (congrArg some hid) (by simpa using hopen)
      · exact absurd (Session.id_revoked previous now).symm (habsent previous hmem)

/-- Every session of the person is closed no earlier than it began. -/
theorem along_replacePassword (lifetimes : AuthLifetimes) (hash : PasswordHash)
    (hopened : OpenedBy (fun row => row.id.tenant = tenant ∧ row.person = person) now db.sessions) :
    (replacePassword lifetimes drawn tenant person hash now seen).Along database Succeeds db := by
  refine along_perform_bind (succeeds_of_isTo (by rfl) db) fun _ db₁ hsave => ?_
  have hsessions : db₁.sessions = db.sessions := (congrArg (fun done => done.2.sessions) hsave).symm
  refine along_perform_bind (succeeds_sessions fun row hrow htenant hperson hopen => ?_)
    fun _ _ _ => along_openSession lifetimes
  rw [hsessions] at hrow
  have hchecked := check_session.1 (db.sessions.checked row hrow)
  refine check_session.2 ⟨hchecked.1, fun revoked hrevoked => ?_⟩
  obtain rfl : now = revoked := by simpa using hrevoked
  exact hopened row hrow ⟨htenant, hperson⟩ hopen

/-- A link is marked no earlier than it was issued. -/
theorem succeeds_markUsed {found : OneTimeToken} (hfound : found ∈ db.tokens.rows)
    (hissued : found.createdAt ≤ now) :
    Succeeds (.tokens (.markUsed { found with usedAt := some now })) db := by
  have horder : WritesInOrder (.tokens (.markUsed { found with usedAt := some now })) db := by
    intro row hrow htenant hid _
    obtain rfl := db.tokens.eq_of_clash hrow hfound (by simp [Schema.clash, htenant, hid])
    have hchecked := check_token.1 (db.tokens.checked row hrow)
    refine check_token.2 ⟨hchecked.1, fun used hused => ?_⟩
    obtain rfl : now = used := by simpa using hused
    exact hissued
  exact ⟨horder, exec_markUsed_ok horder⟩

end Parts

/-! ### The scenarios of sessions -/

section Scenarios

variable {ports : AuthPorts} {drawn : Drawn} {db : Database}

theorem along_refuseIfBlocked {tenant : TenantId} {limits : ThrottleLimits} {now : Int}
    {subject : AttemptSubject} {of : Digest} :
    (refuseIfBlocked tenant limits now subject of).Along database Succeeds db :=
  along_of_only (fun _ => succeeds_of_isTo)
    ((footprint_refuseIfBlocked ..).mono (Call.IsTo.mono (by decide))) db

/-- A subject that is not refused has a window that is not full, and nothing is changed. -/
theorem refuseIfBlocked_returned {tenant : TenantId} {limits : ThrottleLimits} {now : Int}
    {subject : AttemptSubject} {of : Digest} {done : Unit} {db' : Database}
    (h : (refuseIfBlocked tenant limits now subject of).run database db = (.ok done, db')) :
    db' = db ∧ (AttemptCall.windowOf tenant subject of db.attempts).isBlockedAt now limits.window
      (limits.limitFor subject) = false := by
  simp only [refuseIfBlocked, run_perform_bind_eq_ok] at h
  obtain ⟨seen, db₁, hseen, hrest⟩ := h
  cases hseen
  split at hrest
  · cases hrest
  · rename_i hopen
    cases hrest
    exact ⟨rfl, by simpa using hopen⟩

theorem along_signIn {request : SignInRequest}
    (hontime : IsLetIn ports drawn db request →
      OpenedBy (some ·.id = request.current) (drawn.clock 0) db.sessions) :
    (signIn ports drawn request).Along database Succeeds db := by
  refine along_ofExcept_bind fun rules hrules => ?_
  refine along_ofExcept_bind fun limits hlimits => ?_
  refine along_ofExcept_bind fun lifetimes hlifetimes => ?_
  rw [Result.orRefuse_eq_ok] at hrules hlimits hlifetimes
  refine Along.bind along_refuseIfBlocked fun _ db₁ haccount => ?_
  obtain ⟨rfl, haccountOpen⟩ := refuseIfBlocked_returned haccount
  refine Along.bind along_refuseIfBlocked fun _ db₂ haddress => ?_
  obtain ⟨rfl, haddressOpen⟩ := refuseIfBlocked_returned haddress
  refine along_perform_bind (succeeds_of_isTo (by rfl) _) fun found db₃ hfound => ?_
  obtain rfl : db₂ = db₃ := congrArg Prod.snd hfound
  cases hmatched : matchedPerson ports.hasher (Password.given request.secret) found with
  | none =>
    refine along_perform_bind (succeeds_of_isTo (by rfl) _) fun _ _ _ => ?_
    exact along_perform_bind (succeeds_of_isTo (by rfl) _) fun _ _ _ => trivial
  | some person =>
    have hopened := hontime ⟨⟨rules, lifetimes, hrules, hlifetimes⟩,
      ⟨limits, hlimits, haccountOpen⟩, ⟨limits, hlimits, haddressOpen⟩, found,
      congrArg Prod.fst hfound, by rw [hmatched]; rfl⟩
    refine along_perform_bind (succeeds_of_isTo (by rfl) _) fun _ db₄ hforget => ?_
    refine along_perform_bind (succeeds_of_isTo (by rfl) _) fun _ db₅ hforget' => ?_
    have hsessions₄ : db₄.sessions = db₂.sessions :=
      (congrArg (fun done => done.2.sessions) hforget).symm
    have hsessions₅ : db₅.sessions = db₄.sessions :=
      (congrArg (fun done => done.2.sessions) hforget').symm
    rw [← hsessions₄, ← hsessions₅] at hopened
    exact Along.bind (along_revokeCurrent hopened) fun _ _ _ => along_openSession lifetimes

theorem along_signOut {id : SessionId}
    (hontime : OpenedBy (·.id = id) (drawn.clock 0) db.sessions) :
    (signOut drawn id).Along database Succeeds db :=
  along_revokeCurrent fun row hrow hid => hontime row hrow (Option.some.inj hid)

theorem along_changePassword {request : ChangePasswordRequest}
    (hontime : ∀ current, IsChangedBy ports drawn db request current →
      OpenedBy (fun row => row.id.tenant = current.id.tenant ∧ row.person = current.person)
        (drawn.clock 1) db.sessions) :
    (changePassword ports drawn request).Along database Succeeds db := by
  refine along_ofExcept_bind fun rules hrules => ?_
  refine along_ofExcept_bind fun lifetimes hlifetimes => ?_
  rw [Result.orRefuse_eq_ok] at hrules hlifetimes
  refine Along.bind ?_ fun current db₁ hcurrent => ?_
  · refine along_perform_bind (succeeds_sessions trivial) fun found _ _ => ?_
    cases found with
    | none => trivial
    | some found =>
      dsimp only
      split
      · trivial
      · split <;> trivial
  obtain ⟨hfind, husable, rfl⟩ := authenticateSession_returned hcurrent
  refine Along.bind (along_of_only (fun _ => succeeds_of_isTo)
    ((footprint_checkOldPassword ..).mono (Call.IsTo.mono (by decide))) _) fun _ db₂ hcheck => ?_
  have hfits := checkOldPassword_fits hcheck
  obtain rfl := checkOldPassword_returned hcheck
  refine along_ofExcept_bind fun chosen hchosen => ?_
  refine along_ofExcept_bind fun hash hhash => ?_
  rw [Result.orRefuse_eq_ok] at hchosen hhash
  refine along_replacePassword lifetimes hash (hontime current ?_)
  exact ⟨⟨lifetimes, hlifetimes⟩, Except.ok.inj (congrArg Prod.fst hfind), husable, hfits,
    rules, chosen, hash, hrules, hchosen, hhash⟩

theorem along_resetPassword {request : ResetPasswordRequest}
    (hontime : ∀ found,
      IsFollowed ports drawn db .passwordReset request.tenant request.secret request.password
          found →
        found.createdAt ≤ drawn.clock 0 ∧
        OpenedBy (fun row => row.id.tenant = request.tenant ∧ some row.person = found.person)
          (drawn.clock 0) db.sessions) :
    (resetPassword ports drawn request).Along database Succeeds db := by
  refine along_ofExcept_bind fun rules hrules => ?_
  refine along_ofExcept_bind fun lifetimes hlifetimes => ?_
  rw [Result.orRefuse_eq_ok] at hrules hlifetimes
  refine along_perform_bind ⟨trivial, ⟨_, rfl⟩⟩ fun found db₁ hfind => ?_
  obtain rfl : db = db₁ := congrArg Prod.snd hfind
  cases found with
  | none => trivial
  | some found =>
    dsimp only
    split
    · rename_i hreset
      refine along_ofExcept_bind fun used hused => ?_
      refine along_ofExcept_bind fun chosen hchosen => ?_
      refine along_ofExcept_bind fun hash hhash => ?_
      rw [Result.orRefuse_eq_ok] at hused hchosen hhash
      obtain ⟨husable, rfl⟩ := OneTimeToken.used_eq_ok.1 hused
      obtain ⟨hissued, hopened⟩ := hontime found ⟨⟨lifetimes, hlifetimes⟩,
        congrArg Prod.fst hfind, hreset, husable, rules, chosen, hash, hrules, hchosen, hhash⟩
      refine along_perform_bind (succeeds_markUsed (Database.mem_of_find hfind).1 hissued)
        fun _ db₂ hmark => ?_
      have hsessions : db₂.sessions = db.sessions :=
        (congrArg (fun done => done.2.sessions) hmark).symm
      refine along_replacePassword lifetimes hash ?_
      rw [hsessions]
      rintro row hrow ⟨htenant, hperson⟩
      refine hopened row hrow ⟨htenant, ?_⟩
      rw [hperson, OneTimeToken.resetFor, Option.some_get]
    · trivial

end Scenarios

/-! ### The other scenarios -/

theorem OneTimeToken.check_of_invitation {id : TokenId} {tenant : TenantId} {secret : Digest}
    {role : Role} {invited : Option Digest} {at_ lifetime : Int} {token : OneTimeToken}
    (h : OneTimeToken.invitation id tenant secret role invited at_ lifetime = .ok token) :
    Schema.check token = true := by
  obtain ⟨hpositive, rfl⟩ := OneTimeToken.invitation_eq_ok.1 h
  refine check_token.2 ⟨?_, by simp⟩
  show at_ < at_ + lifetime
  omega

theorem OneTimeToken.check_of_passwordResetOf {id : TokenId} {tenant : TenantId} {secret : Digest}
    {person : PersonId} {at_ lifetime : Int} {token : OneTimeToken}
    (h : OneTimeToken.passwordResetOf id tenant secret person at_ lifetime = .ok token) :
    Schema.check token = true := by
  obtain ⟨hpositive, rfl⟩ := OneTimeToken.passwordResetOf_eq_ok.1 h
  refine check_token.2 ⟨?_, by simp⟩
  show at_ < at_ + lifetime
  omega

/-- The account that is found or made is the one that was foreseen, and no other table moves. -/
theorem accountFor_of_returned {drawn : Drawn} {mail : Digest} {account : Account}
    {db db' : Database}
    (h : (accountOf drawn mail (drawn.clock 0)).run database db = (.ok account, db')) :
    account = accountFor drawn db mail ∧ db' = { db with accounts := db'.accounts } := by
  rcases accountOf_returned h with ⟨hfound, rfl⟩ | ⟨hnone, rfl, hsave⟩
  · rw [accountFor, hfound]
    exact ⟨rfl, rfl⟩
  · rw [accountFor, hnone]
    obtain rfl : _ = db' := congrArg Prod.snd hsave
    exact ⟨rfl, rfl⟩

/-- Tables with no moments to order. -/
def undatedPorts : List Port :=
  [.accounts, .directory, .credentials, .attempts, .guardianships, .practices, .signups]

theorem writesInOrder_of_isTo (call : Call) (h : call.IsTo undatedPorts) (db : Database) :
    WritesInOrder call db := by
  cases call with
  | tokens call => cases h
  | sessions call => cases h
  | consents call => cases h
  | _ => trivial

section Others

variable {ports : AuthPorts} {drawn : Drawn} {db : Database}

theorem along_of_undated {α : Type} {part : Scenario α} {used : List Port}
    (hpart : part.Only (Call.IsTo used)) (hused : used ⊆ undatedPorts := by decide) :
    part.Along database WritesInOrder db :=
  along_of_only writesInOrder_of_isTo (hpart.mono (Call.IsTo.mono hused)) db

theorem along_inviteParticipant {tenant : TenantId} {role : Role} {addressee : Option Email} :
    (inviteParticipant ports drawn tenant role addressee).Along database WritesInOrder db := by
  refine along_ofExcept_bind fun lifetimes _ => ?_
  have hissue : ∀ (invited : Option Digest) (db : Database), Along database WritesInOrder (do
      let secret ← accept (TokenSecret.parse drawn.tokenText)
      let token ← accept (OneTimeToken.invitation drawn.tokenId tenant
        (ports.digests secret.value) role invited (drawn.clock 1) lifetimes.invitation)
      ask (.tokens (.issue token))
      return (⟨token, secret⟩ : IssuedLink)) db := by
    intro invited db
    refine along_ofExcept_bind fun secret _ => along_ofExcept_bind fun token htoken => ?_
    rw [Result.orRefuse_eq_ok] at htoken
    exact along_perform_bind (OneTimeToken.check_of_invitation htoken) fun _ _ _ => trivial
  cases addressee with
  | none => exact hissue none db
  | some mail =>
    refine Along.bind ?_ fun _ _ _ => hissue _ _
    refine along_perform_bind trivial fun found _ _ => ?_
    cases found <;> trivial

theorem along_requestPasswordReset {tenant : TenantId} {mail : Email} :
    (requestPasswordReset ports drawn tenant mail).Along database WritesInOrder db := by
  refine along_ofExcept_bind fun lifetimes _ => along_perform_bind trivial fun found _ _ => ?_
  cases found with
  | none => trivial
  | some found =>
    refine along_ofExcept_bind fun secret _ => along_ofExcept_bind fun token htoken => ?_
    rw [Result.orRefuse_eq_ok] at htoken
    exact along_perform_bind (OneTimeToken.check_of_passwordResetOf htoken) fun _ _ _ => trivial

theorem along_acceptInvitation {request : AcceptInvitationRequest}
    (hontime : ∀ found role,
      IsFollowed ports drawn db .invitation request.tenant request.secret request.password found →
        found.role = some role → IsEnrolled ports drawn db request role →
          found.createdAt ≤ drawn.clock 0) :
    (acceptInvitation ports drawn request).Along database WritesInOrder db := by
  refine along_ofExcept_bind fun rules hrules => ?_
  refine along_ofExcept_bind fun lifetimes hlifetimes => ?_
  rw [Result.orRefuse_eq_ok] at hrules hlifetimes
  refine along_perform_bind trivial fun found db₁ hfind => ?_
  obtain rfl : db = db₁ := congrArg Prod.snd hfind
  cases found with
  | none => trivial
  | some found =>
    dsimp only
    split
    · rename_i hinvitation
      refine along_ofExcept_bind fun used hused => ?_
      refine along_ofExcept_bind fun chosen hchosen => ?_
      refine along_ofExcept_bind fun hash hhash => ?_
      rw [Result.orRefuse_eq_ok] at hused hchosen hhash
      obtain ⟨husable, rfl⟩ := OneTimeToken.used_eq_ok.1 hused
      refine Along.bind (along_of_undated (footprint_accountOf ..)) fun account db₂ haccount => ?_
      obtain ⟨hfor, hrest⟩ := accountFor_of_returned haccount
      refine along_perform_bind trivial fun enrolled db₃ henrol => ?_
      refine along_ofExcept_bind fun _ htaken => ?_
      rw [Result.orRefuse_eq_ok] at htaken
      have htokens : db₃.tokens = db.tokens := by
        have htokens₃ : db₃.tokens = db₂.tokens :=
          (congrArg (fun done => done.2.tokens) henrol).symm
        rw [htokens₃, hrest]
      have henrolled : IsEnrolled ports drawn db request (found.invitedAs hinvitation) := by
        have hanswer := congrArg Prod.fst henrol
        rw [hrest, hfor] at hanswer
        rw [IsEnrolled, ← htaken]
        exact hanswer
      have hissued := hontime found _ ⟨⟨lifetimes, hlifetimes⟩, congrArg Prod.fst hfind,
        hinvitation, husable, rules, chosen, hash, hrules, hchosen, hhash⟩
        (Option.some_get _).symm henrolled
      have hmem : found ∈ db₃.tokens.rows := htokens ▸ (Database.mem_of_find hfind).1
      refine along_perform_bind (succeeds_markUsed hmem hissued).1 fun _ _ _ => ?_
      refine along_perform_bind trivial fun _ _ _ => ?_
      exact (along_openSession lifetimes).mono fun _ _ h => h.1
    · trivial

theorem along_openPractice {request : OpenPracticeRequest} :
    (openPractice ports drawn request).Along database WritesInOrder db := by
  refine along_ofExcept_bind fun rules _ => along_ofExcept_bind fun lifetimes _ => ?_
  refine along_ofExcept_bind fun chosen _ => along_ofExcept_bind fun hash _ => ?_
  refine Along.bind (along_of_undated (footprint_accountOf ..)) fun account _ _ => ?_
  refine along_ofExcept_bind fun practice _ => along_perform_bind trivial fun opened _ _ => ?_
  refine along_ofExcept_bind fun _ _ => along_perform_bind trivial fun enrolled _ _ => ?_
  refine along_ofExcept_bind fun _ _ => along_perform_bind trivial fun _ _ _ => ?_
  exact Along.bind ((along_openSession lifetimes).mono fun _ _ h => h.1) fun _ _ _ => trivial

theorem along_attachAccount {tenant : TenantId} {child : PersonId} {mail : Email} :
    (attachAccount ports drawn tenant child mail).Along database WritesInOrder db := by
  refine Along.bind ?_ fun _ _ _ => along_inviteParticipant
  refine along_perform_bind trivial fun found _ _ => ?_
  cases found with
  | none => exact (along_perform _).2 trivial
  | some existing =>
    dsimp only
    split <;> trivial

/-- A consent that is granted is not revoked, so no stored row is in its way. -/
theorem along_grantGuardianScope {rule : Result MaturityRule}
    {request : GrantGuardianScopeRequest} :
    (grantGuardianScope rule drawn request).Along database WritesInOrder db := by
  refine along_ofExcept_bind fun rule _ => Along.bind ?_ fun _ _ _ => ?_
  · unfold requireBasis
    split
    · refine along_perform_bind trivial fun found _ _ => ?_
      cases found <;> trivial
    · split <;> trivial
  · refine along_perform_bind trivial fun found _ _ => ?_
    cases found with
    | some _ => trivial
    | none =>
      refine along_perform_bind trivial fun bornOn _ _ => ?_
      split
      · trivial
      · refine along_ofExcept_bind fun consent hconsent => ?_
        rw [Result.orRefuse_eq_ok] at hconsent
        refine along_perform_bind (fun row _ _ _ => ?_) fun _ _ _ => trivial
        obtain ⟨-, -, -, -, -, -, -, -, -, hlive⟩ := GuardianConsent.grant_eq_ok hconsent
        rw [ConsentCall.mayTake, hlive]
        rfl

/-- A consent refuses to end before it began. -/
theorem along_revokeGuardianScope {request : RevokeGuardianScopeRequest} :
    (revokeGuardianScope drawn request).Along database WritesInOrder db := by
  refine along_perform_bind trivial fun found db₁ hfind => ?_
  obtain rfl : db = db₁ := congrArg Prod.snd hfind
  cases found with
  | none => trivial
  | some found =>
    refine along_ofExcept_bind fun revoked hrevoked => (along_perform _).2 ?_
    rw [Result.orRefuse_eq_ok] at hrevoked
    obtain ⟨htenant, hid, hmoment⟩ := GuardianConsent.revoked_eq_ok hrevoked
    have hmem : found ∈ db.consents.rows := by
      have hfound := Except.ok.inj (congrArg Prod.fst hfind)
      exact (List.mem_filter.1 (List.mem_of_find?_eq_some hfound)).1
    intro row hrow hrowTenant hrowId
    rw [htenant] at hrowTenant
    rw [hid] at hrowId
    obtain rfl := db.consents.eq_of_clash hrow hmem (by simp [Schema.clash, hrowTenant, hrowId])
    rw [ConsentCall.mayTake, Option.all_eq_true]
    intro moment hended
    exact decide_eq_true (hmoment moment hended)

end Others

/-! ### What a scenario throws by itself -/

section Raises

variable {ports : AuthPorts} {drawn : Drawn}

theorem raisesOnly_accept {α : Type} (result : Result α) :
    (accept result).RaisesOnly IsRefusal := by
  refine raisesOnly_ofExcept fun fault h => ?_
  cases result with
  | ok value => cases h
  | error error =>
    cases h
    exact ⟨error, rfl⟩

theorem raisesOnly_openSession (lifetimes : AuthLifetimes) (tenant : TenantId) (person : PersonId)
    (now : Int) (seen : Fingerprint) :
    (openSession lifetimes drawn tenant person now seen).RaisesOnly IsRefusal :=
  (raisesOnly_accept _).bind fun _ => (raisesOnly_perform _).bind fun _ => trivial

theorem raisesOnly_revokeCurrent (current : Option SessionId) (now : Int) :
    (revokeCurrent current now).RaisesOnly IsRefusal := by
  cases current with
  | none => trivial
  | some id =>
    refine (raisesOnly_perform _).bind fun found => ?_
    cases found with
    | none => trivial
    | some previous => exact raisesOnly_perform _

theorem raisesOnly_refuseIfBlocked (tenant : TenantId) (limits : ThrottleLimits) (now : Int)
    (subject : AttemptSubject) (of : Digest) :
    (refuseIfBlocked tenant limits now subject of).RaisesOnly IsRefusal := by
  refine (raisesOnly_perform _).bind fun seen => ?_
  split
  · exact ⟨_, rfl⟩
  · trivial

theorem raisesOnly_signIn (request : SignInRequest) :
    (signIn ports drawn request).RaisesOnly IsRefusal := by
  refine (raisesOnly_accept _).bind fun _ => (raisesOnly_accept _).bind fun limits => ?_
  refine (raisesOnly_accept _).bind fun lifetimes => ?_
  refine (raisesOnly_refuseIfBlocked _ _ _ _ _).bind fun _ => ?_
  refine (raisesOnly_refuseIfBlocked _ _ _ _ _).bind fun _ => ?_
  refine (raisesOnly_perform _).bind fun found => ?_
  cases matchedPerson ports.hasher (Password.given request.secret) found with
  | none =>
    refine (raisesOnly_perform _).bind fun _ => (raisesOnly_perform _).bind fun _ => ?_
    exact ⟨_, rfl⟩
  | some person =>
    refine (raisesOnly_perform _).bind fun _ => (raisesOnly_perform _).bind fun _ => ?_
    exact (raisesOnly_revokeCurrent _ _).bind fun _ => raisesOnly_openSession _ _ _ _ _

theorem raisesOnly_replacePassword (lifetimes : AuthLifetimes) (tenant : TenantId)
    (person : PersonId) (hash : PasswordHash) (now : Int) (seen : Fingerprint) :
    (replacePassword lifetimes drawn tenant person hash now seen).RaisesOnly IsRefusal :=
  (raisesOnly_perform _).bind fun _ => (raisesOnly_perform _).bind fun _ =>
    raisesOnly_openSession _ _ _ _ _

theorem raisesOnly_changePassword (request : ChangePasswordRequest) :
    (changePassword ports drawn request).RaisesOnly IsRefusal := by
  refine (raisesOnly_accept _).bind fun rules => (raisesOnly_accept _).bind fun lifetimes => ?_
  refine RaisesOnly.bind ?_ fun session => RaisesOnly.bind ?_ fun _ => ?_
  · refine (raisesOnly_perform _).bind fun found => ?_
    cases found with
    | none => exact ⟨_, rfl⟩
    | some found =>
      dsimp only
      split
      · exact ⟨_, rfl⟩
      · split
        · exact ⟨_, rfl⟩
        · trivial
  · refine (raisesOnly_perform _).bind fun stored => ?_
    cases stored with
    | none => exact ⟨_, rfl⟩
    | some stored =>
      refine (raisesOnly_accept _).bind fun given => ?_
      split
      · trivial
      · exact ⟨_, rfl⟩
  · refine (raisesOnly_accept _).bind fun chosen => (raisesOnly_accept _).bind fun hash => ?_
    exact raisesOnly_replacePassword _ _ _ _ _ _

theorem raisesOnly_resetPassword (request : ResetPasswordRequest) :
    (resetPassword ports drawn request).RaisesOnly IsRefusal := by
  refine (raisesOnly_accept _).bind fun rules => (raisesOnly_accept _).bind fun lifetimes => ?_
  refine (raisesOnly_perform _).bind fun found => ?_
  cases found with
  | none => exact ⟨_, rfl⟩
  | some found =>
    dsimp only
    split
    · refine (raisesOnly_accept _).bind fun used => (raisesOnly_accept _).bind fun chosen => ?_
      refine (raisesOnly_accept _).bind fun hash => (raisesOnly_perform _).bind fun _ => ?_
      exact raisesOnly_replacePassword _ _ _ _ _ _
    · exact ⟨_, rfl⟩

end Raises

theorem avoids_signOut {digests : Digests} {hasher : PasswordHasher} {order : Order}
    {id : SessionId} (h : order.intent = .signOut id) :
    (order.scenario digests hasher).Avoids database IsRefusal := by
  obtain ⟨settings, rule, drawn, intent⟩ := order
  cases h
  exact avoids_revokeCurrent (some id) (drawn.clock 0)

/-! ### Runs of turns that are on time -/

/-- The scenarios that write nothing but sessions, credentials and counted attempts, and the
mark of a link. -/
def Intent.isAboutSessions : Intent → Bool
  | .signIn _ | .signOut _ | .changePassword _ | .resetPassword _ => true
  | _ => false

/-- The turn writes no row out of order. If it is about sessions, no exception ends it; a
signing out is always done. -/
structure KeepsOrder (digests : Digests) (hasher : PasswordHasher) (t : OrderTurn) : Prop where
  rows : (t.entry.op.scenario digests hasher).Along database WritesInOrder t.before
  answered : t.entry.op.intent.isAboutSessions = true →
    ∀ exception, t.entry.answer ≠ .error (.thrown exception)
  signsOut : ∀ id, t.entry.op.intent = .signOut id → ∀ fault, t.entry.answer ≠ .error fault

section Runs

variable {digests : Digests} {hasher : PasswordHasher}

theorem along_of_onTime {order : Order} {db : Database} (h : OnTime digests hasher order db) :
    (order.scenario digests hasher).Along database WritesInOrder db := by
  obtain ⟨settings, rule, drawn, intent⟩ := order
  cases intent with
  | signIn request => exact (along_signIn h).mono fun _ _ h => h.1
  | signOut id => exact (along_signOut h).mono fun _ _ h => h.1
  | changePassword request => exact (along_changePassword h).mono fun _ _ h => h.1
  | resetPassword request => exact (along_resetPassword h).mono fun _ _ h => h.1
  | acceptInvitation request => exact along_acceptInvitation h
  | openPractice request => exact along_openPractice
  | inviteParticipant tenant role addressee => exact along_inviteParticipant
  | requestPasswordReset tenant mail => exact along_requestPasswordReset
  | registerOnMyOwn mail from_ => exact along_of_undated (footprint_registerOnMyOwn ..)
  | confirmEmail account shown => exact along_of_undated (footprint_confirmEmail ..)
  | attachAccount tenant child mail => exact along_attachAccount
  | grantGuardianScope request => exact along_grantGuardianScope
  | revokeGuardianScope request => exact along_revokeGuardianScope

/-- A scenario about sessions that is on time ends with a value or a refusal. -/
theorem isRefusal_of_onTime {order : Order} {db db' : Database} {fault : Fault}
    (h : OnTime digests hasher order db) (habout : order.intent.isAboutSessions = true)
    (hrun : (order.scenario digests hasher).run database db = (.error fault, db')) :
    IsRefusal fault := by
  obtain ⟨settings, rule, drawn, intent⟩ := order
  cases intent with
  | signIn request =>
    exact ((along_signIn h).mono fun _ _ h => h.2).error (raisesOnly_signIn request) hrun
  | signOut id =>
    exact ((along_signOut h).mono fun _ _ h => h.2).error (raisesOnly_revokeCurrent _ _) hrun
  | changePassword request =>
    exact ((along_changePassword h).mono fun _ _ h => h.2).error
      (raisesOnly_changePassword request) hrun
  | resetPassword request =>
    exact ((along_resetPassword h).mono fun _ _ h => h.2).error
      (raisesOnly_resetPassword request) hrun
  | _ => cases habout

/-- **Moments stay in order.** In every sequential run whose turns are on time, each turn
writes only rows whose moments come in order; signing in and out, changing and resetting a
password end with no exception; and a session can always be signed out. -/
theorem moments_stay_in_order {db db' : Database} {steps : List OrderTurn}
    (hrun : Linked (application digests hasher) db steps db')
    (hontime : ∀ t ∈ steps, OnTime digests hasher t.entry.op t.before) :
    ∀ t ∈ steps, KeepsOrder digests hasher t := by
  intro t ht
  have hexec : (t.entry.op.scenario digests hasher).run database t.before =
      (t.entry.answer, t.after) := hrun.exec_eq ht
  have hrefused : t.entry.op.intent.isAboutSessions = true →
      ∀ fault, t.entry.answer = .error fault → IsRefusal fault := by
    intro habout fault hanswer
    rw [hanswer] at hexec
    exact isRefusal_of_onTime (hontime t ht) habout hexec
  refine ⟨along_of_onTime (hontime t ht), fun habout exception hthrown => ?_,
    fun id hsignOut fault hfault => ?_⟩
  · obtain ⟨error, herror⟩ := hrefused habout _ hthrown
    cases herror
  · have habout : t.entry.op.intent.isAboutSessions = true := by rw [hsignOut]; rfl
    rw [hfault] at hexec
    have hspared := avoids_signOut hsignOut t.before fault t.after hexec
    exact hspared (hrefused habout fault hfault)

end Runs

/-! ### A replica whose clock is ahead -/

/-- The exception that ended a turn. -/
def thrownBy (t : OrderTurn) : Option Exception :=
  match t.entry.answer with
  | .error (.thrown exception) => some exception
  | _ => none

theorem answer_of_thrownBy {t : OrderTurn} {exception : Exception}
    (h : thrownBy t = some exception) : t.entry.answer = .error (.thrown exception) := by
  unfold thrownBy at h
  split at h
  · rename_i thrown hanswer
    rw [hanswer, Option.some.inj h]
  · cases h

/-- The owner signs in on a replica that reads 100. -/
def signedInAhead : OrderTurn :=
  turn workedApplication (orderAt 100 3 (.signIn oldPasswordShown)) ownerKnown

/-- The session he gets. -/
def aheadSession : Session :=
  ⟨⟨repeated 7, repeated 3⟩, repeated 1, 100, 86400000100, none, ownerSeen⟩

/-- He signs out on a replica at a moment. -/
def signedOutAt (now : Int) : OrderTurn :=
  turn workedApplication (orderAt now 4 (.signOut aheadSession.id)) signedInAhead.after

/-- He changes the password on a replica that reads 95, from the session he had before. -/
def changedBehind : OrderTurn :=
  turn workedApplication (orderAt 95 5 (.changePassword
    ⟨⟨repeated 7, repeated 50⟩, ascii "password", ascii "new password", ownerSeen⟩))
    (signedOutAt 90).after

/-- On a replica that reads 110 the session is closed. -/
theorem session_is_closed_on_a_replica_in_step :
    KeepsOrder standInDigest standInHasher (signedOutAt 110) ∧
      thrownBy (signedOutAt 110) = none := by
  have hrun : Linked workedApplication ownerKnown [signedInAhead, signedOutAt 110]
      (signedOutAt 110).after := ⟨rfl, rfl, rfl, rfl, rfl⟩
  have hontime : ∀ t ∈ [signedInAhead, signedOutAt 110],
      OnTime standInDigest standInHasher t.entry.op t.before := by
    intro t ht
    rcases List.mem_pair.1 ht with rfl | rfl
    · exact fun _ row _ hid => nomatch hid
    · have hopened : ∀ row ∈ signedInAhead.after.sessions.rows, row.id = aheadSession.id →
          row.revokedAt = none → row.createdAt ≤ 110 := by decide +kernel
      exact hopened
  exact ⟨moments_stay_in_order hrun hontime (signedOutAt 110) (by simp), by decide +kernel⟩

/-- On replicas that read 90 and 95 the session can neither be signed out, nor can the password
be changed: both end with an exception of the table, and the session stays usable. -/
theorem session_of_a_fast_replica_stays_open :
    Linked workedApplication ownerKnown [signedInAhead, signedOutAt 90, changedBehind]
        changedBehind.after ∧
      aheadSession ∈ signedInAhead.after.sessions.rows ∧
      thrownBy (signedOutAt 90) = some (.schemaViolation "identity_session") ∧
      thrownBy changedBehind = some (.schemaViolation "identity_session") ∧
      aheadSession ∈ changedBehind.after.sessions.rows ∧ aheadSession.isUsableAt 100 = true ∧
      ¬ KeepsOrder standInDigest standInHasher (signedOutAt 90) := by
  have hthrown : thrownBy (signedOutAt 90) = some (.schemaViolation "identity_session") := by
    decide +kernel
  refine ⟨⟨rfl, rfl, rfl, rfl, rfl, rfl, rfl⟩, by decide +kernel, hthrown, by decide +kernel,
    by decide +kernel, by decide +kernel, fun hkeeps => ?_⟩
  exact hkeeps.signsOut aheadSession.id rfl _ (answer_of_thrownBy hthrown)

end Pdr.Identity
