import Pdr.Identity.Application.Footprint
import Pdr.Identity.Application.GuardianScopes
import Pdr.Identity.Application.OldPassword
import Pdr.Identity.Store.Laws
import Pdr.StoreProgram.Grounds

/-!
# What lets a person in

A session, a password, a role and a letter are written by scenarios that were told something
before: the hash that the password fits, the letter that was shown and is not over, the practice
that was just opened. This module says what that is for each call of each scenario.

## Main definitions

* `Pdr.Identity.Undertaking`: an order, or the enrolment of a child.
* `Pdr.Identity.LetIn`: what a scenario was told that lets a person in.
* `Pdr.Identity.Empowered`, `Pdr.Identity.Sent`: what it was told that gives a role, or sends a
  letter.
* `Pdr.Identity.Grounds`: what each call of a scenario rests on.

## Main results

* `Pdr.Identity.Undertaking.grounded`: every scenario makes its calls on these grounds.
-/

namespace Pdr.Identity

open StoreProgram Program

variable {ι : Type}

/-! ### Grounds -/

/-- An order, or the enrolment of a child by its guardian. -/
inductive Undertaking where
  | order (asked : Order)
  | enrolChild (drawn : Drawn) (request : EnrolChildRequest)

/-- The scenario of an undertaking, without its value. -/
def Undertaking.scenario (digests : Digests) (hasher : PasswordHasher) :
    Undertaking → Scenario Unit
  | .order asked => asked.scenario digests hasher >>= fun _ => pure ()
  | .enrolChild drawn request => Identity.enrolChild drawn request >>= fun _ => pure ()

/-- What a scenario was told so far. -/
abbrev Told : Type := List (Entry Call.Answer Fault)

/-- It was told the value when it made the call. -/
def Told.Has (told : Told) (call : Call) (value : call.Answer) : Prop :=
  (⟨call, .ok value⟩ : Entry Call.Answer Fault) ∈ told

theorem Told.Has.mono {told later : Told} {call : Call} {value : call.Answer}
    (h : told.Has call value) : (told ++ later).Has call value :=
  List.mem_append_left later h

theorem Told.Has.last {told : Told} {call : Call} {value : call.Answer} :
    Told.Has (told ++ [⟨call, .ok value⟩]) call value :=
  List.mem_append_right told List.mem_cons_self

section Grounds

variable (digests : Digests) (hasher : PasswordHasher) (told : Told)

/-- The letter with this secret was there, for this purpose and not over. -/
structure ShowsLetter (tenant : TenantId) (secret : TokenSecret) (now : Int)
    (token : OneTimeToken) : Prop where
  found : told.Has (.tokens (.find tenant (digests secret.value))) (some token)
  usable : token.isUsableAt now = true

/-- What lets a person in: his password, an invitation with which he was enrolled, a letter to set
a new password, a session with the old password, or the practice that he opened. -/
inductive LetIn : Undertaking → TenantId → PersonId → Prop where
  | password {settings : AuthSettings} {rule : Result MaturityRule} {drawn : Drawn}
      {request : SignInRequest} {stored : Credential} {person : PersonId}
      (read : told.Has (.credentials (.findByEmail request.tenant request.mail)) (some stored))
      (fits : matchedPerson hasher (Password.given request.secret) (some stored) = some person) :
      LetIn (.order ⟨settings, rule, drawn, .signIn request⟩) request.tenant person
  | invitation {settings : AuthSettings} {rule : Result MaturityRule} {drawn : Drawn}
      {request : AcceptInvitationRequest} {token : OneTimeToken} {enrolment : Enrolment}
      (shown : ShowsLetter digests told request.tenant request.secret (drawn.clock 0) token)
      (purpose : token.purpose = .invitation)
      (enrolled : told.Has (.directory (.enrol request.tenant enrolment drawn.roleIds)) (.ok ()))
      (marked : told.Has (.tokens (.markUsed { token with usedAt := some (drawn.clock 0) })) ()) :
      LetIn (.order ⟨settings, rule, drawn, .acceptInvitation request⟩) request.tenant
        enrolment.person.id
  | reset {settings : AuthSettings} {rule : Result MaturityRule} {drawn : Drawn}
      {request : ResetPasswordRequest} {token : OneTimeToken}
      (shown : ShowsLetter digests told request.tenant request.secret (drawn.clock 0) token)
      (purpose : token.purpose = .passwordReset)
      (marked : told.Has (.tokens (.markUsed { token with usedAt := some (drawn.clock 0) })) ()) :
      LetIn (.order ⟨settings, rule, drawn, .resetPassword request⟩) request.tenant
        (token.resetFor purpose)
  | change {settings : AuthSettings} {rule : Result MaturityRule} {drawn : Drawn}
      {request : ChangePasswordRequest} {session : Session} {stored : PasswordHash}
      {given : Password} (shown : told.Has (.sessions (.find request.current)) (some session))
      (live : session.revokedAt = none) (usable : session.isUsableAt (drawn.clock 0) = true)
      (read : told.Has (.credentials (.findFor session.id.tenant session.person)) (some stored))
      (old : Password.given request.oldSecret = .ok given)
      (fits : hasher.matchesHash given stored = true) :
      LetIn (.order ⟨settings, rule, drawn, .changePassword request⟩) session.id.tenant
        session.person
  | opening {settings : AuthSettings} {rule : Result MaturityRule} {drawn : Drawn}
      {request : OpenPracticeRequest} {practice : Tenant} {enrolment : Enrolment}
      (opened : told.Has (.practices (.open_ practice request.zone
        (Practice.opened practice.id (drawn.clock 0)))) (.ok ()))
      (enrolled : told.Has (.directory (.enrol practice.id enrolment drawn.roleIds)) (.ok ())) :
      LetIn (.order ⟨settings, rule, drawn, .openPractice request⟩) practice.id
        enrolment.person.id

/-- What gives the roles of an enrolment, and to whom: an invitation to them that was followed, the
practice just opened, or that a child is enrolled. -/
inductive Empowered : Undertaking → TenantId → Enrolment → Prop where
  | invitation {settings : AuthSettings} {rule : Result MaturityRule} {drawn : Drawn}
      {request : AcceptInvitationRequest} {token : OneTimeToken} {enrolment : Enrolment}
      (shown : ShowsLetter digests told request.tenant request.secret (drawn.clock 0) token)
      (purpose : token.purpose = .invitation) (mail : enrolment.person.mail = some request.mail)
      (roles : enrolment.roles = BitSet.ofList [token.invitedAs purpose]) :
      Empowered (.order ⟨settings, rule, drawn, .acceptInvitation request⟩) request.tenant
        enrolment
  | opening {settings : AuthSettings} {rule : Result MaturityRule} {drawn : Drawn}
      {request : OpenPracticeRequest} {practice : Tenant} {enrolment : Enrolment}
      (opened : told.Has (.practices (.open_ practice request.zone
        (Practice.opened practice.id (drawn.clock 0)))) (.ok ()))
      (mail : enrolment.person.mail = some request.mail)
      (roles : enrolment.roles = BitSet.ofList [.owner, .tutor]) :
      Empowered (.order ⟨settings, rule, drawn, .openPractice request⟩) practice.id enrolment
  | child {drawn : Drawn} {request : EnrolChildRequest} {enrolment : Enrolment}
      (drawnFor : enrolment.person.id = drawn.personId)
      (roles : enrolment.roles = BitSet.ofList [.student]) :
      Empowered (.enrolChild drawn request) request.tenant enrolment

/-- What sends a letter: somebody is invited to a role, a child gets a mail, or the password of a
known mail is to be set anew. -/
inductive Sent : Undertaking → OneTimeToken → Prop where
  | invitation {settings : AuthSettings} {rule : Result MaturityRule} {drawn : Drawn}
      {tenant : TenantId} {role : Role} {addressee : Option Email} {token : OneTimeToken}
      (within : token.tenant = tenant) (purpose : token.purpose = .invitation)
      (invitedTo : token.role = some role) :
      Sent (.order ⟨settings, rule, drawn, .inviteParticipant tenant role addressee⟩) token
  | attached {settings : AuthSettings} {rule : Result MaturityRule} {drawn : Drawn}
      {tenant : TenantId} {child : PersonId} {mail : Email} {token : OneTimeToken}
      (within : token.tenant = tenant) (purpose : token.purpose = .invitation)
      (invitedTo : token.role = some .student) :
      Sent (.order ⟨settings, rule, drawn, .attachAccount tenant child mail⟩) token
  | reset {settings : AuthSettings} {rule : Result MaturityRule} {drawn : Drawn}
      {tenant : TenantId} {mail : Email} {stored : Credential} {token : OneTimeToken}
      (read : told.Has (.credentials (.findByEmail tenant mail)) (some stored))
      (within : token.tenant = tenant) (purpose : token.purpose = .passwordReset)
      (of : token.person = some stored.person) :
      Sent (.order ⟨settings, rule, drawn, .requestPasswordReset tenant mail⟩) token

/-- What the calls of an undertaking rest on. A session is saved that was found before, or for a
person who is let in. -/
def Grounds (work : Undertaking) (told : Told) : Call → Prop
  | .sessions (.save session) =>
    (∃ id found, told.Has (.sessions (.find id)) (some found) ∧ found.id = session.id) ∨
      LetIn digests hasher told work session.id.tenant session.person
  | .credentials (.save tenant person _) => LetIn digests hasher told work tenant person
  | .directory (.enrol tenant enrolment _) => Empowered digests told work tenant enrolment
  | .tokens (.issue token) => Sent told work token
  | _ => True

end Grounds

section Mono

variable {digests : Digests} {hasher : PasswordHasher} {told later : Told} {work : Undertaking}
  {tenant : TenantId} {person : PersonId}

theorem ShowsLetter.mono {secret : TokenSecret} {now : Int} {token : OneTimeToken}
    (h : ShowsLetter digests told tenant secret now token) :
    ShowsLetter digests (told ++ later) tenant secret now token :=
  ⟨h.found.mono, h.usable⟩

/-- Who is let in stays let in, whatever the scenario is told after that. -/
theorem LetIn.mono (h : LetIn digests hasher told work tenant person) :
    LetIn digests hasher (told ++ later) work tenant person := by
  cases h with
  | password read fits => exact .password read.mono fits
  | invitation shown purpose enrolled marked =>
    exact .invitation shown.mono purpose enrolled.mono marked.mono
  | reset shown purpose marked => exact .reset shown.mono purpose marked.mono
  | change shown live usable read old fits =>
    exact .change shown.mono live usable read.mono old fits
  | opening opened enrolled => exact .opening opened.mono enrolled.mono

end Mono

/-! ### The parts of the scenarios -/

section Parts

variable {digests : Digests} {hasher : PasswordHasher} {told : Told} {work : Undertaking}
  {drawn : Drawn} {tenant : TenantId} {person : PersonId}

/-- Calls to other stores need no grounds. -/
theorem grounded_of_isTo {α : Type} {part : Scenario α} {used : List Port}
    (h : part.Only (Call.IsTo used)) (hfree : ∀ port ∈ used, port ∈ [Port.accounts, .attempts,
      .guardianships, .consents, .practices, .signups]) :
    part.Grounded (Grounds digests hasher work) told := by
  refine Only.grounded h fun told call hcall => ?_
  have hport := hfree call.port (List.contains_iff_mem.1 hcall)
  cases call with
  | sessions call => simp [Call.port] at hport
  | credentials call => simp [Call.port] at hport
  | directory call => simp [Call.port] at hport
  | tokens call => simp [Call.port] at hport
  | _ => trivial

theorem grounded_openSession {lifetimes : AuthLifetimes} {now : Int} {seen : Fingerprint}
    (h : LetIn digests hasher told work tenant person) :
    (openSession lifetimes drawn tenant person now seen).Grounded (Grounds digests hasher work)
      told := by
  refine grounded_ofExcept_bind fun opened hopened => ?_
  rw [Result.orRefuse_eq_ok, Session.open_of_pos lifetimes.positive.1] at hopened
  obtain rfl := Except.ok.inj hopened
  exact grounded_perform_bind (Or.inr h) fun _ => trivial

theorem grounded_save_bind {α : Type} {hash : PasswordHash} {next : Scenario α}
    (h : LetIn digests hasher told work tenant person)
    (second : ∀ told, LetIn digests hasher told work tenant person →
      next.Grounded (Grounds digests hasher work) told) :
    (ask (.credentials (.save tenant person hash)) >>= fun _ => next).Grounded
      (Grounds digests hasher work) told :=
  grounded_perform_bind h fun _ => second _ h.mono

theorem grounded_revokeCurrent (current : Option SessionId) (now : Int) :
    (revokeCurrent current now).Grounded (Grounds digests hasher work) told := by
  cases current with
  | none => trivial
  | some id =>
    refine grounded_perform_bind trivial fun found => ?_
    cases found with
    | none => trivial
    | some previous =>
      exact grounded_perform (Or.inl ⟨id, previous, .last, (Session.id_revoked previous now).symm⟩)

theorem grounded_accountOf (mail : Digest) (now : Int) :
    (accountOf drawn mail now).Grounded (Grounds digests hasher work) told :=
  grounded_of_isTo (footprint_accountOf mail now) (by simp)

end Parts

/-- What a scenario was told that got a session back. -/
theorem returns_authenticateSession {now : Int} {id : SessionId} {history : Told}
    {session : Session} (h : (authenticateSession now id).Returns history session) :
    history = [⟨.sessions (.find id), .ok (some session)⟩] ∧ session.revokedAt = none ∧
      session.isUsableAt now = true := by
  obtain ⟨found, later, rfl, hfound⟩ := (returns_perform_bind ..).1 h
  cases found with
  | none => exact absurd hfound (not_returns_raise _ _ _)
  | some found =>
    dsimp only at hfound
    split at hfound
    · exact absurd hfound (not_returns_raise _ _ _)
    · rename_i hrevoked
      split at hfound
      · exact absurd hfound (not_returns_raise _ _ _)
      · rename_i husable
        obtain ⟨rfl, rfl⟩ := (returns_done ..).1 hfound
        exact ⟨rfl, by simpa using hrevoked, by simpa using husable⟩

/-- What a scenario was told to which the old password was shown. -/
theorem returns_checkOldPassword {hasher : PasswordHasher} {tenant : TenantId} {person : PersonId}
    {oldSecret : Text} {history : Told} {done : Unit}
    (h : (checkOldPassword hasher tenant person oldSecret).Returns history done) :
    ∃ stored given, history = [⟨.credentials (.findFor tenant person), .ok (some stored)⟩] ∧
      Password.given oldSecret = .ok given ∧ hasher.matchesHash given stored = true := by
  obtain ⟨found, later, rfl, hfound⟩ := (returns_perform_bind ..).1 h
  cases found with
  | none => exact absurd hfound (not_returns_raise _ _ _)
  | some stored =>
    obtain ⟨given, hgiven, hfits⟩ := (returns_ofExcept_bind ..).1 hfound
    split at hfits
    · rename_i hmatches
      obtain ⟨rfl, -⟩ := (returns_done ..).1 hfits
      exact ⟨stored, given, rfl, (Result.orRefuse_eq_ok _ _).1 hgiven, hmatches⟩
    · exact absurd hfits (not_returns_raise _ _ _)

/-! ### The scenarios -/

section Scenarios

variable {digests : Digests} {hasher : PasswordHasher} {settings : AuthSettings}
  {rule : Result MaturityRule} {drawn : Drawn}

theorem grounded_signIn (request : SignInRequest) :
    (signIn ⟨settings, digests, hasher⟩ drawn request).Grounded
      (Grounds digests hasher (.order ⟨settings, rule, drawn, .signIn request⟩)) [] := by
  refine grounded_ofExcept_bind fun _ _ => ?_
  refine grounded_ofExcept_bind fun limits _ => ?_
  refine grounded_ofExcept_bind fun lifetimes _ => ?_
  refine Grounded.bind (grounded_of_isTo (footprint_refuseIfBlocked ..) (by simp)) fun _ _ _ => ?_
  refine Grounded.bind (grounded_of_isTo (footprint_refuseIfBlocked ..) (by simp)) fun _ _ _ => ?_
  refine grounded_perform_bind trivial fun found => ?_
  cases hmatched : matchedPerson hasher (Password.given request.secret) found with
  | none =>
    exact grounded_perform_bind trivial fun _ => grounded_perform_bind trivial fun _ => trivial
  | some person =>
    obtain ⟨stored, rfl, -⟩ := found_of_matchedPerson hmatched
    refine grounded_perform_bind trivial fun _ => grounded_perform_bind trivial fun _ => ?_
    refine Grounded.bind (grounded_revokeCurrent ..) fun _ _ _ => grounded_openSession ?_
    exact .password (Told.Has.last.mono.mono.mono) hmatched

theorem grounded_signOut (id : SessionId) :
    (signOut drawn id).Grounded
      (Grounds digests hasher (.order ⟨settings, rule, drawn, .signOut id⟩)) [] :=
  grounded_revokeCurrent (some id) (drawn.clock 0)

/-- What an invitation is sent on: it needs no other grounds than what is asked for. -/
theorem grounded_inviteParticipant {work : Undertaking} {told : Told} (tenant : TenantId)
    (role : Role) (addressee : Option Email)
    (hsent : ∀ (told : Told) (token : OneTimeToken), token.tenant = tenant →
      token.purpose = .invitation → token.role = some role → Sent told work token) :
    (inviteParticipant ⟨settings, digests, hasher⟩ drawn tenant role addressee).Grounded
      (Grounds digests hasher work) told := by
  refine grounded_ofExcept_bind fun lifetimes _ => ?_
  have hrest : ∀ (invited : Option Digest) (told : Told), Grounded (Grounds digests hasher work)
      told (do
        let secret ← accept (TokenSecret.parse drawn.tokenText)
        let token ← accept (OneTimeToken.invitation drawn.tokenId tenant
          (digests secret.value) role invited (drawn.clock 1) lifetimes.invitation)
        ask (.tokens (.issue token))
        return (⟨token, secret⟩ : IssuedLink)) := by
    intro invited told
    refine grounded_ofExcept_bind fun secret _ => ?_
    refine grounded_ofExcept_bind fun token htoken => ?_
    rw [Result.orRefuse_eq_ok, OneTimeToken.invitation_eq_ok] at htoken
    obtain ⟨-, rfl⟩ := htoken
    exact grounded_perform_bind (hsent told _ rfl rfl rfl) fun _ => trivial
  cases addressee with
  | none => exact hrest none _
  | some mail =>
    refine Grounded.bind ?_ fun _ _ _ => hrest _ _
    refine grounded_perform_bind trivial fun found => ?_
    cases found <;> trivial

theorem grounded_acceptInvitation (request : AcceptInvitationRequest) :
    (acceptInvitation ⟨settings, digests, hasher⟩ drawn request).Grounded
      (Grounds digests hasher (.order ⟨settings, rule, drawn, .acceptInvitation request⟩)) [] := by
  refine grounded_ofExcept_bind fun rules _ => ?_
  refine grounded_ofExcept_bind fun lifetimes _ => ?_
  refine grounded_perform_bind trivial fun found => ?_
  cases found with
  | none => trivial
  | some token =>
    dsimp only
    split
    · rename_i purpose
      refine grounded_ofExcept_bind fun used hused => ?_
      rw [Result.orRefuse_eq_ok, OneTimeToken.used_eq_ok] at hused
      obtain ⟨husable, rfl⟩ := hused
      refine grounded_ofExcept_bind fun chosen _ => ?_
      refine grounded_ofExcept_bind fun hash _ => ?_
      refine Grounded.bind (grounded_accountOf ..) fun history account _ => ?_
      have hshown : ∀ {later : Told}, ShowsLetter digests
          ([] ++ [⟨.tokens (.find request.tenant (digests request.secret.value)),
            .ok (some token)⟩] ++ later) request.tenant request.secret (drawn.clock 0) token :=
        ⟨Told.Has.last.mono, husable⟩
      refine grounded_perform_bind (.invitation hshown purpose rfl rfl) fun enrolled => ?_
      refine grounded_ofExcept_bind fun _ henrolled => ?_
      obtain rfl : enrolled = .ok () := (Result.orRefuse_eq_ok _ _).1 henrolled
      refine grounded_perform_bind trivial fun _ => ?_
      refine grounded_save_bind (.invitation hshown.mono.mono purpose Told.Has.last.mono .last)
        fun told hin => grounded_openSession hin
    · trivial

theorem grounded_openPractice (request : OpenPracticeRequest) :
    (openPractice ⟨settings, digests, hasher⟩ drawn request).Grounded
      (Grounds digests hasher (.order ⟨settings, rule, drawn, .openPractice request⟩)) [] := by
  refine grounded_ofExcept_bind fun rules _ => ?_
  refine grounded_ofExcept_bind fun lifetimes _ => ?_
  refine grounded_ofExcept_bind fun chosen _ => ?_
  refine grounded_ofExcept_bind fun hash _ => ?_
  refine Grounded.bind (grounded_accountOf ..) fun history account _ => ?_
  refine grounded_ofExcept_bind fun practice _ => ?_
  refine grounded_perform_bind trivial fun opened => ?_
  refine grounded_ofExcept_bind fun _ hopened => ?_
  obtain rfl : opened = .ok () := (Result.orRefuse_eq_ok _ _).1 hopened
  refine grounded_perform_bind (.opening .last rfl rfl) fun enrolled => ?_
  refine grounded_ofExcept_bind fun _ henrolled => ?_
  obtain rfl : enrolled = .ok () := (Result.orRefuse_eq_ok _ _).1 henrolled
  refine grounded_save_bind (.opening Told.Has.last.mono .last) fun told hin => ?_
  exact Grounded.bind (grounded_openSession hin) fun _ _ _ => trivial

theorem grounded_requestPasswordReset (tenant : TenantId) (mail : Email) :
    (requestPasswordReset ⟨settings, digests, hasher⟩ drawn tenant mail).Grounded
      (Grounds digests hasher (.order ⟨settings, rule, drawn, .requestPasswordReset tenant mail⟩))
      [] := by
  refine grounded_ofExcept_bind fun lifetimes _ => ?_
  refine grounded_perform_bind trivial fun found => ?_
  cases found with
  | none => trivial
  | some stored =>
    refine grounded_ofExcept_bind fun secret _ => ?_
    refine grounded_ofExcept_bind fun token htoken => ?_
    rw [Result.orRefuse_eq_ok, OneTimeToken.passwordResetOf_eq_ok] at htoken
    obtain ⟨-, rfl⟩ := htoken
    exact grounded_perform_bind (.reset .last rfl rfl rfl) fun _ => trivial

theorem grounded_replacePassword {told : Told} {work : Undertaking} {lifetimes : AuthLifetimes}
    {tenant : TenantId} {person : PersonId} {hash : PasswordHash} {now : Int} {seen : Fingerprint}
    (h : LetIn digests hasher told work tenant person) :
    (replacePassword lifetimes drawn tenant person hash now seen).Grounded
      (Grounds digests hasher work) told :=
  grounded_save_bind h fun _ hin => grounded_perform_bind trivial fun _ =>
    grounded_openSession hin.mono

theorem grounded_resetPassword (request : ResetPasswordRequest) :
    (resetPassword ⟨settings, digests, hasher⟩ drawn request).Grounded
      (Grounds digests hasher (.order ⟨settings, rule, drawn, .resetPassword request⟩)) [] := by
  refine grounded_ofExcept_bind fun rules _ => ?_
  refine grounded_ofExcept_bind fun lifetimes _ => ?_
  refine grounded_perform_bind trivial fun found => ?_
  cases found with
  | none => trivial
  | some token =>
    dsimp only
    split
    · rename_i purpose
      refine grounded_ofExcept_bind fun used hused => ?_
      rw [Result.orRefuse_eq_ok, OneTimeToken.used_eq_ok] at hused
      obtain ⟨husable, rfl⟩ := hused
      refine grounded_ofExcept_bind fun chosen _ => ?_
      refine grounded_ofExcept_bind fun hash _ => ?_
      refine grounded_perform_bind trivial fun _ => ?_
      exact grounded_replacePassword (.reset ⟨Told.Has.last.mono, husable⟩ purpose .last)
    · trivial

theorem grounded_changePassword (request : ChangePasswordRequest) :
    (changePassword ⟨settings, digests, hasher⟩ drawn request).Grounded
      (Grounds digests hasher (.order ⟨settings, rule, drawn, .changePassword request⟩)) [] := by
  refine grounded_ofExcept_bind fun rules _ => ?_
  refine grounded_ofExcept_bind fun lifetimes _ => ?_
  have hauthenticate : (authenticateSession (drawn.clock 0) request.current).Grounded
      (Grounds digests hasher (.order ⟨settings, rule, drawn, .changePassword request⟩)) [] := by
    refine grounded_perform_bind trivial fun found => ?_
    cases found with
    | none => trivial
    | some found =>
      dsimp only
      split
      · trivial
      · split <;> trivial
  refine Grounded.bind hauthenticate fun history session hreturns => ?_
  obtain ⟨rfl, hlive, husable⟩ := returns_authenticateSession hreturns
  have hcheck : ∀ told, (checkOldPassword hasher session.id.tenant session.person
      request.oldSecret).Grounded
        (Grounds digests hasher (.order ⟨settings, rule, drawn, .changePassword request⟩))
        told := by
    intro told
    refine grounded_perform_bind trivial fun stored => ?_
    cases stored with
    | none => trivial
    | some stored =>
      refine grounded_ofExcept_bind fun given _ => ?_
      split <;> trivial
  refine Grounded.bind (hcheck _) fun read _ hread => ?_
  obtain ⟨stored, given, rfl, hgiven, hfits⟩ := returns_checkOldPassword hread
  refine grounded_ofExcept_bind fun chosen _ => ?_
  refine grounded_ofExcept_bind fun hash _ => ?_
  exact grounded_replacePassword (.change Told.Has.last.mono hlive husable .last hgiven hfits)

/-- **Every scenario** makes its calls on their grounds. -/
theorem Undertaking.grounded (digests : Digests) (hasher : PasswordHasher) (work : Undertaking) :
    (work.scenario digests hasher).Grounded (Grounds digests hasher work) [] := by
  cases work with
  | enrolChild drawn request =>
    refine Grounded.bind ?_ fun _ _ _ => trivial
    refine grounded_perform_bind (.child rfl rfl) fun enrolled => ?_
    refine grounded_ofExcept_bind fun _ _ => ?_
    refine grounded_ofExcept_bind fun guardianship _ => ?_
    exact grounded_perform_bind trivial fun _ => trivial
  | order asked =>
    obtain ⟨settings, rule, drawn, intent⟩ := asked
    refine Grounded.bind ?_ fun _ _ _ => trivial
    cases intent with
    | signIn request => exact grounded_signIn request
    | signOut id => exact grounded_signOut id
    | inviteParticipant tenant role addressee =>
      exact grounded_inviteParticipant tenant role addressee fun told token => .invitation
    | acceptInvitation request => exact grounded_acceptInvitation request
    | openPractice request => exact grounded_openPractice request
    | requestPasswordReset tenant mail => exact grounded_requestPasswordReset tenant mail
    | resetPassword request => exact grounded_resetPassword request
    | changePassword request => exact grounded_changePassword request
    | registerOnMyOwn mail from_ =>
      exact grounded_of_isTo (footprint_registerOnMyOwn mail from_) (by simp)
    | confirmEmail account shown =>
      exact grounded_of_isTo (footprint_confirmEmail account shown) (by simp)
    | attachAccount tenant child mail =>
      refine Grounded.bind (grounded_of_isTo (footprint_claimMail ..) (by simp)) fun _ _ _ => ?_
      exact grounded_inviteParticipant tenant .student (some mail) fun told token => .attached
    | grantGuardianScope request =>
      refine grounded_ofExcept_bind fun rule _ => ?_
      refine Grounded.bind (grounded_of_isTo (footprint_requireBasis request) (by simp))
        fun _ _ _ => ?_
      refine grounded_perform_bind trivial fun found => ?_
      cases found with
      | some found => trivial
      | none =>
        refine grounded_perform_bind trivial fun bornOn => ?_
        split
        · trivial
        · refine grounded_ofExcept_bind fun consent _ => ?_
          exact grounded_perform_bind trivial fun _ => trivial
    | revokeGuardianScope request =>
      exact grounded_of_isTo (footprint_revokeGuardianScope request) (by simp)

end Scenarios

end Pdr.Identity
