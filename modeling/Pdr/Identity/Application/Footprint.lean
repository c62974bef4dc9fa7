import Pdr.Identity.Application.Orders
import Pdr.StoreProgram.Alone

/-!
# Which ports a scenario uses

A scenario is built from the ports it needs and reaches no other. What it does not use it
leaves as it was, whatever its outcome is.

## Main definitions

* `Pdr.Identity.Port`, `Pdr.Identity.Call.port`
* `Pdr.Identity.BelongsTo`: a part of the database that only some stores move.
* `Pdr.Identity.Intent.ports`: the stores a scenario is built from.

## Main results

* `Pdr.Identity.BelongsTo.maintains`, `Pdr.Identity.BelongsTo.yields`: what is not used is kept.
* `Pdr.Identity.Order.footprint`: a scenario calls no other stores.
* `Pdr.Identity.Order.maintains`: what the calls of its ports keep, a scenario keeps.
-/

namespace Pdr.Identity

open StoreProgram Program

/-- The stores of the identity library. -/
inductive Port where
  | tokens
  | accounts
  | directory
  | credentials
  | sessions
  | attempts
  | guardianships
  | consents
  | practices
  | signups
deriving DecidableEq

/-- The store a call goes to. -/
def Call.port : Call → Port
  | tokens _ => .tokens
  | accounts _ => .accounts
  | directory _ => .directory
  | credentials _ => .credentials
  | sessions _ => .sessions
  | attempts _ => .attempts
  | guardianships _ => .guardianships
  | consents _ => .consents
  | practices _ => .practices
  | signups _ => .signups

/-- The call goes to one of these stores. -/
def Call.IsTo (ports : List Port) (call : Call) : Prop := ports.contains call.port = true

theorem Call.IsTo.mono {ports ports' : List Port} (hle : ports ⊆ ports') (call : Call)
    (h : call.IsTo ports) : call.IsTo ports' := by
  rw [IsTo, List.contains_iff_mem] at h ⊢
  exact hle h

/-- A part of the database that only the calls to its own stores move. -/
def BelongsTo {τ : Type} (view : Database → τ) (own : List Port) : Prop :=
  ∀ call : Call, call.port ∉ own → ∀ db, view (database.exec call db).2 = view db

theorem accounts_belong : BelongsTo (·.accounts) [.accounts] := by
  intro call hcall db
  cases call with
  | accounts call => exact absurd List.mem_cons_self hcall
  | _ => rfl

theorem consents_belong : BelongsTo (·.consents) [.consents] := by
  intro call hcall db
  cases call with
  | consents call => exact absurd List.mem_cons_self hcall
  | _ => rfl

theorem guardianships_belong : BelongsTo (·.guardianships) [.guardianships] := by
  intro call hcall db
  cases call with
  | guardianships call => exact absurd List.mem_cons_self hcall
  | _ => rfl

theorem practices_belong : BelongsTo (·.practices) [.practices] := by
  intro call hcall db
  cases call with
  | practices call => exact absurd List.mem_cons_self hcall
  | _ => rfl

section Apart

variable {τ α : Type} {view : Database → τ} {own used : List Port} {part : Scenario α}

/-- What only depends on a part of the database that is not used is kept. -/
theorem BelongsTo.maintains {P : Database → Prop} (h : BelongsTo view own)
    (hpart : part.Only (Call.IsTo used)) (hapart : ∀ port ∈ own, port ∉ used)
    (hview : ∀ {db db'}, view db' = view db → P db → P db') : part.Maintains database P := by
  refine maintains_of_only (fun call hcall db hdb => hview (h call (fun hown => ?_) db) hdb) hpart
  exact hapart call.port hown (List.contains_iff_mem.1 hcall)

/-- A part of the database that is not used is left as it was. -/
theorem BelongsTo.yields (h : BelongsTo view own) (hpart : part.Only (Call.IsTo used))
    (hapart : ∀ port ∈ own, port ∉ used) (db : Database) :
    part.Yields database (fun _ db' => view db' = view db) db :=
  h.maintains hpart hapart (fun hsame hdb => hsame.trans hdb) db rfl

end Apart

/-- The stores a scenario is built from. -/
def Intent.ports : Intent → List Port
  | signIn _ => [.credentials, .sessions, .attempts]
  | signOut _ => [.sessions]
  | inviteParticipant .. => [.tokens]
  | acceptInvitation _ => [.tokens, .accounts, .directory, .credentials, .sessions]
  | openPractice _ => [.practices, .accounts, .directory, .credentials, .sessions]
  | requestPasswordReset .. => [.credentials, .tokens]
  | resetPassword _ => [.tokens, .credentials, .sessions]
  | changePassword _ => [.credentials, .sessions]
  | registerOnMyOwn .. => [.signups, .accounts]
  | confirmEmail .. => [.accounts]
  | attachAccount .. => [.accounts, .tokens]
  | grantGuardianScope _ => [.directory, .guardianships, .consents]
  | revokeGuardianScope _ => [.consents]

section Parts

variable {ports : AuthPorts} {drawn : Drawn} {tenant : TenantId} {person : PersonId}

theorem footprint_openSession (lifetimes : AuthLifetimes) (now : Int) (seen : Fingerprint) :
    (openSession lifetimes drawn tenant person now seen).Only (Call.IsTo [.sessions]) := by
  refine Honours.bind (honours_ofExcept _) fun opened => ?_
  exact honours_perform_bind rfl fun _ _ => trivial

theorem footprint_revokeCurrent (current : Option SessionId) (now : Int) :
    (revokeCurrent current now).Only (Call.IsTo [.sessions]) := by
  cases current with
  | none => trivial
  | some id =>
    refine honours_perform_bind rfl fun found _ => ?_
    cases found with
    | none => trivial
    | some previous => exact (honours_perform _).2 rfl

theorem footprint_refuseIfBlocked (limits : ThrottleLimits) (now : Int) (subject : AttemptSubject)
    (of : Digest) :
    (refuseIfBlocked tenant limits now subject of).Only (Call.IsTo [.attempts]) := by
  refine honours_perform_bind rfl fun seen _ => ?_
  split <;> trivial

theorem footprint_accountOf (mail : Digest) (now : Int) :
    (accountOf drawn mail now).Only (Call.IsTo [.accounts]) := by
  refine honours_perform_bind rfl fun found _ => ?_
  cases found with
  | some account => trivial
  | none => exact honours_perform_bind rfl fun _ _ => trivial

theorem footprint_authenticateSession (now : Int) (id : SessionId) :
    (authenticateSession now id).Only (Call.IsTo [.sessions]) := by
  refine honours_perform_bind rfl fun found _ => ?_
  cases found with
  | none => trivial
  | some found =>
    dsimp only
    split
    · trivial
    · split <;> trivial

theorem footprint_checkOldPassword (hasher : PasswordHasher) (oldSecret : Text) :
    (checkOldPassword hasher tenant person oldSecret).Only (Call.IsTo [.credentials]) := by
  refine honours_perform_bind rfl fun stored _ => ?_
  cases stored with
  | none => trivial
  | some stored =>
    refine Honours.bind (honours_ofExcept _) fun given => ?_
    split <;> trivial

end Parts

section Scenarios

variable {ports : AuthPorts} {drawn : Drawn}

theorem footprint_signIn (request : SignInRequest) :
    (signIn ports drawn request).Only (Call.IsTo [.credentials, .sessions, .attempts]) := by
  have hblocked : ∀ limits now subject of, (refuseIfBlocked request.tenant limits now subject
      of).Only (Call.IsTo [.credentials, .sessions, .attempts]) := fun limits now subject of =>
    (footprint_refuseIfBlocked limits now subject of).mono (Call.IsTo.mono (by decide))
  refine Honours.bind (honours_ofExcept _) fun _ => ?_
  refine Honours.bind (honours_ofExcept _) fun limits => ?_
  refine Honours.bind (honours_ofExcept _) fun lifetimes => ?_
  refine Honours.bind (hblocked ..) fun _ => Honours.bind (hblocked ..) fun _ => ?_
  refine honours_perform_bind rfl fun found _ => ?_
  cases matchedPerson ports.hasher (Password.given request.secret) found with
  | none => exact honours_perform_bind rfl fun _ _ => honours_perform_bind rfl fun _ _ => trivial
  | some person =>
    refine honours_perform_bind rfl fun _ _ => honours_perform_bind rfl fun _ _ => ?_
    refine Honours.bind ((footprint_revokeCurrent _ _).mono (Call.IsTo.mono (by decide)))
      fun _ => ?_
    exact (footprint_openSession _ _ _).mono (Call.IsTo.mono (by decide))

theorem footprint_inviteParticipant (tenant : TenantId) (role : Role) (addressee : Option Email) :
    (inviteParticipant ports drawn tenant role addressee).Only (Call.IsTo [.tokens]) := by
  refine Honours.bind (honours_ofExcept _) fun lifetimes => ?_
  have hrest : ∀ invited : Option Digest, Honours (Call.IsTo [.tokens]) (fun _ _ => True) (do
      let secret ← accept (TokenSecret.parse drawn.tokenText)
      let token ← accept (OneTimeToken.invitation drawn.tokenId tenant
        (ports.digests secret.value) role invited (drawn.clock 1) lifetimes.invitation)
      ask (.tokens (.issue token))
      return (⟨token, secret⟩ : IssuedLink)) := by
    intro invited
    refine Honours.bind (honours_ofExcept _) fun secret => ?_
    refine Honours.bind (honours_ofExcept _) fun token => ?_
    exact honours_perform_bind rfl fun _ _ => trivial
  cases addressee with
  | none => exact hrest none
  | some mail =>
    refine Honours.bind ?_ fun _ => hrest _
    refine honours_perform_bind rfl fun found _ => ?_
    cases found <;> trivial

theorem footprint_acceptInvitation (request : AcceptInvitationRequest) :
    (acceptInvitation ports drawn request).Only
      (Call.IsTo [.tokens, .accounts, .directory, .credentials, .sessions]) := by
  refine Honours.bind (honours_ofExcept _) fun rules => ?_
  refine Honours.bind (honours_ofExcept _) fun lifetimes => ?_
  refine honours_perform_bind rfl fun found _ => ?_
  cases found with
  | none => trivial
  | some found =>
    dsimp only
    split
    · refine Honours.bind (honours_ofExcept _) fun used => ?_
      refine Honours.bind (honours_ofExcept _) fun chosen => ?_
      refine Honours.bind (honours_ofExcept _) fun hash => ?_
      refine Honours.bind ((footprint_accountOf _ _).mono (Call.IsTo.mono (by decide)))
        fun account => ?_
      refine honours_perform_bind rfl fun enrolled _ => ?_
      refine Honours.bind (honours_ofExcept _) fun _ => ?_
      refine honours_perform_bind rfl fun _ _ => honours_perform_bind rfl fun _ _ => ?_
      exact (footprint_openSession _ _ _).mono (Call.IsTo.mono (by decide))
    · trivial

theorem footprint_openPractice (request : OpenPracticeRequest) :
    (openPractice ports drawn request).Only
      (Call.IsTo [.practices, .accounts, .directory, .credentials, .sessions]) := by
  refine Honours.bind (honours_ofExcept _) fun rules => ?_
  refine Honours.bind (honours_ofExcept _) fun lifetimes => ?_
  refine Honours.bind (honours_ofExcept _) fun chosen => ?_
  refine Honours.bind (honours_ofExcept _) fun hash => ?_
  refine Honours.bind ((footprint_accountOf _ _).mono (Call.IsTo.mono (by decide)))
    fun account => ?_
  refine Honours.bind (honours_ofExcept _) fun practice => ?_
  refine honours_perform_bind rfl fun opened _ => ?_
  refine Honours.bind (honours_ofExcept _) fun _ => ?_
  refine honours_perform_bind rfl fun enrolled _ => ?_
  refine Honours.bind (honours_ofExcept _) fun _ => ?_
  refine honours_perform_bind rfl fun _ _ => ?_
  refine Honours.bind ((footprint_openSession _ _ _).mono (Call.IsTo.mono (by decide))) fun _ => ?_
  trivial

theorem footprint_replacePassword (lifetimes : AuthLifetimes) (tenant : TenantId)
    (person : PersonId) (hash : PasswordHash) (now : Int) (seen : Fingerprint) :
    (replacePassword lifetimes drawn tenant person hash now seen).Only
      (Call.IsTo [.credentials, .sessions]) := by
  refine honours_perform_bind rfl fun _ _ => honours_perform_bind rfl fun _ _ => ?_
  exact (footprint_openSession _ _ _).mono (Call.IsTo.mono (by decide))

theorem footprint_requestPasswordReset (tenant : TenantId) (mail : Email) :
    (requestPasswordReset ports drawn tenant mail).Only (Call.IsTo [.credentials, .tokens]) := by
  refine Honours.bind (honours_ofExcept _) fun lifetimes => ?_
  refine honours_perform_bind rfl fun found _ => ?_
  cases found with
  | none => trivial
  | some found =>
    refine Honours.bind (honours_ofExcept _) fun secret => ?_
    refine Honours.bind (honours_ofExcept _) fun token => ?_
    exact honours_perform_bind rfl fun _ _ => trivial

theorem footprint_resetPassword (request : ResetPasswordRequest) :
    (resetPassword ports drawn request).Only
      (Call.IsTo [.tokens, .credentials, .sessions]) := by
  refine Honours.bind (honours_ofExcept _) fun rules => ?_
  refine Honours.bind (honours_ofExcept _) fun lifetimes => ?_
  refine honours_perform_bind rfl fun found _ => ?_
  cases found with
  | none => trivial
  | some found =>
    dsimp only
    split
    · refine Honours.bind (honours_ofExcept _) fun used => ?_
      refine Honours.bind (honours_ofExcept _) fun chosen => ?_
      refine Honours.bind (honours_ofExcept _) fun hash => ?_
      refine honours_perform_bind rfl fun _ _ => ?_
      exact (footprint_replacePassword ..).mono (Call.IsTo.mono (by decide))
    · trivial

theorem footprint_changePassword (request : ChangePasswordRequest) :
    (changePassword ports drawn request).Only (Call.IsTo [.credentials, .sessions]) := by
  refine Honours.bind (honours_ofExcept _) fun rules => ?_
  refine Honours.bind (honours_ofExcept _) fun lifetimes => ?_
  refine Honours.bind ((footprint_authenticateSession _ _).mono (Call.IsTo.mono (by decide)))
    fun session => ?_
  refine Honours.bind ((footprint_checkOldPassword _ _).mono (Call.IsTo.mono (by decide)))
    fun _ => ?_
  refine Honours.bind (honours_ofExcept _) fun chosen => ?_
  refine Honours.bind (honours_ofExcept _) fun hash => ?_
  exact footprint_replacePassword ..

theorem footprint_countSignup (limits : SignupLimits) (now : Int) (from_ : Digest) :
    (countSignup limits now from_).Only (Call.IsTo [.signups]) := by
  refine honours_perform_bind rfl fun seen _ => ?_
  split
  · trivial
  · exact (honours_perform _).2 rfl

theorem footprint_registerOnMyOwn (mail : Email) (from_ : Digest) :
    (registerOnMyOwn ports drawn mail from_).Only (Call.IsTo [.signups, .accounts]) := by
  refine Honours.bind (honours_ofExcept _) fun limits => ?_
  refine Honours.bind (honours_ofExcept _) fun lifetimes => ?_
  refine Honours.bind ((footprint_countSignup ..).mono (Call.IsTo.mono (by decide))) fun _ => ?_
  refine honours_perform_bind rfl fun found _ => ?_
  cases found with
  | some _ => trivial
  | none =>
    refine Honours.bind (honours_ofExcept _) fun secret => ?_
    refine Honours.bind (honours_ofExcept _) fun account => ?_
    exact honours_perform_bind rfl fun _ _ => trivial

theorem footprint_confirmEmail (account : PersonId) (shown : TokenSecret) :
    (confirmEmail ports drawn account shown).Only (Call.IsTo [.accounts]) := by
  refine honours_perform_bind rfl fun found _ => ?_
  cases found with
  | none => trivial
  | some found =>
    refine Honours.bind (honours_ofExcept _) fun confirmed => ?_
    exact honours_perform_bind rfl fun _ _ => trivial

theorem footprint_claimMail (child : PersonId) (mail : Digest) :
    (claimMail drawn child mail).Only (Call.IsTo [.accounts]) := by
  refine honours_perform_bind rfl fun found _ => ?_
  cases found with
  | none => exact (honours_perform _).2 rfl
  | some existing =>
    dsimp only
    split <;> trivial

theorem footprint_attachAccount (tenant : TenantId) (child : PersonId) (mail : Email) :
    (attachAccount ports drawn tenant child mail).Only (Call.IsTo [.accounts, .tokens]) :=
  Honours.bind ((footprint_claimMail ..).mono (Call.IsTo.mono (by decide))) fun _ =>
    (footprint_inviteParticipant ..).mono (Call.IsTo.mono (by decide))

theorem footprint_requireBasis (request : GrantGuardianScopeRequest) :
    (requireBasis request).Only (Call.IsTo [.guardianships]) := by
  unfold requireBasis
  split
  · refine honours_perform_bind rfl fun found _ => ?_
    cases found <;> trivial
  · split <;> trivial

theorem footprint_grantGuardianScope (rule : Result MaturityRule)
    (request : GrantGuardianScopeRequest) :
    (grantGuardianScope rule drawn request).Only
      (Call.IsTo [.directory, .guardianships, .consents]) := by
  refine Honours.bind (honours_ofExcept _) fun rule => ?_
  refine Honours.bind ((footprint_requireBasis request).mono (Call.IsTo.mono (by decide)))
    fun _ => ?_
  refine honours_perform_bind rfl fun found _ => ?_
  cases found with
  | some _ => trivial
  | none =>
    refine honours_perform_bind rfl fun bornOn _ => ?_
    split
    · trivial
    · refine Honours.bind (honours_ofExcept _) fun consent => ?_
      exact honours_perform_bind rfl fun _ _ => trivial

theorem footprint_revokeGuardianScope (request : RevokeGuardianScopeRequest) :
    (revokeGuardianScope drawn request).Only (Call.IsTo [.consents]) := by
  refine honours_perform_bind rfl fun found _ => ?_
  cases found with
  | none => trivial
  | some found =>
    refine Honours.bind (honours_ofExcept _) fun revoked => ?_
    exact (honours_perform _).2 rfl

end Scenarios

/-- A scenario calls the stores it is built from and no others. -/
theorem Order.footprint (digests : Digests) (hasher : PasswordHasher) (order : Order) :
    (order.scenario digests hasher).Only (Call.IsTo order.intent.ports) := by
  obtain ⟨settings, rule, drawn, intent⟩ := order
  cases intent with
  | signIn request => exact footprint_signIn request
  | signOut id => exact footprint_revokeCurrent (some id) (drawn.clock 0)
  | inviteParticipant tenant role addressee =>
    exact footprint_inviteParticipant tenant role addressee
  | acceptInvitation request => exact footprint_acceptInvitation request
  | openPractice request => exact footprint_openPractice request
  | requestPasswordReset tenant mail => exact footprint_requestPasswordReset tenant mail
  | resetPassword request => exact footprint_resetPassword request
  | changePassword request => exact footprint_changePassword request
  | registerOnMyOwn mail from_ => exact footprint_registerOnMyOwn mail from_
  | confirmEmail account shown => exact footprint_confirmEmail account shown
  | attachAccount tenant child mail => exact footprint_attachAccount tenant child mail
  | grantGuardianScope request => exact footprint_grantGuardianScope rule request
  | revokeGuardianScope request => exact footprint_revokeGuardianScope request

/-- What the calls of its stores keep, a scenario keeps. -/
theorem Order.maintains {P : Database → Prop} (digests : Digests) (hasher : PasswordHasher)
    (order : Order)
    (kept : ∀ call : Call, call.IsTo order.intent.ports →
      ∀ db, P db → P (database.exec call db).2) :
    (order.scenario digests hasher).Maintains database P :=
  maintains_of_only kept (order.footprint digests hasher)

end Pdr.Identity
