import Pdr.Identity.Application.OneTimeLinks
import Pdr.Identity.Application.SigningIn
import Pdr.Identity.Store.Laws
import Pdr.StoreProgram.Interleaving
import Mathlib.Data.List.TakeWhile

/-!
# Sessions opened by the old password

Whoever signs in reads the hash, checks the password and saves a session some calls later.
A change of the password saves a new hash and revokes the sessions that are there. A sign-in
that read the old hash and saves its session only after the revocation keeps a session that
nothing revokes. A session saved before the revocation stays closed for good: until its save
no call of the run touches it, because its secret is new, and after the revocation it is only
ever saved revoked.

## Main definitions

* `Pdr.Identity.PasswordChange`, `Pdr.Identity.replaceBy`: a change or a reset.
* `Pdr.Identity.changeAndSignIns`: one of them among any number of sign-ins.
* `Pdr.Identity.oldSessionsPrecede`: no session by the old hash is saved after the revocation.

## Main results

* `Pdr.Identity.honours_signIn`, `Pdr.Identity.honours_replaceBy`: which sessions a scenario
  saves.
* `Pdr.Identity.old_sessions_are_closed`: then none of them is usable.
* `Pdr.Identity.late_sign_in_keeps_its_session`: without it one is.
-/

namespace Pdr.Identity

open StoreProgram Program

/-! ### A change of the password -/

/-- What changes a password. -/
inductive PasswordChange where
  | change (request : ChangePasswordRequest)
  | reset (request : ResetPasswordRequest)

/-- The scenario of a change. -/
def replaceBy (ports : AuthPorts) (drawn : Drawn) : PasswordChange → Scenario Session
  | .change request => changePassword ports drawn request
  | .reset request => resetPassword ports drawn request

section Promises

variable {ports : AuthPorts} {drawn : Drawn} (known : SessionId → Prop)

/-- A scenario saves a session it opens, live and under its own new secret, or a session it
has found, revoked. -/
def SavesOwnOrKnown (secret : SessionSecret) (call : Call) : Prop :=
  ∀ session, call = .sessions (.save session) →
    (session.revokedAt = none ∧ session.id.secret = secret) ∨
      (session.revokedAt.isSome = true ∧ known session.id)

/-- The sessions that are found are known. -/
def FindsKnown : (call : Call) → Except Fault call.Answer → Prop
  | .sessions (.find _), .ok (some found) => known found.id
  | _, _ => True

theorem honours_openSession (lifetimes : AuthLifetimes) (tenant : TenantId) (person : PersonId)
    (now : Int) (seen : Fingerprint) :
    (openSession lifetimes drawn tenant person now seen).Honours
      (SavesOwnOrKnown known drawn.sessionSecret) (FindsKnown known) := by
  simp only [openSession, Session.open_of_pos lifetimes.positive.1, accept_ok, done_bind]
  refine honours_perform_bind ?_ fun _ _ => trivial
  intro session hsession
  cases hsession
  exact Or.inl ⟨rfl, rfl⟩

theorem honours_revokeCurrent (secret : SessionSecret) (current : Option SessionId) (now : Int) :
    (revokeCurrent current now).Honours (SavesOwnOrKnown known secret) (FindsKnown known) := by
  cases current with
  | none => trivial
  | some id =>
    refine honours_perform_bind nofun fun found hfound => ?_
    cases found with
    | none => trivial
    | some previous =>
      refine (honours_perform _).2 fun session hsession => ?_
      cases hsession
      refine Or.inr ⟨Session.isSome_revokedAt_revoked previous now, ?_⟩
      rw [Session.id_revoked]
      exact hfound

/-- What a sign-in promises. -/
theorem honours_signIn (request : SignInRequest) :
    (signIn ports drawn request).Honours (SavesOwnOrKnown known drawn.sessionSecret)
      (FindsKnown known) := by
  refine Honours.bind (honours_ofExcept _) fun _ => ?_
  refine Honours.bind (honours_ofExcept _) fun limits => ?_
  refine Honours.bind (honours_ofExcept _) fun lifetimes => ?_
  have hblocked : ∀ subject of, (refuseIfBlocked request.tenant limits (drawn.clock 0) subject
      of).Honours (SavesOwnOrKnown known drawn.sessionSecret) (FindsKnown known) := by
    intro subject of
    refine honours_perform_bind nofun fun seen _ => ?_
    split <;> trivial
  refine Honours.bind (hblocked ..) fun _ => Honours.bind (hblocked ..) fun _ => ?_
  refine honours_perform_bind nofun fun found _ => ?_
  cases matchedPerson ports.hasher (Password.given request.secret) found with
  | none =>
    exact honours_perform_bind nofun fun _ _ => honours_perform_bind nofun fun _ _ => trivial
  | some person =>
    refine honours_perform_bind nofun fun _ _ => honours_perform_bind nofun fun _ _ => ?_
    exact Honours.bind (honours_revokeCurrent ..) fun _ => honours_openSession ..

/-- What a change of the password promises. -/
theorem honours_replaceBy (change : PasswordChange) :
    (replaceBy ports drawn change).Honours (SavesOwnOrKnown known drawn.sessionSecret)
      (FindsKnown known) := by
  cases change with
  | change request =>
    refine Honours.bind (honours_ofExcept _) fun rules => ?_
    refine Honours.bind (honours_ofExcept _) fun lifetimes => ?_
    refine Honours.bind ?_ fun session => ?_
    · refine honours_perform_bind nofun fun found _ => ?_
      cases found with
      | none => trivial
      | some found =>
        dsimp only
        split
        · trivial
        · split <;> trivial
    refine Honours.bind ?_ fun _ => ?_
    · refine honours_perform_bind nofun fun stored _ => ?_
      cases stored with
      | none => trivial
      | some stored =>
        refine Honours.bind (honours_ofExcept _) fun given => ?_
        split <;> trivial
    refine Honours.bind (honours_ofExcept _) fun chosen => ?_
    refine Honours.bind (honours_ofExcept _) fun hash => ?_
    refine honours_perform_bind nofun fun _ _ => honours_perform_bind nofun fun _ _ => ?_
    exact honours_openSession ..
  | reset request =>
    refine Honours.bind (honours_ofExcept _) fun rules => ?_
    refine Honours.bind (honours_ofExcept _) fun lifetimes => ?_
    refine honours_perform_bind nofun fun found _ => ?_
    cases found with
    | none => trivial
    | some found =>
      dsimp only
      split
      · refine Honours.bind (honours_ofExcept _) fun used => ?_
        refine Honours.bind (honours_ofExcept _) fun chosen => ?_
        refine Honours.bind (honours_ofExcept _) fun hash => ?_
        refine honours_perform_bind nofun fun _ _ => honours_perform_bind nofun fun _ _ => ?_
        exact honours_perform_bind nofun fun _ _ => honours_openSession ..
      · trivial

end Promises

/-- A call that opens no session and reads no hash. -/
def IsQuiet (call : Call) : Prop :=
  (∀ session, call = .sessions (.save session) → session.revokedAt.isSome = true) ∧
    ∀ tenant mail, call ≠ .credentials (.findByEmail tenant mail)

private theorem quiet_refuseIfBlocked (tenant : TenantId) (limits : ThrottleLimits) (now : Int)
    (subject : AttemptSubject) (of : Digest) :
    (refuseIfBlocked tenant limits now subject of).Only IsQuiet := by
  refine honours_perform_bind ⟨nofun, nofun⟩ fun seen _ => ?_
  split <;> trivial

private theorem quiet_revokeCurrent (current : Option SessionId) (now : Int) :
    (revokeCurrent current now).Only IsQuiet := by
  cases current with
  | none => trivial
  | some id =>
    refine honours_perform_bind ⟨nofun, nofun⟩ fun found _ => ?_
    cases found with
    | none => trivial
    | some previous =>
      refine (honours_perform _).2 ⟨fun session hsession => ?_, nofun⟩
      cases hsession
      exact Session.isSome_revokedAt_revoked previous now

/-- Whom a password lets in is whom the credential names. -/
theorem found_of_matchedPerson {hasher : PasswordHasher} {given : Result Password}
    {found : Option Credential} {person : PersonId}
    (h : matchedPerson hasher given found = some person) :
    ∃ credential, found = some credential ∧ credential.person = person := by
  cases given with
  | error error => cases h
  | ok password =>
    cases found with
    | none => cases h
    | some credential =>
      simp only [matchedPerson] at h
      split at h
      · exact ⟨credential, rfl, Option.some.inj h⟩
      · cases h

/-- A sign-in that returns a session saved it last. Before that it read one hash, of the
session's person, and opened nothing. -/
theorem signIn_returns {ports : AuthPorts} {drawn : Drawn} {request : SignInRequest}
    {history : List (Entry Call.Answer Fault)} {session : Session}
    (h : (signIn ports drawn request).Returns history session) :
    ∃ credential early, history = early ++ [⟨.sessions (.save session), .ok ()⟩] ∧
      session.id = ⟨request.tenant, drawn.sessionSecret⟩ ∧ session.revokedAt = none ∧
      session.person = credential.person ∧
      ∀ entry ∈ early, IsQuiet entry.op ∨
        entry =
          ⟨.credentials (.findByEmail request.tenant request.mail), .ok (some credential)⟩ := by
  simp only [signIn, returns_ofExcept_bind] at h
  obtain ⟨rules, -, limits, -, lifetimes, -, hrest⟩ := h
  obtain ⟨⟨⟩, early₁, late₁, haccount, hrest₁, rfl⟩ := (returns_bind ..).1 hrest
  obtain ⟨⟨⟩, early₂, late₂, haddress, hrest₂, rfl⟩ := (returns_bind ..).1 hrest₁
  obtain ⟨found, late₃, rfl, hconclude⟩ := (returns_perform_bind ..).1 hrest₂
  cases hmatched : matchedPerson ports.hasher (Password.given request.secret) found with
  | none =>
    rw [hmatched] at hconclude
    simp only [concludeSignIn, returns_perform_bind] at hconclude
    obtain ⟨_, _, rfl, _, _, rfl, hnever⟩ := hconclude
    exact absurd hnever (not_returns_raise _ _ _)
  | some person =>
    rw [hmatched] at hconclude
    obtain ⟨credential, rfl, rfl⟩ := found_of_matchedPerson hmatched
    simp only [concludeSignIn, returns_perform_bind] at hconclude
    obtain ⟨⟨⟩, late₄, rfl, ⟨⟩, late₅, rfl, hlast⟩ := hconclude
    obtain ⟨⟨⟩, early₃, late₆, hrevoke, hopen, rfl⟩ := (returns_bind ..).1 hlast
    obtain ⟨hsession, rfl⟩ := returns_openSession hopen
    have hquiet₁ := Follows.only haccount (quiet_refuseIfBlocked ..)
    have hquiet₂ := Follows.only haddress (quiet_refuseIfBlocked ..)
    have hquiet₃ := Follows.only hrevoke (quiet_revokeCurrent ..)
    refine ⟨credential, early₁ ++ (early₂ ++
      (⟨.credentials (.findByEmail request.tenant request.mail), .ok (some credential)⟩ ::
        ⟨.attempts (.forget request.tenant .account
          (accountFingerprint ports.digests request.tenant request.mail)), .ok ()⟩ ::
        ⟨.attempts (.forget request.tenant .address request.seen.address), .ok ()⟩ :: early₃)),
      by simp, ?_, ?_, ?_, ?_⟩
    · rw [hsession]
    · rw [hsession]
    · rw [hsession]
    · intro entry hentry
      simp only [List.mem_append, List.mem_cons] at hentry
      rcases hentry with h₁ | h₂ | rfl | rfl | rfl | h₃
      · exact Or.inl (hquiet₁ entry h₁)
      · exact Or.inl (hquiet₂ entry h₂)
      · exact Or.inr rfl
      · exact Or.inl ⟨nofun, nofun⟩
      · exact Or.inl ⟨nofun, nofun⟩
      · exact Or.inl (hquiet₃ entry h₃)

/-- A change that returns a session has revoked everything of its person. -/
theorem replaceBy_returns {ports : AuthPorts} {drawn : Drawn} {change : PasswordChange}
    {history : List (Entry Call.Answer Fault)} {fresh : Session}
    (h : (replaceBy ports drawn change).Returns history fresh) :
    ∃ at_, ⟨.sessions (.revokeAllFor fresh.id.tenant fresh.person at_), .ok ()⟩ ∈ history := by
  cases change with
  | change request =>
    simp only [replaceBy, changePassword, returns_ofExcept_bind] at h
    obtain ⟨rules, -, lifetimes, -, hrest⟩ := h
    obtain ⟨session, early, late, -, hrest₁, rfl⟩ := (returns_bind ..).1 hrest
    obtain ⟨⟨⟩, early', late', -, hrest₂, rfl⟩ := (returns_bind ..).1 hrest₁
    simp only [replacePassword, returns_ofExcept_bind, returns_perform_bind] at hrest₂
    obtain ⟨chosen, -, hash, -, ⟨⟩, _, rfl, ⟨⟩, _, rfl, hopen⟩ := hrest₂
    obtain ⟨rfl, rfl⟩ := returns_openSession hopen
    exact ⟨drawn.clock 1, by simp⟩
  | reset request =>
    simp only [replaceBy, resetPassword, returns_ofExcept_bind, returns_perform_bind] at h
    obtain ⟨rules, -, lifetimes, -, answer, later, rfl, hfollow⟩ := h
    cases answer with
    | none => exact absurd hfollow (not_returns_raise _ _ _)
    | some found =>
      dsimp only at hfollow
      split at hfollow
      · simp only [followReset, returns_ofExcept_bind, returns_perform_bind] at hfollow
        obtain ⟨used, -, chosen, -, hash, -, ⟨⟩, _, rfl, ⟨⟩, _, rfl, ⟨⟩, _, rfl, hopen⟩ := hfollow
        obtain ⟨rfl, rfl⟩ := returns_openSession hopen
        exact ⟨drawn.clock 0, by simp⟩
      · exact absurd hfollow (not_returns_raise _ _ _)

/-! ### A change among sign-ins -/

variable {ι : Type} [DecidableEq ι]

/-- One change of a password, under `none`, and sign-ins. -/
def changeAndSignIns (digests : Digests) (hasher : PasswordHasher)
    (settings : Option ι → AuthSettings) (drawn : Option ι → Drawn) (change : PasswordChange)
    (requests : ι → SignInRequest) : Option ι → Scenario Session
  | none => replaceBy ⟨settings none, digests, hasher⟩ (drawn none) change
  | some i => signIn ⟨settings (some i), digests, hasher⟩ (drawn (some i)) (requests i)

/-- The generator gives every execution a secret of its own that no stored session has. -/
structure FreshSecrets (drawn : Option ι → Drawn) (db : Database) : Prop where
  distinct : Function.Injective fun thread => (drawn thread).sessionSecret
  new : ∀ row ∈ db.sessions.rows, ∀ thread, row.id.secret ≠ (drawn thread).sessionSecret

/-- The step looked a mail up and was given this person with this hash. -/
def readsHash (tenant : TenantId) (person : PersonId) (hash : PasswordHash)
    (t : Step (Option ι) Call.Answer Fault Database) : Bool :=
  match t.entry with
  | ⟨.credentials (.findByEmail home _), .ok (some credential)⟩ =>
    home = tenant && credential = ⟨person, hash⟩
  | _ => false

/-- The step saves a live session. -/
def opensSession (t : Step (Option ι) Call.Answer Fault Database) : Bool :=
  match t.entry.op with
  | .sessions (.save session) => session.revokedAt.isNone
  | _ => false

/-- The step is the change's revocation of everything of a person. -/
def revokesAll (tenant : TenantId) (person : PersonId)
    (t : Step (Option ι) Call.Answer Fault Database) : Bool :=
  t.thread.isNone &&
    match t.entry with
    | ⟨.sessions (.revokeAllFor home whose _), .ok _⟩ => home = tenant && whose = person
    | _ => false

/-- From the revocation on, no execution that has read the old hash saves a live session. -/
def oldSessionsPrecede (tenant : TenantId) (person : PersonId) (old : PasswordHash)
    (steps : List (Step (Option ι) Call.Answer Fault Database)) : Bool :=
  (steps.dropWhile fun t => !revokesAll tenant person t).all fun t =>
    !opensSession t || !steps.any fun u => u.thread = t.thread && readsHash tenant person old u

/-- No session of a sign-in that read the old hash is usable, now or later. -/
def OldSessionsClosed (tenant : TenantId) (person : PersonId) (old : PasswordHash)
    (steps : List (Step (Option ι) Call.Answer Fault Database))
    (pool : Option ι → Scenario Session) (db : Database) : Prop :=
  ∀ i session, (pool (some i)).value? = some session →
    (steps.any fun t => t.thread = some i && readsHash tenant person old t) = true →
    ∀ row ∈ db.sessions.rows, row.id = session.id → ∀ moment, row.isUsableAt moment = false

omit [DecidableEq ι] in
theorem readsHash_eq_true {tenant : TenantId} {person : PersonId} {hash : PasswordHash}
    {t : Step (Option ι) Call.Answer Fault Database} (h : readsHash tenant person hash t = true) :
    ∃ mail, t.entry =
      ⟨.credentials (.findByEmail tenant mail), .ok (some ⟨person, hash⟩)⟩ := by
  obtain ⟨thread, entry, before, after⟩ := t
  unfold readsHash at h
  dsimp only at h
  split at h
  · rename_i home mail credential
    simp only [Bool.and_eq_true, decide_eq_true_eq] at h
    obtain ⟨rfl, rfl⟩ := h
    exact ⟨mail, rfl⟩
  · cases h

omit [DecidableEq ι] in
theorem revokesAll_eq_true {tenant : TenantId} {person : PersonId}
    {t : Step (Option ι) Call.Answer Fault Database} (h : revokesAll tenant person t = true) :
    t.thread = none ∧
      ∃ at_, t.entry = ⟨.sessions (.revokeAllFor tenant person at_), .ok ()⟩ := by
  obtain ⟨thread, entry, before, after⟩ := t
  simp only [revokesAll, Bool.and_eq_true, Option.isNone_iff_eq_none] at h
  obtain ⟨hthread, hentry⟩ := h
  refine ⟨hthread, ?_⟩
  split at hentry
  · rename_i home whose at_ _
    simp only [Bool.and_eq_true, decide_eq_true_eq] at hentry
    obtain ⟨rfl, rfl⟩ := hentry
    exact ⟨at_, rfl⟩
  · cases hentry

section Closing

variable {digests : Digests} {hasher : PasswordHasher} {settings : Option ι → AuthSettings}
  {drawn : Option ι → Drawn} {change : PasswordChange} {requests : ι → SignInRequest}
  {db db' : Database} {steps : List (Step (Option ι) Call.Answer Fault Database)}
  {pool' : Option ι → Scenario Session}

omit [DecidableEq ι] in
theorem honours_changeAndSignIns (known : SessionId → Prop) (thread : Option ι) :
    (changeAndSignIns digests hasher settings drawn change requests thread).Honours
      (SavesOwnOrKnown known (drawn thread).sessionSecret) (FindsKnown known) := by
  cases thread with
  | none => exact honours_replaceBy known change
  | some i => exact honours_signIn known (requests i)

/-- While a session is absent, no other session that is found is that one. -/
theorem findsKnown_of_isAbsent {id : SessionId} (call : Call) (h : db.IsAbsent id) :
    FindsKnown (· ≠ id) call (database.exec call db).1 := by
  cases call with
  | sessions call =>
    cases call with
    | find asked =>
      rw [exec_sessions]
      simp only [SessionCall.exec]
      cases hfound : db.sessions.find? (·.id = asked) with
      | none => trivial
      | some found => exact h found (Table.mem_of_find? hfound)
    | _ => trivial
  | _ => trivial

/-- Up to the step that saves a new session, nobody has saved it: only its own execution
would, and that is quiet until then. -/
theorem isAbsent_before_save {i : ι} {session : Session}
    {early : List (Step (Option ι) Call.Answer Fault Database)}
    (hfresh : FreshSecrets drawn db)
    (hrun : Runs database (changeAndSignIns digests hasher settings drawn change requests) db early
      pool' db')
    (hsecret : session.id.secret = (drawn (some i)).sessionSecret)
    (hquiet : ∀ entry ∈ historyOf (some i) early, ∀ saved,
      entry.op = .sessions (.save saved) → saved.revokedAt.isSome = true) :
    db'.IsAbsent session.id := by
  refine (hrun.honours (honours_changeAndSignIns (· ≠ session.id))
    (fun call db => findsKnown_of_isAbsent call) ?_ ?_).1
  · intro t ht hpromise habsent
    have hothers : SavesOthers session.id t.entry.op := by
      intro saved hsaved hsame
      rcases hpromise saved hsaved with ⟨hlive, hown⟩ | ⟨-, hknown⟩
      · have hthread : t.thread = some i := by
          refine hfresh.distinct ?_
          show (drawn t.thread).sessionSecret = (drawn (some i)).sessionSecret
          rw [← hown, hsame, hsecret]
        have hmine : t.entry ∈ historyOf (some i) early := hthread ▸ Runs.mem_historyOf ht
        have hrevoked := hquiet t.entry hmine saved hsaved
        rw [hlive] at hrevoked
        cases hrevoked
      · exact hknown hsame
    have hafter := Database.keeps_isAbsent t.entry.op hothers habsent
    rwa [hrun.exec_eq ht] at hafter
  · intro row hrow hsame
    exact hfresh.new row hrow (some i) (by rw [hsame, hsecret])

/-- A session is saved live by its own execution only. -/
theorem savesRevoked_of_not_own {i : ι} {session : Session} (hfresh : FreshSecrets drawn db)
    (hrun : Runs database (changeAndSignIns digests hasher settings drawn change requests) db steps
      pool' db')
    (hsecret : session.id.secret = (drawn (some i)).sessionSecret)
    {t : Step (Option ι) Call.Answer Fault Database} (ht : t ∈ steps)
    (hnot : t.thread = some i → opensSession t = false) : SavesRevoked session.id t.entry.op := by
  have hpromise := (hrun.honours (P := fun _ => True)
    (honours_changeAndSignIns fun _ => True)
    (fun call db _ => by
      unfold FindsKnown
      split <;> trivial)
    (fun _ _ _ _ => trivial) trivial).2 t ht
  intro saved hsaved hsame
  rcases hpromise saved hsaved with ⟨hlive, hown⟩ | ⟨hrevoked, -⟩
  · have hthread : t.thread = some i := by
      refine hfresh.distinct ?_
      show (drawn t.thread).sessionSecret = (drawn (some i)).sessionSecret
      rw [← hown, hsame, hsecret]
    have hopens := hnot hthread
    simp [opensSession, hsaved, hlive] at hopens
  · exact hrevoked

/-- What the run records of a sign-in that returned a session: it read the hash of the
session's person, and up to the step that saved the session it saved nothing live. -/
theorem exists_save {i : ι} {session : Session}
    (hrun : Runs database (changeAndSignIns digests hasher settings drawn change requests) db steps
      pool' db')
    (hsession : (pool' (some i)).value? = some session) :
    ∃ credential early t late, steps = early ++ t :: late ∧ t.thread = some i ∧
      t.entry = ⟨.sessions (.save session), .ok ()⟩ ∧ session.revokedAt = none ∧
      session.id = ⟨(requests i).tenant, (drawn (some i)).sessionSecret⟩ ∧
      session.person = credential.person ∧
      (∀ entry ∈ historyOf (some i) early, ∀ saved,
        entry.op = .sessions (.save saved) → saved.revokedAt.isSome = true) ∧
      ∀ u ∈ steps, u.thread = some i → ∀ tenant mail found,
        u.entry = ⟨.credentials (.findByEmail tenant mail), .ok (some found)⟩ →
        tenant = (requests i).tenant ∧ found = credential := by
  have hreturns := hrun.follows (some i)
  rw [value?_eq_some.1 hsession] at hreturns
  obtain ⟨credential, history, hhistory, hid, hlive, hperson, hquiet⟩ := signIn_returns hreturns
  obtain ⟨early, t, late, rfl, hthread, hentry, hearly⟩ := exists_cut hhistory
  refine ⟨credential, early, t, late, rfl, hthread, hentry, hlive, hid, hperson, ?_, ?_⟩
  · intro entry hmem saved hsaved
    rw [hearly] at hmem
    rcases hquiet entry hmem with hentryQuiet | rfl
    · exact hentryQuiet.1 saved hsaved
    · cases hsaved
  · intro u hu huthread tenant mail found huentry
    have hmem : u.entry ∈ historyOf (some i) (early ++ t :: late) :=
      huthread ▸ Runs.mem_historyOf hu
    rw [hhistory] at hmem
    rcases List.mem_append.1 hmem with hbefore | hlast
    · rcases hquiet u.entry hbefore with hentryQuiet | hfind
      · exact absurd (by rw [huentry]) (hentryQuiet.2 tenant mail)
      · rw [huentry] at hfind
        cases hfind
        exact ⟨rfl, rfl⟩
    · rw [List.mem_singleton.1 hlast] at huentry
      cases huentry

/-- The first revocation of the change's person, with what the condition says about the steps
after it. -/
theorem exists_revocation {fresh : Session} {old : PasswordHash}
    (hrun : Runs database (changeAndSignIns digests hasher settings drawn change requests) db steps
      pool' db')
    (hchanged : (pool' none).value? = some fresh)
    (hprecede : oldSessionsPrecede fresh.id.tenant fresh.person old steps = true) :
    ∃ before r after, steps = before ++ r :: after ∧
      revokesAll fresh.id.tenant fresh.person r = true ∧
      ∀ u ∈ after, (steps.any fun t => t.thread = u.thread &&
        readsHash fresh.id.tenant fresh.person old t) = true → opensSession u = false := by
  have hreturns := hrun.follows none
  rw [value?_eq_some.1 hchanged] at hreturns
  obtain ⟨at_, hmem⟩ := replaceBy_returns hreturns
  obtain ⟨revocation, hrevocation, hnone, hentry⟩ := Runs.exists_step hmem
  have hrevokes : revokesAll fresh.id.tenant fresh.person revocation = true := by
    simp [revokesAll, hnone, hentry]
  have hsplit := List.takeWhile_append_dropWhile
    (p := fun t => !revokesAll fresh.id.tenant fresh.person t) (l := steps)
  have hhead := List.head?_dropWhile_not (fun t => !revokesAll fresh.id.tenant fresh.person t) steps
  cases hdrop : steps.dropWhile fun t => !revokesAll fresh.id.tenant fresh.person t with
  | nil =>
    have hnever := List.dropWhile_eq_nil_iff.1 hdrop revocation hrevocation
    rw [hrevokes] at hnever
    cases hnever
  | cons r after =>
    rw [hdrop] at hsplit hhead
    refine ⟨_, r, after, hsplit.symm, by simpa using hhead, fun u hu hread => ?_⟩
    rw [oldSessionsPrecede, hdrop, List.all_eq_true] at hprecede
    have hcondition := hprecede u (List.mem_cons_of_mem _ hu)
    rw [hread] at hcondition
    simpa using hcondition

/-- **The old password's sessions are closed.** A change of a person's password runs among any
number of sign-ins, in any order of their store calls, and has returned. If from its
revocation on no sign-in that read the old hash saves its session, then no session of such a
sign-in is usable, at no moment. -/
theorem old_sessions_are_closed {fresh : Session} {old : PasswordHash}
    (hfresh : FreshSecrets drawn db)
    (hrun : Runs database (changeAndSignIns digests hasher settings drawn change requests) db steps
      pool' db')
    (hchanged : (pool' none).value? = some fresh)
    (hprecede : oldSessionsPrecede fresh.id.tenant fresh.person old steps = true) :
    OldSessionsClosed fresh.id.tenant fresh.person old steps pool' db' := by
  intro i session hsession hread row hrow hid moment
  obtain ⟨reader, hreader, hreaderHash⟩ := List.any_eq_true.1 hread
  simp only [Bool.and_eq_true, decide_eq_true_eq] at hreaderHash
  obtain ⟨mail, hreaderEntry⟩ := readsHash_eq_true hreaderHash.2
  obtain ⟨credential, early, t, late, hcut, hthread, hentry, hlive, hsid, hperson, hquiet, honly⟩ :=
    exists_save hrun hsession
  obtain ⟨htenant, rfl⟩ := honly reader hreader hreaderHash.1 _ _ _ hreaderEntry
  have hsecret : session.id.secret = (drawn (some i)).sessionSecret := by rw [hsid]
  have hopens : opensSession t = true := by simp [opensSession, hentry, hlive]
  obtain ⟨before, r, after, hsplit, hrevokes, hafter⟩ := exists_revocation hrun hchanged hprecede
  -- The session was saved before the revocation, for after it this was excluded.
  have hnotAfter : ∀ u ∈ after, u.thread = some i → opensSession u = false := by
    intro u hu huthread
    refine hafter u hu ?_
    rw [huthread]
    exact hread
  obtain ⟨middle, rfl⟩ : ∃ middle, before = early ++ t :: middle := by
    have htr : t ≠ r := by
      rintro rfl
      rw [(revokesAll_eq_true hrevokes).1] at hthread
      cases hthread
    rcases List.append_eq_append_iff.1 (hcut.symm.trans hsplit) with
      ⟨between, rfl, hlate⟩ | ⟨between, rfl, hlate⟩
    · cases between with
      | nil => exact absurd (List.cons.inj hlate).1 htr
      | cons first middle =>
        obtain ⟨rfl, -⟩ := List.cons.inj hlate
        exact ⟨middle, rfl⟩
    · cases between with
      | nil => exact absurd (List.cons.inj hlate).1.symm htr
      | cons first middle =>
        obtain ⟨-, rfl⟩ := List.cons.inj hlate
        rw [hnotAfter t (by simp) hthread] at hopens
        cases hopens
  subst hsplit
  have ht : t ∈ early ++ t :: middle ++ r :: after := by simp
  have hr : r ∈ early ++ t :: middle ++ r :: after := by simp
  have hparts : Runs database (changeAndSignIns digests hasher settings drawn change requests) db
      (early ++ (t :: middle ++ r :: after)) pool' db' := by simpa using hrun
  obtain ⟨pool₁, db₁, hearly, hlater⟩ := hparts.split
  have habsent : t.before.IsAbsent session.id := by
    rw [hlater.linked.1]
    exact isAbsent_before_save hfresh hearly hsecret hquiet
  have hstored : t.after.HasSession session.id session.person := by
    have hexec := hrun.exec_eq ht
    rw [hentry] at hexec
    exact Database.hasSession_of_save hexec habsent
  have hopen : r.before.HasSession session.id session.person :=
    hrun.keeps_between (fun u hu => hrun.kept_step (Database.keeps_hasSession _ _) (by simp [hu]))
      hstored
  have hclosed : r.after.IsClosed session.id := by
    obtain ⟨-, at_, hrevocation⟩ := revokesAll_eq_true hrevokes
    have hexec := hrun.exec_eq hr
    rw [hrevocation] at hexec
    rw [hperson] at hopen
    exact Database.isClosed_of_revokeAllFor hexec hopen (by rw [hsid, htenant])
  have hend : db'.IsClosed session.id := by
    refine hrun.keeps_after (fun u hu h => ?_) hclosed
    have humem : u ∈ early ++ t :: middle ++ r :: after := by simp [hu]
    have hsaves := savesRevoked_of_not_own hfresh hrun hsecret humem (hnotAfter u hu)
    have hkept := Database.keeps_isClosed u.entry.op hsaves h
    rwa [hrun.exec_eq humem] at hkept
  exact Database.not_isUsableAt_of_isClosed hend hrow hid moment

end Closing

/-! ### A sign-in that is late -/

/-- The mail of the owner. -/
def ownerMail : Email := mailOf (ascii "a@b.c")

/-- Where the owner is seen. -/
def ownerSeen : Fingerprint := ⟨standInDigest [], standInDigest []⟩

/-- The hash of the old password. -/
def oldHash : PasswordHash := standInHash plainPassword

/-- A person with a password and the session from which he changes it. -/
def ownerKnown : Database where
  people := ⟨[⟨repeated 7, repeated 1, ascii "owner", some ownerMail, ⟨ascii "UTC"⟩, none⟩],
    by decide, by decide⟩
  credentials := ⟨[⟨repeated 7, repeated 1, oldHash⟩], by decide, by decide⟩
  sessions := ⟨[⟨⟨repeated 7, repeated 50⟩, repeated 1, 0, 1000, none, ownerSeen⟩], by decide,
    by decide⟩

/-- The owner changes his password. -/
def ownerChanges : PasswordChange :=
  .change ⟨⟨repeated 7, repeated 50⟩, ascii "password", ascii "new password", ownerSeen⟩

/-- Somebody who knows the old password signs in. -/
def oldPasswordShown : SignInRequest :=
  ⟨repeated 7, ownerMail, ascii "password", ownerSeen, none⟩

/-- What is drawn for each of the two. -/
def ownerDrawn : Option Unit → Drawn
  | none => drawnAt 20 2
  | some _ => drawnAt 10 3

/-- The change and the sign-in. -/
def ownerPool : Option Unit → Scenario Session :=
  changeAndSignIns standInDigest standInHasher (fun _ => standIn.settings) ownerDrawn ownerChanges
    fun _ => oldPasswordShown

/-- The change and the sign-in in the order of `picks`. -/
def ownerPlay (picks : List (Option Unit)) :
    List (Step (Option Unit) Call.Answer Fault Database) × (Option Unit → Scenario Session) ×
      Database :=
  play database picks ownerPool ownerKnown

theorem ownerDrawn_fresh : FreshSecrets ownerDrawn ownerKnown where
  distinct := by
    intro a b hsame
    rcases a with _ | ⟨⟨⟩⟩ <;> rcases b with _ | ⟨⟨⟩⟩
    · rfl
    · exact absurd hsame (by decide)
    · exact absurd hsame (by decide)
    · rfl
  new := by
    intro row hrow thread
    obtain rfl := List.mem_singleton.1 hrow
    rcases thread with _ | ⟨⟨⟩⟩ <;> decide

/-- The session the change opens. -/
def changedSession : Session :=
  ⟨⟨repeated 7, repeated 2⟩, repeated 1, 20, 86400000020, none, ownerSeen⟩

/-- The session the sign-in opens. -/
def oldPasswordSession : Session :=
  ⟨⟨repeated 7, repeated 3⟩, repeated 1, 10, 86400000010, none, ownerSeen⟩

/-- One after the other: the change closes the session of the sign-in. -/
theorem sign_in_before_the_change_is_closed :
    let played := ownerPlay (List.replicate 6 (some ()) ++ List.replicate 5 none)
    OldSessionsClosed (repeated 7) (repeated 1) oldHash played.1 played.2.1 played.2.2 := by
  intro played
  have hchanged : (played.2.1 none).value? = some changedSession := by decide +kernel
  exact old_sessions_are_closed ownerDrawn_fresh (play_runs database _ ownerPool ownerKnown)
    hchanged (by decide +kernel)

/-- The sign-in reads the hash, the whole change runs, and the sign-in saves its session: both
have finished, and the session opened by the old password is usable. -/
theorem late_sign_in_keeps_its_session :
    ∃ steps pool' db', Runs database ownerPool ownerKnown steps pool' db' ∧
      (pool' none).value? = some changedSession ∧
      (pool' (some ())).value? = some oldPasswordSession ∧
      ¬ OldSessionsClosed (repeated 7) (repeated 1) oldHash steps pool' db' := by
  have hsession : ((ownerPlay (List.replicate 5 (some ()) ++ List.replicate 5 none ++
      [some ()])).2.1 (some ())).value? = some oldPasswordSession := by decide +kernel
  refine ⟨_, _, _, play_runs database (List.replicate 5 (some ()) ++ List.replicate 5 none ++
    [some ()]) ownerPool ownerKnown, by decide +kernel, hsession, fun hclosed => ?_⟩
  have hunusable := hclosed () oldPasswordSession hsession (by decide +kernel) oldPasswordSession
    (by decide +kernel) rfl 100
  cases hunusable

end Pdr.Identity
