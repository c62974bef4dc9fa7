import Pdr.Identity.Application.Orders

/-!
# What a scenario has done when it returns

A scenario that returned has made its calls one after another, and each of them succeeded.
One lemma for each scenario names the calls that matter and the states between them, so that
a law about runs need not follow a scenario's text.

## Main results

* `Pdr.Identity.openSession_returned`, `Pdr.Identity.replacePassword_returned`
* `Pdr.Identity.resetPassword_returned`, `Pdr.Identity.changePassword_returned`
* `Pdr.Identity.accountOf_returned`, `Pdr.Identity.acceptInvitation_returned`
-/

namespace Pdr.Identity

open StoreProgram Program

variable {ports : AuthPorts} {drawn : Drawn} {lifetimes : AuthLifetimes} {tenant : TenantId}
  {person : PersonId} {now : Int} {seen : Fingerprint} {session : Session} {db db' : Database}

/-- The session that a scenario opens at its end. -/
def openedSession (lifetimes : AuthLifetimes) (drawn : Drawn) (tenant : TenantId)
    (person : PersonId) (now : Int) (seen : Fingerprint) : Session :=
  ⟨⟨tenant, drawn.sessionSecret⟩, person, now, now + lifetimes.session, none, seen⟩

theorem openSession_returned
    (h : (openSession lifetimes drawn tenant person now seen).run database db =
      (.ok session, db')) :
    session = openedSession lifetimes drawn tenant person now seen ∧
      database.exec (.sessions (.save session)) db = (.ok (), db') := by
  simp only [openSession, Session.open_of_pos lifetimes.positive.1, run_ofExcept_bind_eq_ok,
    run_perform_bind_eq_ok, Result.orRefuse_eq_ok, pure_eq_done, run_done, Prod.mk.injEq,
    Except.ok.injEq] at h
  obtain ⟨opened, rfl, ⟨⟩, between, hsave, rfl, rfl⟩ := h
  exact ⟨rfl, hsave⟩

/-- A password was replaced: the hash was saved, the sessions that were there were revoked,
and a new one was saved. -/
structure PasswordReplaced (tenant : TenantId) (person : PersonId) (now : Int) (db : Database)
    (session : Session) (db' : Database) : Prop where
  session_eq : session.id.tenant = tenant ∧ session.person = person ∧ session.createdAt = now ∧
    session.revokedAt = none ∧ now < session.expiresAt
  calls : ∃ hash db₁ db₂,
    database.exec (.credentials (.save tenant person hash)) db = (.ok (), db₁) ∧
    database.exec (.sessions (.revokeAllFor tenant person now)) db₁ = (.ok (), db₂) ∧
    database.exec (.sessions (.save session)) db₂ = (.ok (), db')

theorem PasswordReplaced.tokens_eq (h : PasswordReplaced tenant person now db session db') :
    db'.tokens = db.tokens := by
  obtain ⟨hash, db₁, db₂, hcredential, hrevoke, hsave⟩ := h.calls
  have h₁ : db₁.tokens = db.tokens := (congrArg (fun done => done.2.tokens) hcredential).symm
  have h₂ : db₂.tokens = db₁.tokens := (congrArg (fun done => done.2.tokens) hrevoke).symm
  have h₃ : db'.tokens = db₂.tokens := (congrArg (fun done => done.2.tokens) hsave).symm
  rw [h₃, h₂, h₁]

theorem replacePassword_returned {hash : PasswordHash}
    (h : (replacePassword lifetimes drawn tenant person hash now seen).run database db =
      (.ok session, db')) :
    PasswordReplaced tenant person now db session db' ∧
      session.id.secret = drawn.sessionSecret := by
  simp only [replacePassword, run_perform_bind_eq_ok] at h
  obtain ⟨⟨⟩, db₁, hcredential, ⟨⟩, db₂, hrevoke, hopen⟩ := h
  obtain ⟨rfl, hsave⟩ := openSession_returned hopen
  refine ⟨⟨⟨rfl, rfl, rfl, rfl, ?_⟩, hash, db₁, db₂, hcredential, hrevoke, hsave⟩, rfl⟩
  have hpositive := lifetimes.positive.1
  show now < now + lifetimes.session
  omega

/-- A reset that returned found its token usable, marked it used and replaced the password of
the token's person. -/
theorem resetPassword_returned {request : ResetPasswordRequest}
    (h : (resetPassword ports drawn request).run database db = (.ok session, db')) :
    ∃ found db₁, database.exec (.tokens (.find request.tenant
        (ports.digests request.secret.value))) db = (.ok (some found), db) ∧
      found.purpose = .passwordReset ∧ found.isUsableAt (drawn.clock 0) = true ∧
      database.exec (.tokens (.markUsed { found with usedAt := some (drawn.clock 0) })) db =
        (.ok (), db₁) ∧
      PasswordReplaced request.tenant session.person (drawn.clock 0) db₁ session db' ∧
      found.person = some session.person ∧ session.id.secret = drawn.sessionSecret := by
  simp only [resetPassword, run_ofExcept_bind_eq_ok, run_perform_bind_eq_ok] at h
  obtain ⟨rules, -, lifetimes, -, found, db₁, hfind, hfollow⟩ := h
  obtain rfl : db = db₁ := congrArg Prod.snd hfind
  cases found with
  | none => cases hfollow
  | some found =>
    dsimp only at hfollow
    split at hfollow
    · rename_i hreset
      simp only [followReset, run_ofExcept_bind_eq_ok, Result.orRefuse_eq_ok] at hfollow
      obtain ⟨used, hused, chosen, -, hash, -, hrest⟩ := hfollow
      obtain ⟨husable, rfl⟩ := OneTimeToken.used_eq_ok.1 hused
      obtain ⟨⟨⟩, db₂, hmark, hreplace⟩ := (run_perform_bind_eq_ok database).1 hrest
      obtain ⟨hreplaced, hsecret⟩ := replacePassword_returned hreplace
      have hperson : session.person = found.resetFor hreset := hreplaced.session_eq.2.1
      refine ⟨found, db₂, hfind, hreset, husable, hmark, hperson ▸ hreplaced, ?_, hsecret⟩
      rw [hperson, OneTimeToken.resetFor, Option.some_get]
    · cases hfollow

/-- The account of a mail is the one that is there, or one made and saved now. -/
theorem accountOf_returned {mail : Digest} {account : Account}
    (h : (accountOf drawn mail now).run database db = (.ok account, db')) :
    (db.accounts.find? (·.mail = mail) = some account ∧ db' = db) ∨
      (db.accounts.find? (·.mail = mail) = none ∧
        account = Account.invited drawn.personId mail now ∧
        database.exec (.accounts (.save account)) db = (.ok (), db')) := by
  simp only [accountOf, run_perform_bind_eq_ok] at h
  obtain ⟨found, db₁, hfind, hmade⟩ := h
  obtain rfl : db = db₁ := congrArg Prod.snd hfind
  have hfound : db.accounts.find? (·.mail = mail) = found := Except.ok.inj (congrArg Prod.fst hfind)
  cases found with
  | some found =>
    cases hmade
    exact Or.inl ⟨hfound, rfl⟩
  | none =>
    obtain ⟨⟨⟩, db₂, hsave, hreturned⟩ := (run_perform_bind_eq_ok database).1 hmade
    cases hreturned
    exact Or.inr ⟨hfound, rfl, hsave⟩

/-- An acceptance that returned found its invitation and the account of the mail given, or made
one; the registry is not touched after that. -/
theorem acceptInvitation_returned {request : AcceptInvitationRequest}
    (h : (acceptInvitation ports drawn request).run database db = (.ok session, db')) :
    ∃ found account db₁, database.exec (.tokens (.find request.tenant
        (ports.digests request.secret.value))) db = (.ok (some found), db) ∧
      found.purpose = .invitation ∧ found.isUsableAt (drawn.clock 0) = true ∧
      (accountOf drawn (ports.digests request.mail.value) (drawn.clock 0)).run database db =
        (.ok account, db₁) ∧
      db'.accounts = db₁.accounts ∧ session.person = account.id := by
  simp only [acceptInvitation, run_ofExcept_bind_eq_ok, run_perform_bind_eq_ok] at h
  obtain ⟨rules, -, lifetimes, -, found, db₁, hfind, hfollow⟩ := h
  obtain rfl : db = db₁ := congrArg Prod.snd hfind
  cases found with
  | none => cases hfollow
  | some found =>
    dsimp only at hfollow
    split at hfollow
    · rename_i hinvitation
      simp only [followInvitation, run_ofExcept_bind_eq_ok, Result.orRefuse_eq_ok] at hfollow
      obtain ⟨used, hused, chosen, -, hash, -, hrest⟩ := hfollow
      obtain ⟨husable, -⟩ := OneTimeToken.used_eq_ok.1 hused
      obtain ⟨account, db₂, haccount, hafter⟩ := run_bind_eq_ok database hrest
      simp only [run_ofExcept_bind_eq_ok, run_perform_bind_eq_ok] at hafter
      obtain ⟨enrolled, db₃, henrol, ⟨⟩, -, ⟨⟩, db₄, hmark, ⟨⟩, db₅, hcredential, hopen⟩ := hafter
      obtain ⟨rfl, hsave⟩ := openSession_returned hopen
      refine ⟨found, account, db₂, hfind, hinvitation, husable, haccount, ?_, rfl⟩
      have h₃ : db₃.accounts = db₂.accounts := (congrArg (fun done => done.2.accounts) henrol).symm
      have h₄ : db₄.accounts = db₃.accounts := (congrArg (fun done => done.2.accounts) hmark).symm
      have h₅ : db₅.accounts = db₄.accounts :=
        (congrArg (fun done => done.2.accounts) hcredential).symm
      have h₆ : db'.accounts = db₅.accounts := (congrArg (fun done => done.2.accounts) hsave).symm
      rw [h₆, h₅, h₄, h₃]
    · cases hfollow

/-- A session that was shown and taken is stored and usable; nothing is changed. -/
theorem authenticateSession_returned {id : SessionId}
    (h : (authenticateSession now id).run database db = (.ok session, db')) :
    database.exec (.sessions (.find id)) db = (.ok (some session), db) ∧
      session.isUsableAt now = true ∧ db' = db := by
  simp only [authenticateSession, run_perform_bind_eq_ok] at h
  obtain ⟨found, db₁, hfind, hshown⟩ := h
  obtain rfl : db = db₁ := congrArg Prod.snd hfind
  cases found with
  | none => cases hshown
  | some found =>
    dsimp only at hshown
    split at hshown
    · cases hshown
    · split at hshown
      · cases hshown
      · rename_i husable
        cases hshown
        exact ⟨hfind, by simpa using husable, rfl⟩

/-- The old password is looked at and nothing is changed. -/
theorem checkOldPassword_returned {hasher : PasswordHasher} {oldSecret : Text} {done : Unit}
    (h : (checkOldPassword hasher tenant person oldSecret).run database db = (.ok done, db')) :
    db' = db := by
  simp only [checkOldPassword, run_perform_bind_eq_ok] at h
  obtain ⟨stored, db₁, hfind, hshown⟩ := h
  obtain rfl : db = db₁ := congrArg Prod.snd hfind
  cases stored with
  | none => cases hshown
  | some stored =>
    simp only [run_ofExcept_bind_eq_ok] at hshown
    obtain ⟨given, -, hfits⟩ := hshown
    split at hfits
    · cases hfits
      rfl
    · cases hfits

/-- The old password that was taken fits the stored hash. -/
theorem checkOldPassword_fits {hasher : PasswordHasher} {oldSecret : Text} {done : Unit}
    (h : (checkOldPassword hasher tenant person oldSecret).run database db = (.ok done, db')) :
    ∃ stored given,
      (database.exec (.credentials (.findFor tenant person)) db).1 = .ok (some stored) ∧
      Password.given oldSecret = .ok given ∧ hasher.matchesHash given stored = true := by
  simp only [checkOldPassword, run_perform_bind_eq_ok] at h
  obtain ⟨stored, db₁, hfind, hshown⟩ := h
  cases stored with
  | none => cases hshown
  | some stored =>
    simp only [run_ofExcept_bind_eq_ok, Result.orRefuse_eq_ok] at hshown
    obtain ⟨given, hgiven, hfits⟩ := hshown
    split at hfits
    · rename_i hmatches
      exact ⟨stored, given, congrArg Prod.fst hfind, hgiven, hmatches⟩
    · cases hfits

/-- A change that returned was made from a usable session, and replaced the password of its
person. -/
theorem changePassword_returned {request : ChangePasswordRequest}
    (h : (changePassword ports drawn request).run database db = (.ok session, db')) :
    ∃ current, database.exec (.sessions (.find request.current)) db = (.ok (some current), db) ∧
      current.isUsableAt (drawn.clock 0) = true ∧
      PasswordReplaced current.id.tenant current.person (drawn.clock 1) db session db' ∧
      session.id.secret = drawn.sessionSecret := by
  simp only [changePassword, run_ofExcept_bind_eq_ok] at h
  obtain ⟨rules, -, lifetimes, -, hrest⟩ := h
  obtain ⟨current, db₁, hcurrent, hrest⟩ := run_bind_eq_ok database hrest
  obtain ⟨⟨⟩, db₂, hcheck, hrest⟩ := run_bind_eq_ok database hrest
  simp only [run_ofExcept_bind_eq_ok] at hrest
  obtain ⟨chosen, -, hash, -, hreplace⟩ := hrest
  obtain ⟨hfind, husable, rfl⟩ := authenticateSession_returned hcurrent
  obtain rfl := checkOldPassword_returned hcheck
  obtain ⟨hreplaced, hsecret⟩ := replacePassword_returned hreplace
  exact ⟨current, hfind, husable, hreplaced, hsecret⟩

end Pdr.Identity
