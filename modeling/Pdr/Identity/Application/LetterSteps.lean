import Pdr.Identity.Application.ClockSteps
import Pdr.Identity.Application.InviteMany
import Pdr.Identity.Store.LetterTable

/-!
# What the scenarios of letters do to the tokens

A scenario that sends letters issues a token for each of them, or for some of them if it is
refused on the way, and asks before each invitation to a mail whether one is usable. A scenario
that follows a link marks one token, and everything that may go wrong goes wrong before that.

## Main definitions

* `Pdr.Identity.SendsOnly`: letters are sent and no session moves.
* `Pdr.Identity.FollowedLink`, `Pdr.Identity.FollowEnds`: how a call that follows a link ends.

## Main results

* `Pdr.Identity.sends_inviteParticipant`, `Pdr.Identity.sends_inviteMany`,
  `Pdr.Identity.sends_attachAccount`, `Pdr.Identity.sends_requestPasswordReset`
* `Pdr.Identity.follow_acceptInvitation`, `Pdr.Identity.follow_resetPassword`
-/

namespace Pdr.Identity

open StoreProgram Program

/-! ### Scenarios that send letters -/

/-- Letters with these secrets are sent, or some of them, and no session moves. -/
structure SendsOnly (digests : Digests) (texts : List Text) (db db' : Database) : Prop where
  tokens : SendsLetters digests texts db.tokens db'.tokens
  sessions : db'.sessions = db.sessions

theorem SendsOnly.nothing (digests : Digests) (texts : List Text) (db : Database) :
    SendsOnly digests texts db db :=
  ⟨.nothing texts db.tokens, rfl⟩

theorem SendsOnly.append {digests : Digests} {texts later : List Text} {db between db' : Database}
    (h : SendsOnly digests texts db between) (hlater : SendsOnly digests later between db') :
    SendsOnly digests (texts ++ later) db db' :=
  ⟨h.tokens.append hlater.tokens, hlater.sessions.trans h.sessions⟩

theorem TokenSecret.value_of_parse {text : Text} {secret : TokenSecret}
    (h : TokenSecret.parse text = .ok secret) : secret.value = text := by
  unfold TokenSecret.parse at h
  split at h
  · split at h
    · cases h
      rfl
    · cases h
  · cases h

theorem tokens_and_sessions_belong :
    BelongsTo (fun db => (db.tokens, db.sessions)) [.tokens, .sessions] := by
  intro call hcall db
  cases call with
  | tokens call => exact absurd (by simp [Call.port]) hcall
  | sessions call => exact absurd (by simp [Call.port]) hcall
  | _ => rfl

theorem leaves_letters {α : Type} {part : Scenario α} {used : List Port} {db : Database}
    (hpart : part.Only (Call.IsTo used)) (hapart : ∀ port ∈ [Port.tokens, .sessions], port ∉ used) :
    part.Yields database
      (fun _ db' => db'.tokens = db.tokens ∧ db'.sessions = db.sessions) db :=
  Prod.mk.inj (tokens_and_sessions_belong.yields hpart hapart db)

section Sending

variable {ports : AuthPorts} {drawn : Drawn} {tenant : TenantId} {db : Database}

/-- A new token is issued, or the table cannot take it. -/
theorem sendsOnly_issue {text : Text} {token : OneTimeToken}
    (hnew : IsNewLetter ports.digests text db.tokens token) :
    SendsOnly ports.digests [text] db (database.exec (.tokens (.issue token)) db).2 := by
  refine ⟨?_, rfl⟩
  show SendsLetters _ _ db.tokens (TokenCall.exec (.issue token) db.tokens).2
  rw [TokenCall.exec, commit_snd]
  cases hissued : db.tokens.insert token with
  | none => exact .nothing [text] db.tokens
  | some table => exact .send hnew hissued (.nothing [] table)

theorem sends_issue {α : Type} {token : OneTimeToken} {value : α}
    (hnew : IsNewLetter ports.digests drawn.tokenText db.tokens token) :
    (do ask (.tokens (.issue token)); return value : Scenario α).Yields database
      (fun _ db' => SendsOnly ports.digests [drawn.tokenText] db db') db := by
  have hsent := sendsOnly_issue hnew
  refine yields_perform_bind (fun error db' hissue => ?_) fun _ db' hissue => ?_
  · rwa [hissue] at hsent
  · rwa [hissue] at hsent

/-- Nothing is changed by asking, and where nobody is refused no invitation is usable. -/
theorem yields_refuseIfInvited {mail : Digest} {now : Int} :
    (refuseIfInvited tenant mail now).Yields database (fun answer db' => db' = db ∧
      (answer = .ok () → ∀ row ∈ db.tokens.rows, row.Invites tenant mail →
        row.isUsableAt now = false)) db := by
  refine yields_perform_bind (fun _ _ hasked => by cases hasked) fun live db₁ hasked => ?_
  obtain rfl : db = db₁ := congrArg Prod.snd hasked
  cases live with
  | some found => exact ⟨rfl, fun hok => by cases hok⟩
  | none =>
    refine ⟨rfl, fun _ row hrow hinvites => Bool.eq_false_iff.2 fun husable => ?_⟩
    have hnone : db.tokens.find? _ = none := Except.ok.inj (congrArg Prod.fst hasked)
    obtain ⟨htenant, hpurpose, hinvited⟩ := hinvites
    obtain ⟨hunused, hterm⟩ := OneTimeToken.isUsableAt_eq_true.1 husable
    refine List.find?_eq_none.1 hnone row hrow ?_
    simp [htenant, hpurpose, hinvited, hunused, hterm]

variable (ports)

/-- A letter is sent to nobody, or to somebody who has no usable invitation. -/
theorem sends_inviteParticipant {role : Role} {addressee : Option Email}
    (hclock : drawn.clock 0 ≤ drawn.clock 1) :
    (inviteParticipant ports drawn tenant role addressee).Yields database
      (fun _ db' => SendsOnly ports.digests [drawn.tokenText] db db') db := by
  refine yields_ofExcept_bind (fun _ _ => .nothing ..) fun lifetimes _ => ?_
  have hissue : ∀ invited : Option Digest,
      (∀ mail, invited = some mail → ∀ row ∈ db.tokens.rows, row.Invites tenant mail →
        ∀ moment, drawn.clock 1 ≤ moment → row.isUsableAt moment = false) →
      Yields database (fun _ db' => SendsOnly ports.digests [drawn.tokenText] db db') (do
        let secret ← accept (TokenSecret.parse drawn.tokenText)
        let token ← accept (OneTimeToken.invitation drawn.tokenId tenant
          (ports.digests secret.value) role invited (drawn.clock 1) lifetimes.invitation)
        ask (.tokens (.issue token))
        return (⟨token, secret⟩ : IssuedLink)) db := by
    intro invited halone
    refine yields_ofExcept_bind (fun _ _ => .nothing ..) fun secret hsecret => ?_
    refine yields_ofExcept_bind (fun _ _ => .nothing ..) fun token htoken => ?_
    rw [Result.orRefuse_eq_ok] at hsecret htoken
    obtain ⟨-, rfl⟩ := OneTimeToken.invitation_eq_ok.1 htoken
    refine sends_issue ⟨by rw [TokenSecret.value_of_parse hsecret], ?_⟩
    rintro _ mail ⟨rfl, -, hinvited⟩ row hrow hinvites moment hsent
    exact halone mail hinvited row hrow hinvites moment hsent
  cases addressee with
  | none => exact hissue none fun mail hmail => by cases hmail
  | some address =>
    refine Yields.bind (fun error db₁ hrefused => ?_) fun _ db₁ hasked => ?_
    · have hsame := (yields_refuseIfInvited.of_run hrefused).1
      exact hsame ▸ .nothing ..
    · obtain ⟨rfl, hnone⟩ := yields_refuseIfInvited.of_run hasked
      refine hissue _ fun mail hmail row hrow hinvites moment hsent => ?_
      obtain rfl : ports.digests address.value = mail := Option.some.inj hmail
      -- What is usable when the letter is sent was usable when it was asked about.
      refine Bool.eq_false_iff.2 fun husable => ?_
      have hearlier := OneTimeToken.isUsableAt_of_le (Int.le_trans hclock hsent) husable
      rw [hnone rfl row hrow hinvites] at hearlier
      cases hearlier

/-- The child gets the mail, and a letter is sent to it. -/
theorem sends_attachAccount {child : PersonId} {mail : Email}
    (hclock : drawn.clock 1 ≤ drawn.clock 2) :
    (attachAccount ports drawn tenant child mail).Yields database
      (fun _ db' => SendsOnly ports.digests [drawn.tokenText] db db') db := by
  have hclaim : (claimMail drawn child (ports.digests mail.value)).Yields database
      (fun _ db' => SendsOnly ports.digests [] db db') db := by
    have hleft : (claimMail drawn child (ports.digests mail.value)).Yields database
        (fun _ db' => db'.tokens = db.tokens ∧ db'.sessions = db.sessions) db :=
      leaves_letters (footprint_claimMail ..) (by decide)
    exact ⟨by rw [hleft.1]; exact .nothing [] db.tokens, hleft.2⟩
  refine Yields.bind (fun error db₁ hrefused => ?_) fun _ db₁ hclaimed => ?_
  · exact (hclaim.of_run hrefused).append (.nothing _ [drawn.tokenText] db₁)
  · have hsent : (inviteParticipant ports (drawn.later 1) tenant .student (some mail)).Yields
        database (fun _ db' => SendsOnly ports.digests [(drawn.later 1).tokenText] db₁ db') db₁ :=
      sends_inviteParticipant ports hclock
    exact (hclaim.of_run hclaimed).append hsent

/-- A letter to reset a password is sent, or nothing is done. -/
theorem sends_requestPasswordReset {mail : Email} :
    (requestPasswordReset ports drawn tenant mail).Yields database
      (fun _ db' => SendsOnly ports.digests [drawn.tokenText] db db') db := by
  refine yields_ofExcept_bind (fun _ _ => .nothing ..) fun lifetimes _ => ?_
  refine yields_perform_bind (fun _ _ hfind => by cases hfind) fun found db₁ hfind => ?_
  obtain rfl : db = db₁ := congrArg Prod.snd hfind
  cases found with
  | none => exact SendsOnly.nothing ..
  | some found =>
    refine yields_ofExcept_bind (fun _ _ => .nothing ..) fun secret hsecret => ?_
    refine yields_ofExcept_bind (fun _ _ => .nothing ..) fun token htoken => ?_
    rw [Result.orRefuse_eq_ok] at hsecret htoken
    obtain ⟨-, rfl⟩ := OneTimeToken.passwordResetOf_eq_ok.1 htoken
    refine sends_issue ⟨by rw [TokenSecret.value_of_parse hsecret], ?_⟩
    rintro _ _ ⟨-, hpurpose, -⟩
    cases hpurpose

/-- Of a list each line is a letter of its own, up to the first refusal. -/
theorem sends_sendAll {role : Role} (lines : List (Contact × Drawn))
    (hclock : ∀ line ∈ lines, line.2.clock 0 ≤ line.2.clock 1) (db : Database) :
    (sendAll ports tenant role lines).Yields database
      (fun _ db' => SendsOnly ports.digests (lines.map (·.2.tokenText)) db db') db := by
  induction lines generalizing db with
  | nil => exact SendsOnly.nothing ..
  | cons pair lines ih =>
    obtain ⟨line, drawn⟩ := pair
    have hlater := ih fun later hlater => hclock later (List.mem_cons_of_mem _ hlater)
    rw [sendAll]
    cases line.invites with
    | none => exact (SendsOnly.nothing _ [drawn.tokenText] db).append (hlater db)
    | some mail =>
      have hsent : (inviteParticipant ports drawn tenant role (some mail)).Yields database
          (fun _ db' => SendsOnly ports.digests [drawn.tokenText] db db') db :=
        sends_inviteParticipant ports (hclock (line, drawn) List.mem_cons_self)
      refine Yields.bind (fun error db₁ hrefused => ?_) fun issued db₁ hissued => ?_
      · exact (hsent.of_run hrefused).append (.nothing _ (lines.map (·.2.tokenText)) db₁)
      refine Yields.bind (fun error db₂ hrefused => ?_) fun sent db₂ hrest => ?_
      · exact (hsent.of_run hissued).append ((hlater db₁).of_run hrefused)
      · exact (hsent.of_run hissued).append ((hlater db₁).of_run hrest)

/-- The list is judged and then sent. -/
theorem sends_inviteMany {role : Role} {lines : List (Contact × Drawn)}
    (hclock : ∀ line ∈ lines, line.2.clock 0 ≤ line.2.clock 1) :
    (inviteMany ports drawn tenant role lines).Yields database
      (fun _ db' => SendsOnly ports.digests (lines.map (·.2.tokenText)) db db') db := by
  have hjudge : (judge ports tenant (drawn.clock 0) lines).Yields database _ db :=
    yields_judge lines
  refine Yields.bind (fun error db₁ hfailed => ?_) fun judged db₁ hjudged => ?_
  · obtain ⟨rfl, -⟩ := hjudge.of_run hfailed
    exact .nothing ..
  · obtain ⟨rfl, hsame⟩ := hjudge.of_run hjudged
    have hdraws := hsame judged rfl
    have hclock' : ∀ line ∈ judged, line.2.clock 0 ≤ line.2.clock 1 := by
      intro line hline
      have hmem : line.2 ∈ lines.map (·.2) := hdraws ▸ List.mem_map_of_mem hline
      obtain ⟨given, hgiven, hdraw⟩ := List.mem_map.1 hmem
      exact hdraw ▸ hclock given hgiven
    have htexts : judged.map (·.2.tokenText) = lines.map (·.2.tokenText) := by
      have hmapped := congrArg (List.map Drawn.tokenText) hdraws
      rwa [List.map_map, List.map_map] at hmapped
    have hsend : (sendAll ports tenant role judged).Yields database
        (fun _ db' => SendsOnly ports.digests (judged.map (·.2.tokenText)) db₁ db') db₁ :=
      sends_sendAll ports judged hclock' db₁
    rw [htexts] at hsend
    refine Yields.bind (fun error db₂ hrefused => ?_) fun sent db₂ hsent => ?_
    · exact hsend.of_run hrefused
    · exact hsend.of_run hsent

end Sending

/-! ### Scenarios that follow links -/

/-- A link as a call follows it: in this tenant, for this purpose, with this fingerprint, at this
moment. -/
structure FollowedLink where
  tenant : TenantId
  purpose : TokenPurpose
  secret : Digest
  moment : Int
deriving DecidableEq

/-- Every session that is there began at the moment or was there. -/
def OpenedAt (now : Int) (db db' : Database) : Prop :=
  ∀ row ∈ db'.sessions.rows, row.createdAt = now ∨
    ∃ old ∈ db.sessions.rows, row.createdAt = old.createdAt

/-- How a call that follows a link ends: it fails and leaves the tokens and the sessions, or the
link was usable, in its tenant and for its purpose, and is spent. -/
inductive FollowEnds {α : Type} (link : FollowedLink) (db : Database) :
    Except Fault α → Database → Prop
  | failed {fault : Fault} {db' : Database} (tokens : db'.tokens = db.tokens)
      (sessions : db'.sessions = db.sessions) : FollowEnds link db (.error fault) db'
  | worked {value : α} {found : OneTimeToken} {db' : Database}
      (tenant : found.tenant = link.tenant) (purpose : found.purpose = link.purpose)
      (secret : found.secret = link.secret)
      (spent : SpendsLetter found link.moment db.tokens db'.tokens)
      (opened : OpenedAt link.moment db db') : FollowEnds link db (.ok value) db'

section Following

variable {ports : AuthPorts} {drawn : Drawn} {tenant : TenantId} {person : PersonId} {now : Int}
  {seen : Fingerprint} {db : Database}

/-- A session that is saved leaves the moments of the others. -/
theorem openedAt_save {session : Session} (hnow : session.createdAt = now) :
    OpenedAt now db (database.exec (.sessions (.save session)) db).2 := by
  intro row hrow
  have hrow' : row ∈ (SessionCall.exec (.save session) db.sessions).2.rows := hrow
  rw [SessionCall.exec, commit_snd] at hrow'
  cases hsaved : db.sessions.upsert (·.id = session.id)
      (fun row => { row with revokedAt := session.revokedAt }) session with
  | none =>
    rw [hsaved] at hrow'
    exact Or.inr ⟨row, hrow', rfl⟩
  | some table =>
    rw [hsaved] at hrow'
    rcases Table.upsert_cases hsaved with ⟨-, hupdate⟩ | ⟨-, hinsert⟩
    · obtain ⟨old, hold, rfl⟩ := (Table.mem_updateWhere hupdate row).1 hrow'
      refine Or.inr ⟨old, hold, ?_⟩
      split <;> rfl
    · rcases (Table.mem_insert hinsert row).1 hrow' with hold | rfl
      · exact Or.inr ⟨row, hold, rfl⟩
      · exact Or.inl hnow

/-- Sessions that are closed began when they began. -/
theorem openedAt_revokeAllFor :
    OpenedAt now db (database.exec (.sessions (.revokeAllFor tenant person now)) db).2 := by
  intro row hrow
  have hrow' : row ∈ (SessionCall.exec (.revokeAllFor tenant person now) db.sessions).2.rows := hrow
  rw [SessionCall.exec, commit_snd] at hrow'
  cases hclosed : db.sessions.updateWhere
      (fun row => row.id.tenant = tenant && row.person = person && row.revokedAt.isNone)
      (fun row => { row with revokedAt := some now }) with
  | none =>
    rw [hclosed] at hrow'
    exact Or.inr ⟨row, hrow', rfl⟩
  | some table =>
    rw [hclosed] at hrow'
    obtain ⟨old, hold, rfl⟩ := (Table.mem_updateWhere hclosed row).1 hrow'
    refine Or.inr ⟨old, hold, ?_⟩
    split <;> rfl

theorem OpenedAt.of_eq {db' : Database} (h : db'.sessions = db.sessions) : OpenedAt now db db' :=
  fun row hrow => Or.inr ⟨row, h ▸ hrow, rfl⟩

theorem OpenedAt.trans {between db' : Database} (h : OpenedAt now db between)
    (hlater : OpenedAt now between db') : OpenedAt now db db' := by
  intro row hrow
  rcases hlater row hrow with hnow | ⟨old, hold, hsame⟩
  · exact Or.inl hnow
  · rw [hsame]
    exact h old hold

/-- The call leaves the tokens, and a session it opens begins at the moment. -/
def OpensAt (now : Int) (call : Call) : Prop :=
  ∀ db, (database.exec call db).2.tokens = db.tokens ∧ OpenedAt now db (database.exec call db).2

theorem opensAt_openSession (lifetimes : AuthLifetimes) :
    (openSession lifetimes drawn tenant person now seen).Only (OpensAt now) := by
  simp only [openSession, Session.open_of_pos lifetimes.positive.1, accept_ok, done_bind]
  exact honours_perform_bind (fun _ => ⟨rfl, openedAt_save rfl⟩) fun _ _ => trivial

theorem opensAt_credentials (call : CredentialCall) : OpensAt now (.credentials call) :=
  fun _ => ⟨rfl, .of_eq rfl⟩

theorem opensAt_replacePassword (lifetimes : AuthLifetimes) (hash : PasswordHash) :
    (replacePassword lifetimes drawn tenant person hash now seen).Only (OpensAt now) := by
  refine honours_perform_bind (opensAt_credentials _) fun _ _ => ?_
  refine honours_perform_bind (fun _ => ⟨rfl, openedAt_revokeAllFor⟩) fun _ _ => ?_
  exact opensAt_openSession lifetimes

/-- The scenario returns a session, opened at the moment, and leaves the tokens. -/
def LetsSomebodyIn (now : Int) (db : Database) (answer : Except Fault Session) (db' : Database) :
    Prop :=
  (∃ session, answer = .ok session) ∧ db'.tokens = db.tokens ∧ OpenedAt now db db'

/-- An end of a scenario whose every call succeeds and that refuses nobody. -/
theorem letsSomebodyIn_of_along {part : Scenario Session} (hopens : part.Only (OpensAt now))
    (hcalls : part.Along database Succeeds db) (hown : part.RaisesOnly fun _ => False) :
    part.Yields database (LetsSomebodyIn now db) db := by
  have hkept : part.Maintains database fun db' => db'.tokens = db.tokens ∧ OpenedAt now db db' := by
    refine maintains_of_only (fun call hcall db₁ h => ?_) hopens
    obtain ⟨htokens, hopened⟩ := hcall db₁
    exact ⟨htokens.trans h.1, h.2.trans hopened⟩
  refine ⟨?_, hkept db ⟨rfl, .of_eq rfl⟩⟩
  rcases hrun : part.run database db with ⟨answer, db'⟩
  cases answer with
  | ok session => exact ⟨session, rfl⟩
  | error fault => exact ((hcalls.mono fun _ _ h => h.2).error hown hrun).elim

theorem raisesNothing_openSession (lifetimes : AuthLifetimes) :
    (openSession lifetimes drawn tenant person now seen).RaisesOnly fun _ => False := by
  simp only [openSession, Session.open_of_pos lifetimes.positive.1, accept_ok, done_bind]
  exact (raisesOnly_perform _).bind fun _ => trivial

/-- The end of an acceptance. -/
theorem letsSomebodyIn_enrolled (lifetimes : AuthLifetimes) (hash : PasswordHash) :
    (do
      ask (.credentials (.save tenant person hash))
      openSession lifetimes drawn tenant person now seen : Scenario Session).Yields database
      (LetsSomebodyIn now db) db := by
  refine letsSomebodyIn_of_along ?_ ?_ ?_
  · exact honours_perform_bind (opensAt_credentials _) fun _ _ => opensAt_openSession lifetimes
  · exact along_perform_bind (succeeds_of_isTo (by rfl) db) fun _ _ _ => along_openSession lifetimes
  · exact (raisesOnly_perform _).bind fun _ => raisesNothing_openSession lifetimes

theorem letsSomebodyIn_replacePassword (lifetimes : AuthLifetimes) (hash : PasswordHash)
    (hclock : ∀ row ∈ db.sessions.rows, row.createdAt ≤ now) :
    (replacePassword lifetimes drawn tenant person hash now seen).Yields database
      (LetsSomebodyIn now db) db := by
  refine letsSomebodyIn_of_along (opensAt_replacePassword lifetimes hash) ?_ ?_
  · exact along_replacePassword lifetimes hash fun row hrow _ _ => hclock row hrow
  · exact (raisesOnly_perform _).bind fun _ => (raisesOnly_perform _).bind fun _ =>
      raisesNothing_openSession lifetimes

/-- Marking a usable link and letting somebody in. -/
theorem followEnds_mark {link : FollowedLink} {found : OneTimeToken} {rest : Scenario Session}
    {start : Database} (htokens : db.tokens = start.tokens)
    (hsessions : db.sessions = start.sessions) (hfound : found ∈ start.tokens.rows)
    (htenant : found.tenant = link.tenant)
    (hpurpose : found.purpose = link.purpose) (hsecret : found.secret = link.secret)
    (husable : found.isUsableAt link.moment = true)
    (hrest : ∀ db₁ : Database, db₁.sessions = start.sessions →
      rest.Yields database (LetsSomebodyIn link.moment db₁) db₁) :
    (do ask (.tokens (.markUsed { found with usedAt := some link.moment })); rest).Yields database
      (FollowEnds link start) db := by
  refine yields_perform_bind (fun fault db₁ hfailed => ?_) fun _ db₁ hmarked => ?_
  · have htable := congrArg (fun done => (done.1, done.2.tokens)) hfailed
    have hsame : db.sessions = db₁.sessions := congrArg (fun done => done.2.sessions) hfailed
    rcases commit_eq htable with ⟨hok, -⟩ | ⟨-, hleft⟩
    · cases hok
    · exact .failed (hleft.trans htokens) (hsame.symm.trans hsessions)
  · have hsame : db₁.sessions = start.sessions := by
      rw [← hsessions]
      exact (congrArg (fun done => done.2.sessions) hmarked).symm
    obtain ⟨⟨session, hanswer⟩, hleft, hopened⟩ := hrest db₁ hsame
    rw [Yields, hanswer]
    have hopened' : OpenedAt link.moment start _ := OpenedAt.trans (.of_eq hsame) hopened
    refine .worked htenant hpurpose hsecret ⟨hfound, husable, ?_⟩ hopened'
    rw [hleft, ← htokens]
    exact congrArg (fun done => (done.1, done.2.tokens)) hmarked

/-- Everything that may go wrong with an acceptance goes wrong before the mark. -/
theorem follow_acceptInvitation (request : AcceptInvitationRequest) :
    (acceptInvitation ports drawn request).Yields database
      (FollowEnds ⟨request.tenant, .invitation, ports.digests request.secret.value,
        drawn.clock 0⟩ db) db := by
  refine yields_ofExcept_bind (fun _ _ => .failed rfl rfl) fun rules _ => ?_
  refine yields_ofExcept_bind (fun _ _ => .failed rfl rfl) fun lifetimes _ => ?_
  refine yields_perform_bind (fun _ _ hfind => by cases hfind) fun found db₁ hfind => ?_
  obtain rfl : db = db₁ := congrArg Prod.snd hfind
  cases found with
  | none => exact FollowEnds.failed rfl rfl
  | some found =>
    obtain ⟨hfound, htenant, hsecret⟩ := Database.mem_of_find hfind
    dsimp only
    split
    · rename_i hinvitation
      refine yields_ofExcept_bind (fun _ _ => .failed rfl rfl) fun used hused => ?_
      refine yields_ofExcept_bind (fun _ _ => .failed rfl rfl) fun chosen _ => ?_
      refine yields_ofExcept_bind (fun _ _ => .failed rfl rfl) fun hash _ => ?_
      rw [Result.orRefuse_eq_ok] at hused
      obtain ⟨husable, rfl⟩ := OneTimeToken.used_eq_ok.1 hused
      have haccount : (accountOf drawn (ports.digests request.mail.value)
          (drawn.clock 0)).Yields database
          (fun _ db' => db'.tokens = db.tokens ∧ db'.sessions = db.sessions) db :=
        leaves_letters (footprint_accountOf ..) (by decide)
      refine Yields.bind (fun _ db₂ hfailed => ?_) fun account db₂ hmade => ?_
      · obtain ⟨htokens, hsessions⟩ := haccount.of_run hfailed
        exact .failed htokens hsessions
      obtain ⟨htokens, hsessions⟩ := haccount.of_run hmade
      refine yields_perform_bind (fun _ db₃ hfailed => ?_) fun enrolled db₃ henrol => ?_
      · obtain rfl : _ = db₃ := congrArg Prod.snd hfailed
        exact .failed htokens hsessions
      obtain rfl : _ = db₃ := congrArg Prod.snd henrol
      refine yields_ofExcept_bind (fun _ _ => .failed htokens hsessions) fun _ _ => ?_
      exact followEnds_mark htokens hsessions hfound htenant hinvitation hsecret husable
        fun _ _ => letsSomebodyIn_enrolled lifetimes hash
    · exact FollowEnds.failed rfl rfl

/-- Everything that may go wrong with a reset goes wrong before the mark. -/
theorem follow_resetPassword (request : ResetPasswordRequest)
    (hclock : ∀ row ∈ db.sessions.rows, row.createdAt ≤ drawn.clock 0) :
    (resetPassword ports drawn request).Yields database
      (FollowEnds ⟨request.tenant, .passwordReset, ports.digests request.secret.value,
        drawn.clock 0⟩ db) db := by
  refine yields_ofExcept_bind (fun _ _ => .failed rfl rfl) fun rules _ => ?_
  refine yields_ofExcept_bind (fun _ _ => .failed rfl rfl) fun lifetimes _ => ?_
  refine yields_perform_bind (fun _ _ hfind => by cases hfind) fun found db₁ hfind => ?_
  obtain rfl : db = db₁ := congrArg Prod.snd hfind
  cases found with
  | none => exact FollowEnds.failed rfl rfl
  | some found =>
    obtain ⟨hfound, htenant, hsecret⟩ := Database.mem_of_find hfind
    dsimp only
    split
    · rename_i hreset
      refine yields_ofExcept_bind (fun _ _ => .failed rfl rfl) fun used hused => ?_
      refine yields_ofExcept_bind (fun _ _ => .failed rfl rfl) fun chosen _ => ?_
      refine yields_ofExcept_bind (fun _ _ => .failed rfl rfl) fun hash _ => ?_
      rw [Result.orRefuse_eq_ok] at hused
      obtain ⟨husable, rfl⟩ := OneTimeToken.used_eq_ok.1 hused
      exact followEnds_mark rfl rfl hfound htenant hreset hsecret husable fun db₁ hsame =>
        letsSomebodyIn_replacePassword lifetimes hash (hsame ▸ hclock)
    · exact FollowEnds.failed rfl rfl

end Following

end Pdr.Identity
