import Mathlib.Data.List.Nodup
import Pdr.Identity.Application.InviteMany
import Pdr.Identity.Application.Refusals
import Pdr.Identity.Store.LetterTable

/-!
# Sending a list, the whole of it or nothing

A list is judged once and sent line by line. What may stop a line, the settings, the secret that
is drawn and a live invitation to the mail, is looked at anew for each of them, when the lines
before it are sent already. So a list may be broken off in the middle.

## Main definitions

* `Pdr.Identity.inviteManyUnder`: `InviteMany::Send`, with settings that may change on the way.
* `Pdr.Identity.Dispatch`: a ready line whose turn has come.
* `Pdr.Identity.Goes`, `Pdr.Identity.BreaksOff`: every line is sent, or only some of them are.
* `Pdr.Identity.SendsAllOrNothing`: what sending a list should come to.

## Main results

* `Pdr.Identity.inviteManyUnder_const`: with settings that stay the same it is `InviteMany::Send`.
* `Pdr.Identity.sendEach_refused_iff`, `Pdr.Identity.sendEach_eq_ok_iff`: how a list is sent.
* `Pdr.Identity.list_is_sent_whole_iff`: exactly when it is the whole list or nothing.
* `Pdr.Identity.list_breaks_off`: a list with a mail twice, and one sent while settings break.
-/

namespace Pdr.Identity

open StoreProgram Program

/-! ### Settings that change on the way -/

/-- The loop of `InviteMany::Send`. The settings are read anew for each line that is sent. -/
def sendAllUnder (settings : Nat → AuthSettings) (ports : AuthPorts) (tenant : TenantId)
    (role : Role) : Nat → List (Contact × Drawn) → Scenario (List SentInvitation)
  | _, [] => return []
  | turn, (line, drawn) :: lines =>
    match line.invites with
    | none => sendAllUnder settings ports tenant role turn lines
    | some mail => do
      let issued ← inviteParticipant { ports with settings := settings turn } drawn tenant role
        (some mail)
      let sent ← sendAllUnder settings ports tenant role (turn + 1) lines
      return ⟨mail, issued.secret⟩ :: sent

/-- `InviteMany::Send`, where each reading of the settings may find others. -/
def inviteManyUnder (settings : Nat → AuthSettings) (ports : AuthPorts) (drawn : Drawn)
    (tenant : TenantId) (role : Role) (lines : List (Contact × Drawn)) :
    Scenario InvitationRun := do
  let judged ← judge ports tenant (drawn.clock 0) lines
  let sent ← sendAllUnder settings ports tenant role 0 judged
  return ⟨judged.map (·.1), sent⟩

/-- Where the settings stay, it is the scenario without them. -/
theorem inviteManyUnder_const (ports : AuthPorts) (drawn : Drawn) (tenant : TenantId) (role : Role)
    (lines : List (Contact × Drawn)) :
    inviteManyUnder (fun _ => ports.settings) ports drawn tenant role lines =
      inviteMany ports drawn tenant role lines := by
  have hloop : ∀ (lines : List (Contact × Drawn)) (turn : Nat),
      sendAllUnder (fun _ => ports.settings) ports tenant role turn lines =
        sendAll ports tenant role lines := by
    intro lines
    induction lines with
    | nil => exact fun _ => rfl
    | cons pair lines ih =>
      obtain ⟨line, drawn⟩ := pair
      intro turn
      rw [sendAllUnder, sendAll]
      cases line.invites with
      | none => exact ih turn
      | some mail => simp only [ih]
  rw [inviteManyUnder, inviteMany]
  simp only [hloop]

/-! ### What judging finds -/

section Judged

variable (ports : AuthPorts) (tenant : TenantId) (now : Int) (db : Database)

/-- The tenant has a live invitation to the mail. -/
def Database.HasInvited (mail : Digest) (moment : Int) : Prop :=
  ∃ row ∈ db.tokens.rows, row.Invites tenant mail ∧ row.isUsableAt moment = true

/-- A line as it is judged by the rows of the moment. -/
def judgedIn (line : Contact) : Contact :=
  match line.invites with
  | none => line
  | some mail =>
    if db.people.rows.any fun row => row.tenant = tenant && row.mail = some mail then
      line.judged .alreadyEnrolled
    else if db.tokens.rows.any fun row => row.tenant = tenant && row.purpose = .invitation &&
        row.invited = some (ports.digests mail.value) && row.usedAt.isNone &&
        now < row.expiresAt then
      line.judged .alreadyInvited
    else line

variable {ports tenant now db}

theorem run_judgeLine (line : Contact) :
    (judgeLine ports tenant now line).run database db =
      (.ok (judgedIn ports tenant now db line), db) := by
  unfold judgeLine judgedIn
  cases line.invites with
  | none => rfl
  | some mail =>
    simp only [run_bind, run_perform, exec_directory, DirectoryCall.exec]
    split
    · rfl
    · simp only [run_bind, run_perform, exec_tokens, TokenCall.exec, Table.find?, List.any_eq_true,
        ← List.find?_isSome]
      cases db.tokens.rows.find? _ <;> rfl

theorem run_judge (lines : List (Contact × Drawn)) :
    (judge ports tenant now lines).run database db =
      (.ok (lines.map fun pair => (judgedIn ports tenant now db pair.1, pair.2)), db) := by
  induction lines with
  | nil => rfl
  | cons pair lines ih =>
    obtain ⟨line, drawn⟩ := pair
    rw [judge, run_bind, run_judgeLine]
    dsimp only
    rw [run_bind, ih]
    rfl

end Judged

/-! ### Lines whose turn has come -/

/-- A ready line whose turn has come: the settings that are found, what is drawn, and its mail. -/
structure Dispatch where
  settings : AuthSettings
  drawn : Drawn
  mail : Email

/-- The ready lines of a judged list, each with the settings its turn finds. -/
def dispatches (settings : Nat → AuthSettings) : Nat → List (Contact × Drawn) → List Dispatch
  | _, [] => []
  | turn, (line, drawn) :: lines =>
    match line.invites with
    | none => dispatches settings turn lines
    | some mail => ⟨settings turn, drawn, mail⟩ :: dispatches settings (turn + 1) lines

section Sending

variable (ports : AuthPorts) (tenant : TenantId) (role : Role)

/-- The fingerprint of the mail of a line. -/
def Dispatch.invited (line : Dispatch) : Digest := ports.digests line.mail.value

theorem pointsAtOneThing_invitation (role : Role) :
    pointsAtOneThing .invitation (some role) none = true := rfl

/-- The invitation of a line, if the settings and the secret are in order. -/
def Dispatch.link (line : Dispatch) : Option IssuedLink :=
  match line.settings.lifetimes, TokenSecret.parse line.drawn.tokenText with
  | .ok lifetimes, .ok secret =>
    some ⟨⟨line.drawn.tokenId, tenant, ports.digests secret.value, .invitation, some role, none,
      some (line.invited ports), line.drawn.clock 1, line.drawn.clock 1 + lifetimes.invitation,
      none, pointsAtOneThing_invitation role⟩, secret⟩
  | _, _ => none

/-- The line is refused when these tokens are there: it has no invitation, or its mail has a live
one. -/
def IsStopped (rows : List OneTimeToken) (line : Dispatch) : Prop :=
  line.link ports tenant role = none ∨ ∃ row ∈ rows, row.Invites tenant (line.invited ports) ∧
    row.isUsableAt (line.drawn.clock 0) = true

/-- The line is sent when these tokens are there: its invitation is the one given, no live one is
there and the table takes it. -/
def IsSent (rows : List OneTimeToken) (line : Dispatch) (link : IssuedLink) : Prop :=
  ¬ IsStopped ports tenant role rows line ∧ line.link ports tenant role = some link ∧
    ∀ row ∈ rows, Schema.clash row link.token = false

/-- The tokens of these lines. -/
def tokensOf (lines : List Dispatch) : List OneTimeToken :=
  lines.filterMap fun line => (line.link ports tenant role).map (·.token)

/-- Each line is sent when the tokens of the lines before it are there too. -/
def Goes (rows : List OneTimeToken) (lines : List Dispatch) : Prop :=
  ∀ before line after, lines = before ++ line :: after →
    ∃ link, IsSent ports tenant role (rows ++ tokensOf ports tenant role before) line link

/-- Some line is refused, and those before it are sent. -/
def IsRefused (rows : List OneTimeToken) (lines : List Dispatch) : Prop :=
  ∃ before line after, lines = before ++ line :: after ∧ Goes ports tenant role rows before ∧
    IsStopped ports tenant role (rows ++ tokensOf ports tenant role before) line

/-- Some line after the first is refused: its settings or its secret are not in order, or a live
invitation to its mail was there or is that of a line before it. Those before it are sent. -/
def BreaksOff (rows : List OneTimeToken) (lines : List Dispatch) : Prop :=
  ∃ before line after, before ≠ [] ∧ lines = before ++ line :: after ∧
    Goes ports tenant role rows before ∧
      IsStopped ports tenant role (rows ++ tokensOf ports tenant role before) line

/-- What is answered about these lines. -/
def sentOf (lines : List Dispatch) : List SentInvitation :=
  lines.filterMap fun line => (line.link ports tenant role).map fun link => ⟨line.mail, link.secret⟩

/-- The loop over the ready lines alone. -/
def sendEach : List Dispatch → Scenario (List SentInvitation)
  | [] => return []
  | line :: lines => do
    let issued ← inviteParticipant { ports with settings := line.settings } line.drawn tenant role
      (some line.mail)
    let sent ← sendEach lines
    return ⟨line.mail, issued.secret⟩ :: sent

theorem sendAllUnder_eq (settings : Nat → AuthSettings) (lines : List (Contact × Drawn))
    (turn : Nat) : sendAllUnder settings ports tenant role turn lines =
      sendEach ports tenant role (dispatches settings turn lines) := by
  induction lines generalizing turn with
  | nil => rfl
  | cons pair lines ih =>
    obtain ⟨line, drawn⟩ := pair
    rw [sendAllUnder, dispatches]
    cases line.invites with
    | none => exact ih turn
    | some mail => simp only [sendEach, ih]

variable {ports tenant role} {db : Database} {line : Dispatch} {link : IssuedLink}

theorem liveInvitation_isSome_iff {mail : Digest} {moment : Int} :
    (db.tokens.find? fun row => row.tenant = tenant && row.purpose = .invitation &&
      row.invited = some mail && row.usedAt.isNone && moment < row.expiresAt).isSome = true ↔
        ∃ row ∈ db.tokens.rows, row.Invites tenant mail ∧ row.isUsableAt moment = true := by
  simp [Table.find?, OneTimeToken.Invites, OneTimeToken.isUsableAt, and_assoc]

theorem run_refuseIfInvited_of_live {mail : Digest} {moment : Int}
    (h : ∃ row ∈ db.tokens.rows, row.Invites tenant mail ∧ row.isUsableAt moment = true) :
    (refuseIfInvited tenant mail moment).run database db =
      (.error (.refused invitationAlreadyLive), db) := by
  obtain ⟨row, hrow⟩ := Option.isSome_iff_exists.1 (liveInvitation_isSome_iff.2 h)
  simp only [refuseIfInvited, run_bind, run_perform, exec_tokens, TokenCall.exec, hrow]
  rfl

theorem run_refuseIfInvited_of_not_live {mail : Digest} {moment : Int}
    (h : ¬ ∃ row ∈ db.tokens.rows, row.Invites tenant mail ∧ row.isUsableAt moment = true) :
    (refuseIfInvited tenant mail moment).run database db = (.ok (), db) := by
  have hnone : db.tokens.find? _ = none :=
    Option.not_isSome_iff_eq_none.1 (mt liveInvitation_isSome_iff.1 h)
  simp only [refuseIfInvited, run_bind, run_perform, exec_tokens, TokenCall.exec, hnone]
  rfl

/-- A line that is stopped is refused, and nothing is written. -/
theorem run_of_isStopped (h : IsStopped ports tenant role db.tokens.rows line) :
    ∃ failure, (inviteParticipant { ports with settings := line.settings } line.drawn tenant role
      (some line.mail)).run database db = (.error (.refused failure), db) := by
  unfold inviteParticipant
  cases hlifetimes : line.settings.lifetimes with
  | error failure => exact ⟨failure, by simp⟩
  | ok lifetimes =>
    simp only [accept_ok, done_bind, Option.map_some, run_bind]
    by_cases hlive : ∃ row ∈ db.tokens.rows, row.Invites tenant (line.invited ports) ∧
        row.isUsableAt (line.drawn.clock 0) = true
    · have hasked := run_refuseIfInvited_of_live hlive
      rw [Dispatch.invited] at hasked
      exact ⟨invitationAlreadyLive, by rw [hasked]⟩
    · have hasked := run_refuseIfInvited_of_not_live hlive
      rw [Dispatch.invited] at hasked
      rw [hasked]
      have hnone := h.resolve_right hlive
      cases hsecret : TokenSecret.parse line.drawn.tokenText with
      | error failure => exact ⟨failure, by simp⟩
      | ok secret => simp [Dispatch.link, hlifetimes, hsecret] at hnone

/-- A line that is not stopped is sent, or the store throws. -/
theorem run_of_not_isStopped (h : ¬ IsStopped ports tenant role db.tokens.rows line)
    (hlink : line.link ports tenant role = some link) :
    (inviteParticipant { ports with settings := line.settings } line.drawn tenant role
      (some line.mail)).run database db =
        match db.tokens.insert link.token with
        | some table => (.ok link, { db with tokens := table })
        | none => (.error (.thrown (.schemaViolation "identity_one_time_token")), db) := by
  have hlive := mt Or.inr h
  unfold Dispatch.link at hlink
  split at hlink
  · rename_i lifetimes secret hlifetimes hsecret
    obtain rfl := Option.some.inj hlink
    unfold inviteParticipant
    simp only [hlifetimes, hsecret, accept_ok, done_bind, Option.map_some, run_bind]
    have hasked := run_refuseIfInvited_of_not_live hlive
    rw [Dispatch.invited] at hasked
    rw [hasked]
    simp only [OneTimeToken.invitation, if_neg (not_le.2 lifetimes.positive.2.1), accept_ok,
      run_done, run_perform, exec_tokens, TokenCall.exec, Dispatch.invited]
    cases db.tokens.insert _ <;> rfl
  · cases hlink

/-- The table takes the token of a line exactly if none of its keys is there. -/
theorem exists_insert_link_iff (hlink : line.link ports tenant role = some link) :
    (∃ table, db.tokens.insert link.token = some table) ↔
      ∀ row ∈ db.tokens.rows, Schema.clash row link.token = false := by
  constructor
  · rintro ⟨table, htable⟩ row hrow
    by_contra hclash
    rw [Table.insert_eq_none_of_clash hrow (Bool.not_eq_false _ ▸ hclash)] at htable
    cases htable
  · refine Table.exists_insert ?_
    unfold Dispatch.link at hlink
    split at hlink
    · rename_i lifetimes secret _ _
      obtain rfl := Option.some.inj hlink
      have hpositive := lifetimes.positive.2.1
      simp only [Schema.check, Option.all_none, Bool.and_true, decide_eq_true_eq]
      omega
    · cases hlink

/-- What becomes of a line: it is refused, or it is sent, or the store throws. -/
theorem line_cases (line : Dispatch) (db : Database) :
    (IsStopped ports tenant role db.tokens.rows line ∧ ∃ failure,
      (inviteParticipant { ports with settings := line.settings } line.drawn tenant role
        (some line.mail)).run database db = (.error (.refused failure), db)) ∨
    (∃ link table, IsSent ports tenant role db.tokens.rows line link ∧
      table.rows = db.tokens.rows ++ [link.token] ∧
      (inviteParticipant { ports with settings := line.settings } line.drawn tenant role
        (some line.mail)).run database db = (.ok link, { db with tokens := table })) ∨
    ((∀ link, ¬ IsSent ports tenant role db.tokens.rows line link) ∧
      ¬ IsStopped ports tenant role db.tokens.rows line ∧ ∃ exception,
      (inviteParticipant { ports with settings := line.settings } line.drawn tenant role
        (some line.mail)).run database db = (.error (.thrown exception), db)) := by
  by_cases hstopped : IsStopped ports tenant role db.tokens.rows line
  · exact Or.inl ⟨hstopped, run_of_isStopped hstopped⟩
  · obtain ⟨link, hlink⟩ := Option.ne_none_iff_exists'.1 fun hnone => hstopped (Or.inl hnone)
    have hrun := run_of_not_isStopped hstopped hlink
    cases hinsert : db.tokens.insert link.token with
    | some table =>
      rw [hinsert] at hrun
      refine Or.inr (Or.inl ⟨link, table, ⟨hstopped, hlink, ?_⟩, Table.rows_of_insert hinsert,
        hrun⟩)
      exact (exists_insert_link_iff hlink).1 ⟨table, hinsert⟩
    | none =>
      rw [hinsert] at hrun
      refine Or.inr (Or.inr ⟨?_, hstopped, _, hrun⟩)
      rintro other ⟨-, hother, hkeys⟩
      obtain rfl := Option.some.inj (hlink.symm.trans hother)
      obtain ⟨table, htable⟩ := (exists_insert_link_iff hlink).2 hkeys
      rw [hinsert] at htable
      cases htable

theorem run_sendEach_cons (line : Dispatch) (lines : List Dispatch) (db : Database) :
    (sendEach ports tenant role (line :: lines)).run database db =
      match (inviteParticipant { ports with settings := line.settings } line.drawn tenant role
        (some line.mail)).run database db with
      | (.ok issued, between) => match (sendEach ports tenant role lines).run database between with
        | (.ok sent, db') => (.ok (⟨line.mail, issued.secret⟩ :: sent), db')
        | (.error error, db') => (.error error, db')
      | (.error error, between) => (.error error, between) := by
  rw [sendEach, run_bind]
  rcases (inviteParticipant { ports with settings := line.settings } line.drawn tenant role
    (some line.mail)).run database db with ⟨outcome, between⟩
  cases outcome with
  | error error => rfl
  | ok issued =>
    dsimp only
    rw [run_bind]
    rcases (sendEach ports tenant role lines).run database between with ⟨outcome, db'⟩
    cases outcome <;> rfl

theorem IsSent.unique {rows : List OneTimeToken} {other : IssuedLink}
    (h : IsSent ports tenant role rows line link) (h' : IsSent ports tenant role rows line other) :
    other = link :=
  Option.some.inj (h'.2.1.symm.trans h.2.1)

theorem tokensOf_cons (hlink : line.link ports tenant role = some link) (lines : List Dispatch) :
    tokensOf ports tenant role (line :: lines) =
      link.token :: tokensOf ports tenant role lines := by
  simp [tokensOf, hlink]

section Lines

variable {rows : List OneTimeToken} {lines : List Dispatch}

theorem goes_nil : Goes ports tenant role rows [] := by
  rintro before line after hsplit
  simp at hsplit

theorem goes_cons : Goes ports tenant role rows (line :: lines) ↔
    ∃ link, IsSent ports tenant role rows line link ∧
      Goes ports tenant role (rows ++ [link.token]) lines := by
  constructor
  · intro h
    obtain ⟨link, hsent⟩ := h [] line lines rfl
    rw [tokensOf, List.filterMap_nil, List.append_nil] at hsent
    refine ⟨link, hsent, fun before other after hsplit => ?_⟩
    have hother := h (line :: before) other after (by rw [hsplit, List.cons_append])
    rwa [tokensOf_cons hsent.2.1, List.append_cons] at hother
  · rintro ⟨link, hsent, hlater⟩ before other after hsplit
    rcases List.cons_eq_append_iff.1 hsplit with ⟨rfl, hfirst⟩ | ⟨before, rfl, hrest⟩
    · obtain ⟨rfl, rfl⟩ := List.cons.inj hfirst
      exact ⟨link, by rwa [tokensOf, List.filterMap_nil, List.append_nil]⟩
    · rw [tokensOf_cons hsent.2.1, List.append_cons]
      exact hlater before other after hrest

/-- A list breaks off if its first line is sent and one of the rest is refused. -/
theorem breaksOff_cons : BreaksOff ports tenant role rows (line :: lines) ↔
    ∃ link, IsSent ports tenant role rows line link ∧
      IsRefused ports tenant role (rows ++ [link.token]) lines := by
  constructor
  · rintro ⟨before, other, after, hbefore, hsplit, hgoes, hstopped⟩
    rcases List.cons_eq_append_iff.1 hsplit with ⟨rfl, -⟩ | ⟨before, rfl, hrest⟩
    · exact absurd rfl hbefore
    · obtain ⟨link, hsent, hlater⟩ := goes_cons.1 hgoes
      rw [tokensOf_cons hsent.2.1, List.append_cons] at hstopped
      exact ⟨link, hsent, before, other, after, hrest, hlater, hstopped⟩
  · rintro ⟨link, hsent, before, other, after, rfl, hgoes, hstopped⟩
    refine ⟨line :: before, other, after, List.cons_ne_nil _ _, rfl,
      goes_cons.2 ⟨link, hsent, hgoes⟩, ?_⟩
    rwa [tokensOf_cons hsent.2.1, List.append_cons]

theorem isRefused_cons : IsRefused ports tenant role rows (line :: lines) ↔
    IsStopped ports tenant role rows line ∨ BreaksOff ports tenant role rows (line :: lines) := by
  constructor
  · rintro ⟨before, other, after, hsplit, hgoes, hstopped⟩
    cases before with
    | nil =>
      obtain ⟨rfl, rfl⟩ := List.cons.inj hsplit
      rw [tokensOf, List.filterMap_nil, List.append_nil] at hstopped
      exact Or.inl hstopped
    | cons first before =>
      exact Or.inr ⟨first :: before, other, after, List.cons_ne_nil _ _, hsplit, hgoes, hstopped⟩
  · rintro (hstopped | ⟨before, other, after, -, hsplit, hgoes, hstopped⟩)
    · refine ⟨[], line, lines, rfl, goes_nil, ?_⟩
      rwa [tokensOf, List.filterMap_nil, List.append_nil]
    · exact ⟨before, other, after, hsplit, hgoes, hstopped⟩

theorem not_isRefused_nil : ¬ IsRefused ports tenant role rows [] := by
  rintro ⟨before, other, after, hsplit, -⟩
  simp at hsplit

theorem goes_cons_iff (h : IsSent ports tenant role rows line link) :
    Goes ports tenant role rows (line :: lines) ↔
      Goes ports tenant role (rows ++ [link.token]) lines := by
  refine goes_cons.trans ⟨?_, fun hlater => ⟨link, h, hlater⟩⟩
  rintro ⟨other, hother, hlater⟩
  rwa [h.unique hother] at hlater

end Lines

/-- Lines that are sent leave their tokens at the end of the table. -/
theorem sendEach_eq_ok_iff {lines : List Dispatch} {sent : List SentInvitation} {db' : Database} :
    (sendEach ports tenant role lines).run database db = (.ok sent, db') ↔
      Goes ports tenant role db.tokens.rows lines ∧ sent = sentOf ports tenant role lines ∧
        ∃ table, table.rows = db.tokens.rows ++ tokensOf ports tenant role lines ∧
          db' = { db with tokens := table } := by
  induction lines generalizing db sent with
  | nil =>
    constructor
    · intro h
      obtain ⟨hsent, rfl⟩ := Prod.mk.inj h
      obtain rfl := Except.ok.inj hsent
      exact ⟨goes_nil, rfl, db.tokens, (List.append_nil _).symm, rfl⟩
    · rintro ⟨-, rfl, table, hrows, rfl⟩
      obtain rfl : table = db.tokens := Table.eq_iff_rows.2 (hrows.trans (List.append_nil _))
      rfl
  | cons line lines ih =>
    rw [run_sendEach_cons]
    rcases line_cases line db with ⟨hstopped, failure, hrun⟩ | ⟨link, table, hsent, hrows, hrun⟩ |
      ⟨hnot, -, exception, hrun⟩
    · rw [hrun]
      refine ⟨nofun, ?_⟩
      rintro ⟨hgoes, -⟩
      obtain ⟨link, hsent, -⟩ := goes_cons.1 hgoes
      exact absurd hstopped hsent.1
    · rw [hrun]
      have hsentOf : sentOf ports tenant role (line :: lines) =
          ⟨line.mail, link.secret⟩ :: sentOf ports tenant role lines := by
        simp [sentOf, hsent.2.1]
      have htokensOf : db.tokens.rows ++ tokensOf ports tenant role (line :: lines) =
          table.rows ++ tokensOf ports tenant role lines := by
        simp [tokensOf, hsent.2.1, hrows]
      rw [goes_cons_iff hsent, hsentOf, htokensOf, ← hrows]
      dsimp only
      constructor
      · intro h
        rcases hlater : (sendEach ports tenant role lines).run database { db with tokens := table }
          with ⟨outcome, between⟩
        rw [hlater] at h
        cases outcome with
        | error error => cases h
        | ok later =>
          obtain ⟨hsame, rfl⟩ := Prod.mk.inj h
          obtain ⟨hgoes, rfl, table', hrows', rfl⟩ := ih.1 hlater
          exact ⟨hgoes, (Except.ok.inj hsame).symm, table', hrows', rfl⟩
      · rintro ⟨hgoes, rfl, table', hrows', rfl⟩
        have hlater : (sendEach ports tenant role lines).run database { db with tokens := table } =
            (.ok (sentOf ports tenant role lines), { db with tokens := table' }) :=
          ih.2 ⟨hgoes, rfl, table', hrows', rfl⟩
        rw [hlater]
    · rw [hrun]
      refine ⟨nofun, ?_⟩
      rintro ⟨hgoes, -⟩
      obtain ⟨link, hsent, -⟩ := goes_cons.1 hgoes
      exact absurd hsent (hnot link)

/-- Where every line goes, the table takes all the tokens. -/
theorem exists_table_of_goes {lines : List Dispatch}
    (h : Goes ports tenant role db.tokens.rows lines) :
    ∃ table : Table OneTimeToken,
      table.rows = db.tokens.rows ++ tokensOf ports tenant role lines := by
  induction lines generalizing db with
  | nil => exact ⟨db.tokens, (List.append_nil _).symm⟩
  | cons line lines ih =>
    obtain ⟨link, hsent, hlater⟩ := goes_cons.1 h
    obtain ⟨table, htable⟩ := (exists_insert_link_iff hsent.2.1).2 hsent.2.2
    have hrows := Table.rows_of_insert htable
    rw [← hrows] at hlater
    have hgoes : Goes ports tenant role { db with tokens := table }.tokens.rows lines := hlater
    obtain ⟨after, hafter⟩ := ih hgoes
    exact ⟨after, by simpa [tokensOf, hsent.2.1, hrows] using hafter⟩

/-- A list is refused exactly if one of its lines is, those before it being sent. -/
theorem sendEach_refused_iff {lines : List Dispatch} :
    (∃ failure db', (sendEach ports tenant role lines).run database db =
      (.error (.refused failure), db')) ↔ IsRefused ports tenant role db.tokens.rows lines := by
  induction lines generalizing db with
  | nil => exact ⟨nofun, fun h => absurd h not_isRefused_nil⟩
  | cons line lines ih =>
    rw [run_sendEach_cons, isRefused_cons, breaksOff_cons]
    rcases line_cases line db with ⟨hstopped, failure, hrun⟩ | ⟨link, table, hsent, hrows, hrun⟩ |
      ⟨hnot, hgoes, exception, hrun⟩
    · rw [hrun]
      exact ⟨fun _ => Or.inl hstopped, fun _ => ⟨failure, db, rfl⟩⟩
    · have hlater : (IsStopped ports tenant role db.tokens.rows line ∨
          ∃ link, IsSent ports tenant role db.tokens.rows line link ∧
            IsRefused ports tenant role (db.tokens.rows ++ [link.token]) lines) ↔
          ∃ failure db', (sendEach ports tenant role lines).run database
            { db with tokens := table } = (.error (.refused failure), db') := by
        rw [ih, hrows]
        constructor
        · rintro (hstopped | ⟨other, hother, hrefused⟩)
          · exact absurd hstopped hsent.1
          · rwa [← hsent.unique hother]
        · exact fun hrefused => Or.inr ⟨link, hsent, hrefused⟩
      rw [hrun, hlater]
      dsimp only
      rcases (sendEach ports tenant role lines).run database { db with tokens := table } with
        ⟨outcome, db'⟩
      cases outcome <;> simp
    · rw [hrun]
      refine ⟨nofun, ?_⟩
      rintro (hstopped | ⟨link, hsent, -⟩)
      · exact absurd hstopped hgoes
      · exact absurd hsent (hnot link)

/-- Whatever becomes of the list, the tokens that were there stay in front. -/
theorem rows_sendEach (lines : List Dispatch) (db : Database) :
    ∃ more, ((sendEach ports tenant role lines).run database db).2.tokens.rows =
      db.tokens.rows ++ more := by
  induction lines generalizing db with
  | nil => exact ⟨[], (List.append_nil _).symm⟩
  | cons line lines ih =>
    rw [run_sendEach_cons]
    rcases line_cases line db with ⟨-, failure, hrun⟩ | ⟨link, table, -, hrows, hrun⟩ |
      ⟨-, -, exception, hrun⟩
    · exact ⟨[], by rw [hrun, List.append_nil]⟩
    · obtain ⟨more, hmore⟩ := ih { db with tokens := table }
      refine ⟨link.token :: more, ?_⟩
      rw [hrun]
      dsimp only
      rw [hrows, List.append_assoc] at hmore
      rcases hlater : (sendEach ports tenant role lines).run database
        { db with tokens := table } with ⟨outcome, db'⟩
      rw [hlater] at hmore
      cases outcome <;> exact hmore
    · exact ⟨[], by rw [hrun, List.append_nil]⟩

/-- A list breaks off exactly if it is refused and has changed something. -/
theorem breaksOff_iff {lines : List Dispatch} :
    BreaksOff ports tenant role db.tokens.rows lines ↔
      ∃ failure db', (sendEach ports tenant role lines).run database db =
        (.error (.refused failure), db') ∧ db' ≠ db := by
  cases lines with
  | nil =>
    refine ⟨?_, nofun⟩
    rintro ⟨before, other, after, -, hsplit, -⟩
    simp at hsplit
  | cons line lines =>
    rw [run_sendEach_cons, breaksOff_cons]
    rcases line_cases line db with ⟨hstopped, failure, hrun⟩ | ⟨link, table, hsent, hrows, hrun⟩ |
      ⟨hnot, -, exception, hrun⟩
    · rw [hrun]
      constructor
      · rintro ⟨link, hsent, -⟩
        exact absurd hstopped hsent.1
      · rintro ⟨failure, db', hsame, hother⟩
        exact absurd (Prod.mk.inj hsame).2.symm hother
    · have hrefused : IsRefused ports tenant role (db.tokens.rows ++ [link.token]) lines ↔
          ∃ failure db', (sendEach ports tenant role lines).run database
            { db with tokens := table } = (.error (.refused failure), db') := by
        rw [sendEach_refused_iff, hrows]
      rw [hrun]
      dsimp only
      constructor
      · rintro ⟨other, hother, hlater⟩
        rw [hsent.unique hother] at hlater
        obtain ⟨failure, db', hlater⟩ := hrefused.1 hlater
        refine ⟨failure, db', by rw [hlater], ?_⟩
        rintro rfl
        obtain ⟨more, hmore⟩ : ∃ more, ((sendEach ports tenant role lines).run database
            { db' with tokens := table }).2.tokens.rows = _ ++ more := rows_sendEach lines _
        rw [hlater] at hmore
        have hlength := congrArg List.length hmore
        simp [hrows] at hlength
      · rintro ⟨failure, db', hlater, -⟩
        refine ⟨link, hsent, hrefused.2 ?_⟩
        rcases hrest : (sendEach ports tenant role lines).run database { db with tokens := table }
          with ⟨outcome, between⟩
        rw [hrest] at hlater
        cases outcome with
        | ok later => cases hlater
        | error error => exact ⟨failure, db', hlater⟩
    · rw [hrun]
      constructor
      · rintro ⟨link, hsent, -⟩
        exact absurd hsent (hnot link)
      · rintro ⟨failure, db', hsame, -⟩
        cases (Prod.mk.inj hsame).1

end Sending

/-! ### The whole of it or nothing -/

section Whole

variable {ports : AuthPorts} {tenant : TenantId} {role : Role} {now : Int} {db : Database}

/-- What sending a list at a moment should come to. A refusal leaves everything as it was.
Otherwise the answer has the judged list and its ready lines in their order, all of different
mails; to each of them there is one live invitation, with the secret that is answered, and none of
them was in the tenant or had a live invitation before. -/
def SendsAllOrNothing (ports : AuthPorts) (tenant : TenantId) (now : Int) (lines : List Contact)
    (db : Database) (outcome : Except Fault InvitationRun) (db' : Database) : Prop :=
  (∀ failure, outcome = .error (.refused failure) → db' = db) ∧
  ∀ result, outcome = .ok result →
    result.judged = lines.map (judgedIn ports tenant now db) ∧
    result.sent.map (·.mail) = result.judged.filterMap Contact.invites ∧
    (result.sent.map (·.mail)).Nodup ∧
    ∀ sent ∈ result.sent,
      (∃ row ∈ db'.tokens.rows, row.secret = ports.digests sent.secret.value ∧
        ∀ other ∈ db'.tokens.rows, other.Invites tenant (ports.digests sent.mail.value) ∧
          other.isUsableAt now = true ↔ other = row) ∧
      ¬ db.KnowsMail tenant sent.mail ∧
      ¬ db.HasInvited tenant (ports.digests sent.mail.value) now

/-- What the invitation of a line is. -/
theorem Dispatch.link_spec {line : Dispatch} {link : IssuedLink}
    (h : line.link ports tenant role = some link) :
    link.token.Invites tenant (line.invited ports) ∧
      link.token.secret = ports.digests link.secret.value ∧ link.token.usedAt = none := by
  unfold Dispatch.link at h
  split at h
  · obtain rfl := Option.some.inj h
    exact ⟨⟨rfl, rfl, rfl⟩, rfl, rfl⟩
  · cases h

/-- A line that is sent has an invitation. -/
theorem Goes.exists_link {rows : List OneTimeToken} {lines : List Dispatch}
    (h : Goes ports tenant role rows lines) :
    ∀ line ∈ lines, ∃ link, line.link ports tenant role = some link := by
  induction lines generalizing rows with
  | nil => exact fun line hline => absurd hline List.not_mem_nil
  | cons first lines ih =>
    obtain ⟨link, hsent, hlater⟩ := goes_cons.1 h
    intro line hline
    rcases List.mem_cons.1 hline with rfl | hline
    · exact ⟨link, hsent.2.1⟩
    · exact ih hlater line hline

theorem mem_tokensOf {lines : List Dispatch} {token : OneTimeToken} :
    token ∈ tokensOf ports tenant role lines ↔
      ∃ line ∈ lines, ∃ link, line.link ports tenant role = some link ∧ link.token = token := by
  simp [tokensOf]

theorem mem_sentOf {lines : List Dispatch} {sent : SentInvitation} :
    sent ∈ sentOf ports tenant role lines ↔ ∃ line ∈ lines, ∃ link,
      line.link ports tenant role = some link ∧ ⟨line.mail, link.secret⟩ = sent := by
  simp [sentOf]

/-- Each line that is sent is answered with its mail. -/
theorem map_mail_sentOf {lines : List Dispatch}
    (h : ∀ line ∈ lines, ∃ link, line.link ports tenant role = some link) :
    (sentOf ports tenant role lines).map (·.mail) = lines.map (·.mail) := by
  induction lines with
  | nil => rfl
  | cons line lines ih =>
    obtain ⟨link, hlink⟩ := h line List.mem_cons_self
    have hlater := ih fun other hother => h other (List.mem_cons_of_mem line hother)
    rw [sentOf] at hlater ⊢
    simp [hlink, hlater]

/-- The mails of the ready lines of a list, in their order. -/
theorem map_mail_dispatches (settings : Nat → AuthSettings) (lines : List (Contact × Drawn))
    (turn : Nat) : (dispatches settings turn lines).map (·.mail) =
      (lines.map (·.1)).filterMap Contact.invites := by
  induction lines generalizing turn with
  | nil => rfl
  | cons pair lines ih =>
    obtain ⟨line, drawn⟩ := pair
    rw [dispatches, List.map_cons]
    cases hinvites : line.invites with
    | none => rw [List.filterMap_cons_none hinvites]; exact ih turn
    | some mail =>
      rw [List.filterMap_cons_some hinvites, List.map_cons, ih (turn + 1)]

/-- A line that is ready when it is judged is of nobody in the tenant, and nobody who has a live
invitation. -/
theorem invites_judgedIn {line : Contact} {mail : Email}
    (h : (judgedIn ports tenant now db line).invites = some mail) :
    ¬ db.KnowsMail tenant mail ∧ ¬ db.HasInvited tenant (ports.digests mail.value) now := by
  unfold judgedIn at h
  cases hinvites : line.invites with
  | none =>
    rw [hinvites] at h
    dsimp only at h
    rw [hinvites] at h
    cases h
  | some own =>
    rw [hinvites] at h
    dsimp only at h
    split_ifs at h with hknown hlive
    · cases h
    · cases h
    · obtain rfl := Option.some.inj (hinvites.symm.trans h)
      refine ⟨fun hknows => hknown ?_, fun hinvited => hlive ?_⟩
      · simpa [Database.KnowsMail] using hknows
      · rw [List.any_eq_true, ← List.find?_isSome]
        exact liveInvitation_isSome_iff.2 hinvited

/-- Of lines that are sent to nobody with a live invitation: each has one in the end exactly if the
fingerprints of the mails are different and no invitation is over by the moment of the judging. -/
theorem one_live_each_iff {lines : List Dispatch} {table : Table OneTimeToken}
    (hlinks : ∀ line ∈ lines, ∃ link, line.link ports tenant role = some link)
    (hrows : table.rows = db.tokens.rows ++ tokensOf ports tenant role lines)
    (hnew : ∀ line ∈ lines, ¬ db.HasInvited tenant (line.invited ports) now) :
    ((lines.map (·.mail)).Nodup ∧ ∀ sent ∈ sentOf ports tenant role lines,
      ∃ row ∈ table.rows, row.secret = ports.digests sent.secret.value ∧
        ∀ other ∈ table.rows, other.Invites tenant (ports.digests sent.mail.value) ∧
          other.isUsableAt now = true ↔ other = row) ↔
      (lines.map fun line => line.invited ports).Nodup ∧ ∀ line ∈ lines,
        ∀ link ∈ line.link ports tenant role, now < link.token.expiresAt := by
  have hmem : ∀ line ∈ lines, ∀ link, line.link ports tenant role = some link →
      link.token ∈ table.rows := by
    intro line hline link hlink
    rw [hrows]
    exact List.mem_append_right _ (mem_tokensOf.2 ⟨line, hline, link, hlink, rfl⟩)
  constructor
  · rintro ⟨-, heach⟩
    -- The row with the secret of a line is the token of the line.
    have hone : ∀ line ∈ lines, ∀ link, line.link ports tenant role = some link →
        ∀ other ∈ table.rows, other.Invites tenant (line.invited ports) ∧
          other.isUsableAt now = true ↔ other = link.token := by
      intro line hline link hlink
      obtain ⟨row, hrow, hsecret, honly⟩ := heach _ (mem_sentOf.2 ⟨line, hline, link, hlink, rfl⟩)
      obtain ⟨⟨htenant, -⟩, hsame, -⟩ := Dispatch.link_spec hlink
      have hinvites := ((honly row hrow).2 rfl).1
      obtain rfl : link.token = row := table.eq_of_clash (hmem line hline link hlink) hrow (by
        simp [Schema.clash, htenant, hinvites.1, hsame, hsecret])
      exact honly
    refine ⟨?_, fun line hline link hlink => ?_⟩
    · have hapart : (tokensOf ports tenant role lines).Pairwise fun a b => ¬ Schema.clash a b := by
        have hdistinct := table.distinct
        rw [hrows, List.pairwise_append] at hdistinct
        exact hdistinct.2.1
      rw [tokensOf, List.pairwise_filterMap] at hapart
      refine List.pairwise_map.2 (hapart.imp_of_mem fun {a b} ha hb hclash hsame => ?_)
      obtain ⟨linkA, hlinkA⟩ := hlinks a ha
      obtain ⟨linkB, hlinkB⟩ := hlinks b hb
      have husableA := ((hone a ha linkA hlinkA _ (hmem a ha linkA hlinkA)).2 rfl).2
      have hinvitesA := (Dispatch.link_spec hlinkA).1
      rw [hsame] at hinvitesA
      have heq := (hone b hb linkB hlinkB _ (hmem a ha linkA hlinkA)).1 ⟨hinvitesA, husableA⟩
      refine hclash linkA.token (by simp [hlinkA]) linkB.token (by simp [hlinkB]) ?_
      simp [heq, Schema.clash]
    · have husable := ((hone line hline link hlink _ (hmem line hline link hlink)).2 rfl).2
      exact (OneTimeToken.isUsableAt_eq_true.1 husable).2
  · rintro ⟨hdistinct, hterm⟩
    refine ⟨?_, fun sent hsent => ?_⟩
    · refine List.Nodup.of_map (fun mail : Email => ports.digests mail.value) ?_
      rwa [List.map_map]
    · obtain ⟨line, hline, link, hlink, rfl⟩ := mem_sentOf.1 hsent
      obtain ⟨hinvites, hsecret, hunused⟩ := Dispatch.link_spec hlink
      refine ⟨link.token, hmem line hline link hlink, hsecret, fun other hother => ?_⟩
      constructor
      · rintro ⟨hinvited, husable⟩
        rw [hrows] at hother
        rcases List.mem_append.1 hother with hold | htoken
        · exact absurd ⟨other, hold, hinvited, husable⟩ (hnew line hline)
        · obtain ⟨line', hline', link', hlink', rfl⟩ := mem_tokensOf.1 htoken
          have hsame : line'.invited ports = line.invited ports :=
            Option.some.inj ((Dispatch.link_spec hlink').1.2.2.symm.trans hinvited.2.2)
          obtain rfl := List.inj_on_of_nodup_map hdistinct hline' hline hsame
          rw [Option.some.inj (hlink'.symm.trans hlink)]
      · rintro rfl
        exact ⟨hinvites, OneTimeToken.isUsableAt_eq_true.2 ⟨hunused, hterm line hline link hlink⟩⟩

/-- The ready lines of a list as they are judged by the rows of the moment. -/
def readyLines (settings : Nat → AuthSettings) (ports : AuthPorts) (tenant : TenantId) (now : Int)
    (db : Database) (lines : List (Contact × Drawn)) : List Dispatch :=
  dispatches settings 0 (lines.map fun pair => (judgedIn ports tenant now db pair.1, pair.2))

/-- Each ready line of a list is of nobody in the tenant, and nobody who has a live invitation. -/
theorem fresh_of_mem_readyLines {settings : Nat → AuthSettings} {lines : List (Contact × Drawn)}
    {line : Dispatch} (h : line ∈ readyLines settings ports tenant now db lines) :
    ¬ db.KnowsMail tenant line.mail ∧ ¬ db.HasInvited tenant (line.invited ports) now := by
  have hmail : line.mail ∈ (readyLines settings ports tenant now db lines).map (·.mail) :=
    List.mem_map_of_mem h
  rw [readyLines, map_mail_dispatches, List.map_map, List.mem_filterMap] at hmail
  obtain ⟨judged, hjudged, hinvites⟩ := hmail
  obtain ⟨pair, -, rfl⟩ := List.mem_map.1 hjudged
  exact invites_judgedIn hinvites

/-- A list is judged, and then its ready lines are sent. -/
theorem run_inviteManyUnder (settings : Nat → AuthSettings) (drawn : Drawn)
    (lines : List (Contact × Drawn)) :
    (inviteManyUnder settings ports drawn tenant role lines).run database db =
      match (sendEach ports tenant role (readyLines settings ports tenant (drawn.clock 0) db
        lines)).run database db with
      | (.ok sent, db') =>
        (.ok ⟨lines.map fun pair => judgedIn ports tenant (drawn.clock 0) db pair.1, sent⟩, db')
      | (.error error, db') => (.error error, db') := by
  rw [inviteManyUnder, run_bind, run_judge]
  dsimp only
  rw [run_bind, sendAllUnder_eq, ← readyLines]
  rcases (sendEach ports tenant role (readyLines settings ports tenant (drawn.clock 0) db
    lines)).run database db with ⟨outcome, db'⟩
  cases outcome with
  | error error => rfl
  | ok sent => simp [Function.comp_def]

/-- **A list is sent as a whole or not at all** exactly if it is not broken off after its first
ready line, and, where every line goes, if the fingerprints of the ready mails are different and no
invitation is over by the moment of the judging. For every state, role and list, with settings that
may change from line to line. -/
theorem list_is_sent_whole_iff (settings : Nat → AuthSettings) (ports : AuthPorts) (drawn : Drawn)
    (tenant : TenantId) (role : Role) (lines : List (Contact × Drawn)) (db : Database) :
    let done := (inviteManyUnder settings ports drawn tenant role lines).run database db
    let ready := readyLines settings ports tenant (drawn.clock 0) db lines
    SendsAllOrNothing ports tenant (drawn.clock 0) (lines.map (·.1)) db done.1 done.2 ↔
      ¬ BreaksOff ports tenant role db.tokens.rows ready ∧
        (Goes ports tenant role db.tokens.rows ready →
          (ready.map fun line => line.invited ports).Nodup ∧
            ∀ line ∈ ready, ∀ link ∈ line.link ports tenant role,
              drawn.clock 0 < link.token.expiresAt) := by
  intro done ready
  have hdone : done = _ := run_inviteManyUnder settings drawn lines
  rw [SendsAllOrNothing]
  refine and_congr ?_ ?_
  · rw [breaksOff_iff, hdone]
    constructor
    · rintro h ⟨failure, db', hrun, hother⟩
      rw [hrun] at h
      exact hother (h failure rfl)
    · intro h failure hrefused
      rcases hrun : (sendEach ports tenant role (readyLines settings ports tenant (drawn.clock 0) db
        lines)).run database db with ⟨outcome, db'⟩
      rw [hrun] at hrefused
      cases outcome with
      | ok sent => cases hrefused
      | error error =>
        obtain rfl := Except.error.inj hrefused
        by_contra hother
        exact h ⟨failure, db', hrun, hother⟩
  · have hfresh : ∀ line ∈ ready, ¬ db.HasInvited tenant (line.invited ports) (drawn.clock 0) :=
      fun line hline => (fresh_of_mem_readyLines hline).2
    constructor
    · intro h hgoes
      obtain ⟨table, hrows⟩ := exists_table_of_goes hgoes
      have hrun : (sendEach ports tenant role ready).run database db =
          (.ok (sentOf ports tenant role ready), { db with tokens := table }) :=
        sendEach_eq_ok_iff.2 ⟨hgoes, rfl, table, hrows, rfl⟩
      rw [hrun] at hdone
      obtain ⟨-, -, hdistinct, heach⟩ := h _ (congrArg Prod.fst hdone)
      rw [hdone] at heach
      rw [map_mail_sentOf hgoes.exists_link] at hdistinct
      exact (one_live_each_iff hgoes.exists_link hrows hfresh).1
        ⟨hdistinct, fun sent hsent => (heach sent hsent).1⟩
    · intro h result hresult
      rcases hrun : (sendEach ports tenant role ready).run database db with ⟨outcome, db'⟩
      rw [hrun] at hdone
      cases outcome with
      | error error => rw [hdone] at hresult; cases hresult
      | ok sent =>
        obtain ⟨hgoes, rfl, table, hrows, rfl⟩ := sendEach_eq_ok_iff.1 hrun
        rw [hdone] at hresult
        obtain rfl := Except.ok.inj hresult
        obtain ⟨hdistinct, heach⟩ :=
          (one_live_each_iff hgoes.exists_link hrows hfresh).2 (h hgoes)
        have hjudged : (ready.map (·.mail)) = _ := map_mail_dispatches settings _ 0
        rw [List.map_map] at hjudged
        have hmails := map_mail_sentOf hgoes.exists_link
        refine ⟨by rw [List.map_map]; rfl, hmails.trans hjudged, hmails.symm ▸ hdistinct, ?_⟩
        intro sent hsent
        obtain ⟨line, hline, link, -, rfl⟩ := mem_sentOf.1 hsent
        rw [hdone]
        exact ⟨heach _ hsent, fresh_of_mem_readyLines hline⟩

theorem not_sendsAllOrNothing {lines : List Contact} {outcome : Except Fault InvitationRun}
    {db' : Database} (failure : Error) (hrefused : outcome = .error (.refused failure))
    (hchanged : db'.tokens.rows ≠ db.tokens.rows) :
    ¬ SendsAllOrNothing ports tenant now lines db outcome db' := by
  rintro ⟨hkept, -⟩
  exact hchanged (by rw [hkept failure hrefused])

/-- A ready line made by hand. -/
def handMadeLine (mail : Email) (byte : UInt8) : Contact × Drawn :=
  (⟨mail.value, some mail, .ready⟩, drawnAt 30 byte)

/-- One mail twice. -/
def sameMailTwice : List (Contact × Drawn) := [handMadeLine childMail 1, handMadeLine childMail 2]

/-- Two mails. -/
def twoMails : List (Contact × Drawn) :=
  [handMadeLine childMail 1, handMadeLine (mailOf (ascii "d@b.c")) 2]

/-- Settings that are turned over on the way: from the second reading on no lifetimes are found. -/
def brokenLifetimes (turn : Nat) : AuthSettings :=
  if turn = 0 then standIn.settings
  else { standIn.settings with lifetimes := AuthLifetimes.compose 0 0 0 }

/-- With the same mail twice the second line finds the invitation of the first. And two mails are
sent while the settings break. Both lists are refused with an invitation in the table. -/
theorem list_breaks_off :
    (let done := (inviteMany standIn (drawnAt 30 9) (repeated 7) .student sameMailTwice).run
      database {}
    ¬ SendsAllOrNothing standIn (repeated 7) 30 (sameMailTwice.map (·.1)) {} done.1 done.2) ∧
    (let done := (inviteManyUnder brokenLifetimes standIn (drawnAt 30 9) (repeated 7) .student
      twoMails).run database {}
    ¬ SendsAllOrNothing standIn (repeated 7) 30 (twoMails.map (·.1)) {} done.1 done.2) := by
  constructor
  · refine not_sendsAllOrNothing invitationAlreadyLive ?_ ?_
    · decide +kernel
    · decide +kernel
  · refine not_sendsAllOrNothing ⟨.validation, "auth_lifetime_not_positive",
      "срок, истёкший в момент выдачи, ничего не открывает"⟩ ?_ ?_
    · decide +kernel
    · decide +kernel

end Whole

end Pdr.Identity
