import Pdr.Identity.Application.LetterSteps

/-!
# One letter at a time, and each link once

Three scenarios send invitations, one sends links to reset a password, and two follow links.
All six work on one table of tokens. In a run of them nobody has two usable invitations to one
tenant, and a link works at most once: before its term, in its own tenant and for its own
purpose. Whatever else becomes of a call, it leaves every token as it was.

## Main definitions

* `Pdr.Identity.letters`: the machine of the six scenarios.
* `Pdr.Identity.workedLink`: the link that a turn followed with success.
* `Pdr.Identity.IsOrderly`: the clock goes forward and no secret is drawn twice.

## Main results

* `Pdr.Identity.turnEnds`: what a turn does to the tokens and to the sessions.
* `Pdr.Identity.no_two_live_letters`: what holds in every run.
-/

namespace Pdr.Identity

open StoreProgram Program

/-! ### The scenarios of letters -/

/-- What is asked for. A list to be invited comes with what each of its lines will draw. -/
inductive LetterIntent where
  | inviteParticipant (tenant : TenantId) (role : Role) (addressee : Option Email)
  | inviteMany (tenant : TenantId) (role : Role) (lines : List (Contact × Drawn))
  | attachAccount (tenant : TenantId) (child : PersonId) (mail : Email)
  | acceptInvitation (request : AcceptInvitationRequest)
  | requestPasswordReset (tenant : TenantId) (mail : Email)
  | resetPassword (request : ResetPasswordRequest)

/-- What a scenario returns. -/
@[reducible] def LetterIntent.Value : LetterIntent → Type
  | inviteParticipant .. | attachAccount .. => IssuedLink
  | inviteMany .. => InvitationRun
  | acceptInvitation _ | resetPassword _ => Session
  | requestPasswordReset .. => Option IssuedLink

/-- An intent with what its execution is given from outside. -/
structure LetterOrder where
  settings : AuthSettings
  drawn : Drawn
  intent : LetterIntent

namespace LetterOrder

/-- What an order returns. -/
abbrev Value (order : LetterOrder) : Type := order.intent.Value

/-- The scenario of an order. -/
def scenario (digests : Digests) (hasher : PasswordHasher) (order : LetterOrder) :
    Scenario order.Value :=
  let ports : AuthPorts := ⟨order.settings, digests, hasher⟩
  match order with
  | ⟨_, drawn, .inviteParticipant tenant role addressee⟩ =>
    inviteParticipant ports drawn tenant role addressee
  | ⟨_, drawn, .inviteMany tenant role lines⟩ => inviteMany ports drawn tenant role lines
  | ⟨_, drawn, .attachAccount tenant child mail⟩ => attachAccount ports drawn tenant child mail
  | ⟨_, drawn, .acceptInvitation request⟩ => acceptInvitation ports drawn request
  | ⟨_, drawn, .requestPasswordReset tenant mail⟩ => requestPasswordReset ports drawn tenant mail
  | ⟨_, drawn, .resetPassword request⟩ => resetPassword ports drawn request

/-- The clock of an execution, in the order in which it is read. -/
def readings (order : LetterOrder) : List Int :=
  match order.intent with
  | .inviteParticipant .. => [order.drawn.clock 0, order.drawn.clock 1]
  | .inviteMany _ _ lines =>
    order.drawn.clock 0 :: lines.flatMap fun line => [line.2.clock 0, line.2.clock 1]
  | .attachAccount .. => [order.drawn.clock 0, order.drawn.clock 1, order.drawn.clock 2]
  | .acceptInvitation _ | .requestPasswordReset .. | .resetPassword _ => [order.drawn.clock 0]

/-- The texts of the secrets that an execution draws for its letters. -/
def tokenTexts (order : LetterOrder) : List Text :=
  match order.intent with
  | .inviteParticipant .. | .attachAccount .. | .requestPasswordReset .. =>
    [order.drawn.tokenText]
  | .inviteMany _ _ lines => lines.map (·.2.tokenText)
  | .acceptInvitation _ | .resetPassword _ => []

end LetterOrder

/-- The scenarios as a machine over the store. -/
def letters (digests : Digests) (hasher : PasswordHasher) :
    Machine LetterOrder.Value Fault Database :=
  database.whole (LetterOrder.scenario digests hasher)

/-- A turn of a sequential run. -/
abbrev LetterTurn : Type := Turn LetterOrder.Value Fault Database

/-- The link that an order follows. -/
def LetterOrder.link (digests : Digests) (order : LetterOrder) : Option FollowedLink :=
  match order.intent with
  | .acceptInvitation request =>
    some ⟨request.tenant, .invitation, digests request.secret.value, order.drawn.clock 0⟩
  | .resetPassword request =>
    some ⟨request.tenant, .passwordReset, digests request.secret.value, order.drawn.clock 0⟩
  | _ => none

/-- The link that a turn followed with success. -/
def workedLink (digests : Digests) (t : LetterTurn) : Option FollowedLink :=
  match t.entry.answer with
  | .ok _ => t.entry.op.link digests
  | .error _ => none

/-- The turn followed the link of this token with success. -/
def opens (digests : Digests) (token : OneTimeToken) (t : LetterTurn) : Bool :=
  (workedLink digests t).any (·.secret = token.secret)

theorem opens_eq_true {digests : Digests} {token : OneTimeToken} {t : LetterTurn} :
    opens digests token t = true ↔
      ∃ link, workedLink digests t = some link ∧ link.secret = token.secret := by
  simp [opens, Option.any_eq_true]

/-- What the clock answers in a run of orders. -/
def readingsOf (orders : List LetterOrder) : List Int := orders.flatMap LetterOrder.readings

/-- The fingerprints of the secrets that a run of orders draws for its letters. -/
def secretsOf (digests : Digests) (orders : List LetterOrder) : List Digest :=
  (orders.flatMap LetterOrder.tokenTexts).map digests

@[simp] theorem readingsOf_append (early late : List LetterOrder) :
    readingsOf (early ++ late) = readingsOf early ++ readingsOf late :=
  List.flatMap_append

@[simp] theorem readingsOf_cons (order : LetterOrder) (late : List LetterOrder) :
    readingsOf (order :: late) = order.readings ++ readingsOf late :=
  List.flatMap_cons

@[simp] theorem secretsOf_append (digests : Digests) (early late : List LetterOrder) :
    secretsOf digests (early ++ late) = secretsOf digests early ++ secretsOf digests late := by
  simp [secretsOf]

@[simp] theorem secretsOf_cons (digests : Digests) (order : LetterOrder) (late : List LetterOrder) :
    secretsOf digests (order :: late) =
      order.tokenTexts.map digests ++ secretsOf digests late := by
  simp [secretsOf]

/-- The clock goes forward, beginning no earlier than the sessions of the store, and no secret of
a letter is drawn twice or was drawn before. -/
structure IsOrderly (digests : Digests) (db : Database) (orders : List LetterOrder) : Prop where
  clock : (readingsOf orders).Pairwise (· ≤ ·)
  sessions : ∀ row ∈ db.sessions.rows, ∀ moment ∈ readingsOf orders, row.createdAt ≤ moment
  fresh : (secretsOf digests orders).Nodup
  unknown : ∀ row ∈ db.tokens.rows, row.secret ∉ secretsOf digests orders

/-! ### A turn -/

/-- How a turn ends: letters are sent and no link works, or one link works. -/
inductive TurnEnds (digests : Digests) (t : LetterTurn) : Prop
  | sends (none_worked : workedLink digests t = none)
      (sent : SendsOnly digests t.entry.op.tokenTexts t.before t.after)
  | spends {link : FollowedLink} {found : OneTimeToken} (worked : workedLink digests t = some link)
      (tenant : found.tenant = link.tenant) (purpose : found.purpose = link.purpose)
      (secret : found.secret = link.secret)
      (spent : SpendsLetter found link.moment t.before.tokens t.after.tokens)
      (read : link.moment ∈ t.entry.op.readings)
      (opened : OpenedAt link.moment t.before t.after)

section Turns

variable {digests : Digests} {hasher : PasswordHasher} {t : LetterTurn}

/-- A turn that cannot follow a link sends what its scenario sends. -/
theorem TurnEnds.of_sends {order : LetterOrder} {answer : Except Fault order.Value}
    {db db' : Database} (hlink : order.link digests = none)
    (hsent : (order.scenario digests hasher).Yields database
      (fun _ db' => SendsOnly digests order.tokenTexts db db') db)
    (hexec : (letters digests hasher).exec order db = (answer, db')) :
    TurnEnds digests ⟨(), ⟨order, answer⟩, db, db'⟩ := by
  refine .sends ?_ (hsent.of_run hexec)
  cases answer with
  | ok value => exact hlink
  | error fault => rfl

/-- A turn that follows a link fails, and then sends nothing, or spends the link. -/
theorem TurnEnds.of_follow {order : LetterOrder} {answer : Except Fault order.Value}
    {db db' : Database} {link : FollowedLink} (hlink : order.link digests = some link)
    (hread : link.moment ∈ order.readings)
    (hends : FollowEnds link db answer db') : TurnEnds digests ⟨(), ⟨order, answer⟩, db, db'⟩ := by
  cases hends with
  | failed tokens sessions =>
    refine .sends rfl ⟨?_, sessions⟩
    show SendsLetters digests _ db.tokens db'.tokens
    rw [tokens]
    exact .nothing _ db.tokens
  | worked tenant purpose secret spent opened =>
    exact .spends hlink tenant purpose secret spent hread opened

/-- **A turn by a clock that goes forward**, from its sessions on. -/
theorem turnEnds
    (hexec : (letters digests hasher).exec t.entry.op t.before = (t.entry.answer, t.after))
    (hclock : t.entry.op.readings.Pairwise (· ≤ ·))
    (hsessions : ∀ row ∈ t.before.sessions.rows, ∀ moment ∈ t.entry.op.readings,
      row.createdAt ≤ moment) : TurnEnds digests t := by
  obtain ⟨⟨⟩, ⟨⟨settings, drawn, intent⟩, answer⟩, before, after⟩ := t
  cases intent with
  | inviteParticipant tenant role addressee =>
    have hforward : drawn.clock 0 ≤ drawn.clock 1 := List.rel_of_pairwise_cons hclock (by simp)
    exact .of_sends rfl (sends_inviteParticipant ⟨settings, digests, hasher⟩ hforward) hexec
  | inviteMany tenant role lines =>
    have hforward : ∀ line ∈ lines, line.2.clock 0 ≤ line.2.clock 1 := by
      intro line hline
      have hlines := (List.pairwise_flatMap.1 (List.pairwise_cons.1 hclock).2).1
      exact List.rel_of_pairwise_cons (hlines line hline) (by simp)
    exact .of_sends rfl (sends_inviteMany ⟨settings, digests, hasher⟩ hforward) hexec
  | attachAccount tenant child mail =>
    have hforward : drawn.clock 1 ≤ drawn.clock 2 :=
      List.rel_of_pairwise_cons (List.pairwise_cons.1 hclock).2 (by simp)
    exact .of_sends rfl (sends_attachAccount ⟨settings, digests, hasher⟩ hforward) hexec
  | requestPasswordReset tenant mail =>
    exact .of_sends rfl (sends_requestPasswordReset ⟨settings, digests, hasher⟩) hexec
  | acceptInvitation request =>
    exact .of_follow rfl (by exact List.mem_cons_self)
      ((follow_acceptInvitation request).of_run hexec)
  | resetPassword request =>
    have hforward : ∀ row ∈ before.sessions.rows, row.createdAt ≤ drawn.clock 0 :=
      fun row hrow => hsessions row hrow _ List.mem_cons_self
    exact .of_follow rfl (by exact List.mem_cons_self)
      ((follow_resetPassword request hforward).of_run hexec)

/-- A turn leaves every token but the one whose link it followed with success. -/
theorem TurnEnds.kept (h : TurnEnds digests t) {row : OneTimeToken}
    (hrow : row ∈ t.before.tokens.rows) (hother : opens digests row t = false) :
    row ∈ t.after.tokens.rows := by
  cases h with
  | sends _ sent => exact sent.tokens.kept row hrow
  | @spends link found worked _ _ secret spent _ _ =>
    refine (spent.mem_iff row).2 (Or.inl ⟨hrow, fun hsame => ?_⟩)
    rw [opens, worked, Option.any_some, hsame] at hother
    exact of_decide_eq_false hother secret.symm

end Turns

/-! ### A run -/

/-- An order after others: its readings are no earlier than theirs, and it draws new secrets. -/
structure IsNext (digests : Digests) (db : Database) (earlier : List LetterOrder)
    (order : LetterOrder) : Prop where
  clock : order.readings.Pairwise (· ≤ ·)
  later : ∀ earlierMoment ∈ readingsOf earlier, ∀ moment ∈ order.readings, earlierMoment ≤ moment
  sessions : ∀ row ∈ db.sessions.rows, ∀ moment ∈ order.readings, row.createdAt ≤ moment
  distinct : (order.tokenTexts.map digests).Nodup
  fresh : ∀ secret ∈ secretsOf digests earlier, secret ∉ order.tokenTexts.map digests
  unknown : ∀ row ∈ db.tokens.rows, row.secret ∉ order.tokenTexts.map digests

theorem IsOrderly.isNext {digests : Digests} {db : Database} {early late : List LetterOrder}
    {order : LetterOrder} (h : IsOrderly digests db (early ++ order :: late)) :
    IsNext digests db early order := by
  obtain ⟨hclock, hsessions, hfresh, hunknown⟩ := h
  rw [readingsOf_append, readingsOf_cons, List.pairwise_append, List.pairwise_append] at hclock
  rw [secretsOf_append, secretsOf_cons, List.nodup_append, List.nodup_append] at hfresh
  refine ⟨hclock.2.1.1, fun earlier hearlier moment hmoment => ?_,
    fun row hrow moment hmoment => ?_, hfresh.2.1.1, fun secret hsecret hagain => ?_,
    fun row hrow hsecret => ?_⟩
  · exact hclock.2.2 earlier hearlier moment (List.mem_append_left _ hmoment)
  · exact hsessions row hrow moment (by simp [hmoment])
  · exact hfresh.2.2 secret hsecret secret (List.mem_append_left _ hagain) rfl
  · refine hunknown row hrow ?_
    rw [secretsOf_append, secretsOf_cons]
    exact List.mem_append_right _ (List.mem_append_left _ hsecret)

/-- The row of a token that was spent by this link. -/
structure IsSpentBy (link : FollowedLink) (row : OneTimeToken) : Prop where
  tenant : row.tenant = link.tenant
  purpose : row.purpose = link.purpose
  secret : row.secret = link.secret
  inTime : link.moment < row.expiresAt
  used : row.usedAt.isSome = true

/-- What holds in a run after these turns. -/
structure LettersAfter (digests : Digests) (start : Database) (seen : List LetterTurn)
    (db : Database) : Prop where
  inOrder : LettersInOrder db.tokens
  secrets : ∀ row ∈ db.tokens.rows, (∃ old ∈ start.tokens.rows, row.secret = old.secret) ∨
    row.secret ∈ secretsOf digests (seen.map (·.entry.op))
  sessions : ∀ row ∈ db.sessions.rows,
    (∃ old ∈ start.sessions.rows, row.createdAt = old.createdAt) ∨
      row.createdAt ∈ readingsOf (seen.map (·.entry.op))
  spent : ∀ t ∈ seen, ∀ link, workedLink digests t = some link →
    ∃ row ∈ db.tokens.rows, IsSpentBy link row
  once : seen.Pairwise fun t u => ∀ link later, workedLink digests t = some link →
    workedLink digests u = some later → link.secret ≠ later.secret

section Runs

variable {digests : Digests} {hasher : PasswordHasher} {start : Database} {t : LetterTurn}
  {seen : List LetterTurn}

/-- One more turn by which no link works. -/
theorem LettersAfter.sends (h : LettersAfter digests start seen t.before)
    (hnext : IsNext digests start (seen.map (·.entry.op)) t.entry.op)
    (hnone : workedLink digests t = none)
    (hsent : SendsOnly digests t.entry.op.tokenTexts t.before t.after) :
    LettersAfter digests start (seen ++ [t]) t.after := by
  have hnew : ∀ row ∈ t.before.tokens.rows,
      row.secret ∉ t.entry.op.tokenTexts.map digests := by
    intro row hrow hsecret
    rcases h.secrets row hrow with ⟨old, hold, hsame⟩ | hdrawn
    · exact hnext.unknown old hold (hsame ▸ hsecret)
    · exact hnext.fresh row.secret hdrawn hsecret
  refine ⟨hsent.tokens.inOrder hnext.distinct hnew h.inOrder, fun row hrow => ?_,
    fun row hrow => ?_, fun u hu link hlink => ?_, ?_⟩
  · rw [List.map_append, List.map_cons, secretsOf_append, secretsOf_cons]
    rcases hsent.tokens.cases row hrow with hold | hsecret
    · exact (h.secrets row hold).imp_right (List.mem_append_left _)
    · exact Or.inr (List.mem_append_right _ (List.mem_append_left _ hsecret))
  · rw [List.map_append, readingsOf_append]
    rw [hsent.sessions] at hrow
    exact (h.sessions row hrow).imp_right (List.mem_append_left _)
  · rcases List.mem_append.1 hu with hseen | hlast
    · obtain ⟨row, hrow, hspent⟩ := h.spent u hseen link hlink
      exact ⟨row, hsent.tokens.kept row hrow, hspent⟩
    · rw [List.mem_singleton.1 hlast, hnone] at hlink
      cases hlink
  · refine List.pairwise_append.2 ⟨h.once, List.pairwise_singleton _ _, ?_⟩
    intro u _ v hv link later _ hlater
    rw [List.mem_singleton.1 hv, hnone] at hlater
    cases hlater

/-- One more turn, by which a link works. -/
theorem LettersAfter.spends {link : FollowedLink} {found : OneTimeToken}
    (h : LettersAfter digests start seen t.before) (hworked : workedLink digests t = some link)
    (hspent : SpendsLetter found link.moment t.before.tokens t.after.tokens)
    (hrow : IsSpentBy link { found with usedAt := some link.moment })
    (hread : link.moment ∈ t.entry.op.readings)
    (hopened : OpenedAt link.moment t.before t.after) :
    LettersAfter digests start (seen ++ [t]) t.after := by
  refine ⟨hspent.inOrder h.inOrder, fun row hrow => ?_, fun row hrow => ?_,
    fun u hu other hother => ?_, List.pairwise_append.2 ⟨h.once, List.pairwise_singleton _ _, ?_⟩⟩
  · obtain ⟨old, hold, hsame⟩ := hspent.exists_secret row hrow
    rw [hsame, List.map_append, secretsOf_append]
    exact (h.secrets old hold).imp_right (List.mem_append_left _)
  · rw [List.map_append, readingsOf_append]
    rcases hopened row hrow with hnow | ⟨old, hold, hsame⟩
    · exact Or.inr (List.mem_append_right _ (List.mem_append_left _ (hnow ▸ hread)))
    · rw [hsame]
      exact (h.sessions old hold).imp_right (List.mem_append_left _)
  · rcases List.mem_append.1 hu with hseen | hlast
    · obtain ⟨row, hstored, hused⟩ := h.spent u hseen other hother
      refine ⟨row, (hspent.mem_iff row).2 (Or.inl ⟨hstored, fun hsame => ?_⟩), hused⟩
      have hunused := hused.used
      rw [hsame, hspent.usedAt_eq_none] at hunused
      cases hunused
    · rw [List.mem_singleton.1 hlast, hworked] at hother
      obtain rfl := Option.some.inj hother
      exact ⟨_, (hspent.mem_iff _).2 (Or.inr rfl), hrow⟩
  · -- A token that was spent before is used, and the one found now is not.
    intro u hu v hv earlier later hearlier hlater hsame
    rw [List.mem_singleton.1 hv, hworked] at hlater
    obtain rfl := Option.some.inj hlater
    obtain ⟨row, hstored, hused⟩ := h.spent u hu earlier hearlier
    have hfound : row = found :=
      h.inOrder.apart row hstored found hspent.stored
        (hused.secret.trans (hsame.trans hrow.secret.symm))
    have hunused := hused.used
    rw [hfound, hspent.usedAt_eq_none] at hunused
    cases hunused

/-- **One more turn.** -/
theorem LettersAfter.turn (h : LettersAfter digests start seen t.before)
    (hnext : IsNext digests start (seen.map (·.entry.op)) t.entry.op)
    (hexec : (letters digests hasher).exec t.entry.op t.before = (t.entry.answer, t.after)) :
    TurnEnds digests t ∧ LettersAfter digests start (seen ++ [t]) t.after := by
  have hsessions : ∀ row ∈ t.before.sessions.rows, ∀ moment ∈ t.entry.op.readings,
      row.createdAt ≤ moment := by
    intro row hrow moment hmoment
    rcases h.sessions row hrow with ⟨old, hold, hsame⟩ | hread
    · exact hsame ▸ hnext.sessions old hold moment hmoment
    · exact hnext.later _ hread moment hmoment
  have hends := turnEnds hexec hnext.clock hsessions
  refine ⟨hends, ?_⟩
  cases hends with
  | sends none_worked sent => exact h.sends hnext none_worked sent
  | spends worked tenant purpose secret spent read opened =>
    have hterm := (OneTimeToken.isUsableAt_eq_true.1 spent.usable).2
    exact h.spends worked spent ⟨tenant, purpose, secret, hterm, rfl⟩ read opened

/-- **A run of them.** Each turn sends letters or spends one link, and the tokens stay in order. -/
theorem lettersAfter_of_linked {steps : List LetterTurn} {db' : Database}
    (hrun : Linked (letters digests hasher) start steps db') (hstart : LettersInOrder start.tokens)
    (horderly : IsOrderly digests start (steps.map (·.entry.op))) :
    LettersAfter digests start steps db' ∧
      ∀ t ∈ steps, TurnEnds digests t ∧ LettersInOrder t.after.tokens := by
  have hempty : LettersAfter digests start [] start :=
    ⟨hstart, fun row hrow => Or.inl ⟨row, hrow, rfl⟩, fun row hrow => Or.inl ⟨row, hrow, rfl⟩,
      fun _ ht => absurd ht List.not_mem_nil, .nil⟩
  refine hrun.prefixes (H := fun seen db => LettersAfter digests start seen db ∧
    ∀ t ∈ seen, TurnEnds digests t ∧ LettersInOrder t.after.tokens)
    ⟨hempty, fun _ ht => absurd ht List.not_mem_nil⟩ ?_
  rintro early t late rfl hprefix
  obtain ⟨hbefore, hearly⟩ := hprefix early t [] rfl
  rw [List.map_append, List.map_cons] at horderly
  obtain ⟨hends, hafter⟩ := hbefore.turn horderly.isNext hrun.split.2.1
  refine ⟨hafter, fun u hu => ?_⟩
  rcases List.mem_append.1 hu with hseen | hlast
  · exact hearly u hseen
  · rw [List.mem_singleton.1 hlast]
    exact ⟨hends, hafter.inOrder⟩

/-- **Nobody gets two live letters, and a link is spent once.** In a sequential run of the six
scenarios the clock goes forward and secrets are fresh. Then after every turn, of the invitations
to one mail in one tenant at most one is usable at any moment by which both were sent. Of every
token at most one turn followed the link with success, before its term, in its own tenant and for
its own purpose. A turn that failed left every token as it was, and so did every other turn that
did not follow its link with success. -/
theorem no_two_live_letters {steps : List LetterTurn} {db' : Database}
    (hrun : Linked (letters digests hasher) start steps db') (hstart : LettersInOrder start.tokens)
    (horderly : IsOrderly digests start (steps.map (·.entry.op))) :
    (∀ t ∈ steps, ∀ a ∈ t.after.tokens.rows, ∀ b ∈ t.after.tokens.rows, ∀ tenant mail,
      a.Invites tenant mail → b.Invites tenant mail →
        ∀ moment, a.createdAt ≤ moment → b.createdAt ≤ moment →
          a.isUsableAt moment = true → b.isUsableAt moment = true → a = b) ∧
    (∀ token ∈ db'.tokens.rows, steps.countP (opens digests token) ≤ 1 ∧
      ∀ t ∈ steps, ∀ link, workedLink digests t = some link → link.secret = token.secret →
        link.tenant = token.tenant ∧ link.purpose = token.purpose ∧
          link.moment < token.expiresAt) ∧
    (∀ t ∈ steps, ∀ row ∈ t.before.tokens.rows,
      ((∃ fault, t.entry.answer = .error fault) ∨ opens digests row t = false) →
        row ∈ t.after.tokens.rows) := by
  obtain ⟨hafter, hturns⟩ := lettersAfter_of_linked hrun hstart horderly
  refine ⟨fun t ht => (hturns t ht).2.oneUsable, fun token htoken => ⟨?_, ?_⟩, ?_⟩
  · refine countP_le_one (hafter.once.imp fun hdiffer hfirst => ?_)
    refine Bool.eq_false_iff.2 fun hagain => ?_
    obtain ⟨link, hlink, hsecret⟩ := opens_eq_true.1 hfirst
    obtain ⟨later, hlater, hsame⟩ := opens_eq_true.1 hagain
    exact hdiffer link later hlink hlater (hsecret.trans hsame.symm)
  · intro t ht link hlink hsecret
    obtain ⟨row, hrow, hspent⟩ := hafter.spent t ht link hlink
    obtain rfl : row = token :=
      hafter.inOrder.apart row hrow token htoken (hspent.secret.trans hsecret)
    exact ⟨hspent.tenant.symm, hspent.purpose.symm, hspent.inTime⟩
  · rintro t ht row hrow (⟨fault, hfailed⟩ | hother)
    · refine (hturns t ht).1.kept hrow ?_
      rw [opens, workedLink, hfailed]
      rfl
    · exact (hturns t ht).1.kept hrow hother

end Runs

/-! ### An invitation that is followed three times -/

/-- The child follows the link with a password. -/
def childFollows (now : Int) (byte : UInt8) (password : Text) : LetterOrder :=
  ⟨standIn.settings, drawnAt now byte, .acceptInvitation { childAccepts with password }⟩

/-- The child is invited, shows a short password, a good one, and follows the link again. -/
def childOrders : List LetterOrder :=
  [⟨standIn.settings, drawnAt 10 3, .inviteParticipant (repeated 7) .student (some childMail)⟩,
    childFollows 20 4 (ascii "short"), childFollows 30 5 (ascii "password"),
    childFollows 40 6 (ascii "password")]

/-- The orders about the child, one after another. -/
def childPlayed : List LetterTurn × Database :=
  turns (letters standIn.digests standIn.hasher) childOrders {}

/-- The invitation of the child, used at moment 30. -/
def childSpent : OneTimeToken :=
  ⟨repeated 3, repeated 7, standInDigest childSecret.value, .invitation, some .student, none,
    some (standInDigest childMail.value), 10, 3600000010, some 30, points_invitation .student⟩

theorem childOrders_orderly :
    IsOrderly standIn.digests {} (childPlayed.1.map (·.entry.op)) := by
  rw [childPlayed, turns_ops]
  exact ⟨by decide, fun row hrow => absurd hrow List.not_mem_nil, by decide +kernel,
    fun row hrow => absurd hrow List.not_mem_nil⟩

/-- The short password is refused and leaves the invitation, the good one spends it, and then it
is of no use. -/
theorem child_is_let_in_once :
    childPlayed.1.map (opens standIn.digests childSpent) = [false, false, true, false] ∧
      childSpent ∈ childPlayed.2.tokens.rows ∧
      childPlayed.1.countP (opens standIn.digests childSpent) ≤ 1 ∧
      ∀ t ∈ childPlayed.1, ∀ row ∈ t.before.tokens.rows,
        (∃ fault, t.entry.answer = .error fault) → row ∈ t.after.tokens.rows := by
  have hspent : childSpent ∈ childPlayed.2.tokens.rows := by decide +kernel
  obtain ⟨-, honce, hkept⟩ := no_two_live_letters (turns_linked _ childOrders {})
    lettersInOrder_empty childOrders_orderly
  exact ⟨by decide +kernel, hspent, (honce childSpent hspent).1,
    fun t ht row hrow hfailed => hkept t ht row hrow (Or.inl hfailed)⟩

end Pdr.Identity
