import Pdr.Identity.Store.Database

/-!
# What the calls do to the tables

One lemma for each table says what any call whatsoever may do to its rows; a law about a
whole run needs nothing more about the calls. A call of one port leaves the tables of the
others alone, so each lemma looks into the calls of its own port only.

## Main results

* `Pdr.Identity.Database.token_becomes`: a token stays, and once used stays used.
* `Pdr.Identity.Database.isUsed_of_markUsed`: a burnt token is used.
* `Pdr.Identity.Database.enrol_ne_ok_of_hasPerson`: nobody is enrolled twice under one
  identifier.
-/

namespace Pdr.Identity

open StoreProgram

@[simp] theorem commit_snd {Row : Type} [Schema Row] (name : String) (table : Table Row)
    (outcome : Option (Table Row)) : (commit name table outcome).2 = outcome.getD table := by
  cases outcome <;> rfl

theorem commit_fst_ok {Row : Type} [Schema Row] {name : String} {table : Table Row}
    {outcome : Option (Table Row)} {answer : Unit}
    (h : (commit name table outcome).1 = .ok answer) :
    outcome = some (commit name table outcome).2 := by
  cases outcome with
  | none => cases h
  | some table' => rfl

/-- A statement leaves the table it gives, or fails and leaves the table that was there. -/
theorem commit_eq {Row : Type} [Schema Row] {name : String} {table table' : Table Row}
    {outcome : Option (Table Row)} {answer : Except Fault Unit}
    (h : commit name table outcome = (answer, table')) :
    (answer = .ok () ∧ outcome = some table') ∨
      (answer = .error (.thrown (.schemaViolation name)) ∧ table' = table) := by
  cases outcome with
  | none =>
    obtain ⟨rfl, rfl⟩ := Prod.mk.inj h
    exact Or.inr ⟨rfl, rfl⟩
  | some given =>
    obtain ⟨rfl, rfl⟩ := Prod.mk.inj h
    exact Or.inl ⟨rfl, rfl⟩

theorem commit_fst_ne_refused {Row : Type} [Schema Row] (name : String) (table : Table Row)
    (outcome : Option (Table Row)) (error : Error) :
    (commit name table outcome).1 ≠ .error (.refused error) := by
  cases outcome <;> simp [commit]

/-- A store throws; it never refuses. -/
theorem exec_ne_refused (call : Call) (db : Database) (error : Error) :
    (database.exec call db).1 ≠ .error (.refused error) := by
  cases call with
  | tokens call =>
    cases call <;> first | exact commit_fst_ne_refused _ _ _ _ | simp [TokenCall.exec]
  | accounts call =>
    cases call <;> first | exact commit_fst_ne_refused _ _ _ _ | simp [AccountCall.exec]
  | directory call =>
    cases call with
    | enrol tenant enrolment roleIds =>
      simp only [exec_directory, DirectoryCall.exec]
      split
      · simp
      · simp
      · split <;> simp
    | _ => simp [DirectoryCall.exec]
  | credentials call =>
    cases call <;> first | exact commit_fst_ne_refused _ _ _ _ | simp [CredentialCall.exec]
  | sessions call =>
    cases call <;> first | exact commit_fst_ne_refused _ _ _ _ | simp [SessionCall.exec]
  | attempts call =>
    cases call with
    | register tenant subject of at_ window =>
      simp only [exec_attempts, AttemptCall.exec]
      split <;> simp
    | _ => simp [AttemptCall.exec]
  | guardianships call =>
    cases call <;> first | exact commit_fst_ne_refused _ _ _ _ | simp [GuardianshipCall.exec]
  | consents call =>
    cases call <;> first | exact commit_fst_ne_refused _ _ _ _ | simp [ConsentCall.exec]
  | practices call =>
    cases call with
    | open_ tenant zone practice =>
      simp only [exec_practices, PracticeCall.exec]
      split <;> simp
    | find tenant => simp [PracticeCall.exec]
  | signups call =>
    cases call <;> first | exact commit_fst_ne_refused _ _ _ _ | simp [SignupCall.exec]

theorem run_ask_ne_refused (call : Call) (db db' : Database) (error : Error) :
    (ask call).run database db ≠ (.error (.refused error), db') := by
  intro h
  rw [Program.run_perform] at h
  exact exec_ne_refused call db error (congrArg Prod.fst h)

/-! ### Tokens -/

/-- `later` is the row `token` after some time: only the moment of use may be new, and one
that was set stays. -/
def OneTimeToken.Becomes (token later : OneTimeToken) : Prop :=
  (∃ usedAt, later = { token with usedAt }) ∧
    (token.usedAt.isSome = true → later.usedAt = token.usedAt)

theorem OneTimeToken.Becomes.refl (token : OneTimeToken) : token.Becomes token :=
  ⟨⟨token.usedAt, rfl⟩, fun _ => rfl⟩

theorem OneTimeToken.Becomes.trans {first second third : OneTimeToken}
    (h₁ : first.Becomes second) (h₂ : second.Becomes third) : first.Becomes third := by
  obtain ⟨⟨usedAt₁, rfl⟩, hsame₁⟩ := h₁
  obtain ⟨⟨usedAt₂, rfl⟩, hsame₂⟩ := h₂
  refine ⟨⟨usedAt₂, rfl⟩, fun hused => ?_⟩
  have hsame := hsame₁ hused
  rw [hsame₂ (by rw [hsame]; exact hused), hsame]

theorem OneTimeToken.Becomes.usedAt_eq_none {token later : OneTimeToken}
    (h : token.Becomes later) (hunused : later.usedAt = none) : token.usedAt = none := by
  by_contra hused
  have hsame := h.2 (Option.isSome_iff_ne_none.2 hused)
  rw [hunused] at hsame
  exact hused hsame.symm

namespace TokenCall

/-- Whatever is called, a stored token stays. -/
theorem becomes (call : TokenCall) (table : Table OneTimeToken) {row : OneTimeToken}
    (hrow : row ∈ table.rows) : ∃ later ∈ (call.exec table).2.rows, row.Becomes later := by
  cases call with
  | find tenant secret => exact ⟨row, hrow, .refl row⟩
  | liveInvitationTo tenant invited now => exact ⟨row, hrow, .refl row⟩
  | issue token =>
    rw [exec, commit_snd]
    cases hissued : table.insert token with
    | none => exact ⟨row, hrow, .refl row⟩
    | some table' => exact ⟨row, (Table.mem_insert hissued row).2 (Or.inl hrow), .refl row⟩
  | markUsed token =>
    rw [exec, commit_snd]
    cases hmarked : table.updateWhere _ _ with
    | none => exact ⟨row, hrow, .refl row⟩
    | some table' =>
      refine ⟨_, Table.keeps_mem_of_updateWhere hmarked hrow, ?_⟩
      split
      · rename_i hchosen
        refine ⟨⟨token.usedAt, rfl⟩, fun hused => ?_⟩
        simp [Option.isSome_iff_ne_none.1 hused] at hchosen
      · exact .refl row

end TokenCall

namespace Database

theorem token_becomes (call : Call) (db : Database) {row : OneTimeToken}
    (hrow : row ∈ db.tokens.rows) :
    ∃ later ∈ (database.exec call db).2.tokens.rows, row.Becomes later := by
  cases call with
  | tokens call => exact call.becomes db.tokens hrow
  | _ => exact ⟨row, hrow, .refl row⟩

/-- The tenant's token of this identifier is there with this fingerprint. -/
def HasToken (tenant : TenantId) (id : TokenId) (secret : Digest) (db : Database) : Prop :=
  ∃ row ∈ db.tokens.rows, row.tenant = tenant ∧ row.id = id ∧ row.secret = secret

/-- The tenant's token of this identifier has been used. -/
def isUsed (tenant : TenantId) (id : TokenId) (db : Database) : Bool :=
  db.tokens.rows.any fun row => row.tenant = tenant && row.id = id && row.usedAt.isSome

theorem isUsed_eq_true {tenant : TenantId} {id : TokenId} {db : Database} :
    db.isUsed tenant id = true ↔
      ∃ row ∈ db.tokens.rows, row.tenant = tenant ∧ row.id = id ∧ row.usedAt.isSome = true := by
  simp [isUsed, and_assoc]

theorem keeps_hasToken (tenant : TenantId) (id : TokenId) (secret : Digest) :
    database.Keeps (HasToken tenant id secret) := by
  rintro call db ⟨row, hrow, htenant, hid, hsecret⟩
  obtain ⟨later, hlater, ⟨usedAt, rfl⟩, -⟩ := token_becomes call db hrow
  exact ⟨_, hlater, htenant, hid, hsecret⟩

theorem keeps_isUsed (tenant : TenantId) (id : TokenId) :
    database.Keeps (fun db => db.isUsed tenant id = true) := by
  intro call db h
  obtain ⟨row, hrow, htenant, hid, hused⟩ := isUsed_eq_true.1 h
  obtain ⟨later, hlater, ⟨usedAt, rfl⟩, hsame⟩ := token_becomes call db hrow
  exact isUsed_eq_true.2 ⟨_, hlater, htenant, hid, by rw [hsame hused]; exact hused⟩

/-- What a token has become is stored. -/
def Holds (token : OneTimeToken) (db : Database) : Prop :=
  ∃ later ∈ db.tokens.rows, token.Becomes later

theorem keeps_holds (token : OneTimeToken) : database.Keeps (Holds token) := by
  rintro call db ⟨row, hrow, hbecomes⟩
  obtain ⟨later, hlater, hnext⟩ := token_becomes call db hrow
  exact ⟨later, hlater, hbecomes.trans hnext⟩

theorem mem_of_find {tenant : TenantId} {secret : Digest} {db db' : Database}
    {found : OneTimeToken}
    (h : database.exec (.tokens (.find tenant secret)) db = (.ok (some found), db')) :
    found ∈ db.tokens.rows ∧ found.tenant = tenant ∧ found.secret = secret := by
  have hfound : db.tokens.find? _ = some found := Except.ok.inj (congrArg Prod.fst h)
  have hwanted := Table.wanted_of_find? hfound
  simp only [Bool.and_eq_true, decide_eq_true_eq] at hwanted
  exact ⟨Table.mem_of_find? hfound, hwanted.1, hwanted.2⟩

/-- The fingerprint a token is found by leads to the one token that has it. -/
theorem id_eq_of_find {tenant : TenantId} {id : TokenId} {secret : Digest} {db db' : Database}
    {found : OneTimeToken}
    (h : database.exec (.tokens (.find tenant secret)) db = (.ok (some found), db'))
    (hhas : HasToken tenant id secret db) : found.tenant = tenant ∧ found.id = id := by
  obtain ⟨hmem, hfoundTenant, hfoundSecret⟩ := mem_of_find h
  obtain ⟨row, hrow, htenant, hid, hsecret⟩ := hhas
  have hclash : Schema.clash found row = true := by
    simp [Schema.clash, hfoundTenant, htenant, hfoundSecret, hsecret]
  obtain rfl := db.tokens.eq_of_clash hmem hrow hclash
  exact ⟨htenant, hid⟩

/-- After a token was marked, its row is used. -/
theorem isUsed_of_markUsed {token : OneTimeToken} {tenant : TenantId} {id : TokenId}
    {secret : Digest} {db db' : Database}
    (h : database.exec (.tokens (.markUsed token)) db = (.ok (), db'))
    (hof : token.tenant = tenant ∧ token.id = id) (hhas : HasToken tenant id secret db)
    (hused : token.usedAt.isSome = true) : db'.isUsed tenant id = true := by
  obtain ⟨rfl, rfl⟩ := hof
  obtain ⟨row, hrow, htenant, hid, -⟩ := hhas
  have hanswer : (TokenCall.exec (.markUsed token) db.tokens).1 = .ok () := congrArg Prod.fst h
  have htable : (TokenCall.exec (.markUsed token) db.tokens).2 = db'.tokens :=
    congrArg (fun done => done.2.tokens) h
  have hmarked := commit_fst_ok hanswer
  refine isUsed_eq_true.2 ⟨_, htable ▸ Table.keeps_mem_of_updateWhere hmarked hrow, ?_⟩
  split
  · exact ⟨htenant, hid, hused⟩
  · rename_i hchosen
    simp only [htenant, hid, decide_true, Bool.true_and, Option.isNone_iff_eq_none] at hchosen
    exact ⟨htenant, hid, Option.isSome_iff_ne_none.2 hchosen⟩

end Database

/-! ### People -/

namespace DirectoryCall

/-- An enrolment adds the person and answers that it did, or it changes nothing. -/
theorem enrol_cases (tenant : TenantId) (enrolment : Enrolment)
    (roleIds : Role → StrongId .roleAssignment) (people : Table PersonRow)
    (roles : Table RoleRow) :
    (∃ people' roles', people.insert (personRow tenant enrolment) = some people' ∧
      exec (.enrol tenant enrolment roleIds) (people, roles) =
        (.ok (.ok ()), people', roles')) ∨
    ∃ answer, answer ≠ .ok (.ok ()) ∧
      exec (.enrol tenant enrolment roleIds) (people, roles) = (answer, people, roles) := by
  dsimp only [exec]
  split
  · exact Or.inr ⟨_, (by simp), rfl⟩
  · exact Or.inr ⟨_, (by simp), rfl⟩
  · rename_i people' hinserted
    split
    · exact Or.inr ⟨_, (by simp), rfl⟩
    · exact Or.inl ⟨people', _, Table.insert_of_insertUnless hinserted, rfl⟩

/-- Whatever is called, the row of a person stays as it is. -/
theorem keeps_person (call : DirectoryCall) (tables : Table PersonRow × Table RoleRow)
    {row : PersonRow} (hrow : row ∈ tables.1.rows) : row ∈ (call.exec tables).2.1.rows := by
  obtain ⟨people, roles⟩ := tables
  cases call with
  | knows tenant mail => exact hrow
  | bornOn tenant person => exact hrow
  | rolesOf tenant person => exact hrow
  | enrol tenant enrolment roleIds =>
    rcases enrol_cases tenant enrolment roleIds people roles with
      ⟨people', roles', hinserted, hexec⟩ | ⟨answer, -, hexec⟩
    · rw [hexec]
      exact (Table.mem_insert hinserted row).2 (Or.inl hrow)
    · rw [hexec]
      exact hrow

end DirectoryCall

namespace Database

/-- Somebody with this identifier is in the tenant's directory. -/
def HasPerson (tenant : TenantId) (id : PersonId) (db : Database) : Prop :=
  ∃ row ∈ db.people.rows, row.tenant = tenant ∧ row.id = id

theorem keeps_hasPerson (tenant : TenantId) (id : PersonId) :
    database.Keeps (HasPerson tenant id) := by
  rintro call db ⟨row, hrow, hof⟩
  cases call with
  | directory call => exact ⟨row, call.keeps_person (db.people, db.roles) hrow, hof⟩
  | _ => exact ⟨row, hrow, hof⟩

variable {tenant : TenantId} {enrolment : Enrolment} {roleIds : Role → StrongId .roleAssignment}
  {db db' : Database}

/-- After an enrolment that was taken the person is in the directory. -/
theorem hasPerson_of_enrol
    (h : database.exec (.directory (.enrol tenant enrolment roleIds)) db =
      (.ok (.ok ()), db')) : db'.HasPerson tenant enrolment.person.id := by
  rcases DirectoryCall.enrol_cases tenant enrolment roleIds db.people db.roles with
    ⟨people', roles', hinserted, hexec⟩ | ⟨answer, hanswer, hexec⟩
  · have hpeople : people' = db'.people := by
      have hstate := congrArg (fun done => done.2.people) h
      rwa [exec_directory, hexec] at hstate
    refine ⟨DirectoryCall.personRow tenant enrolment, ?_, rfl, rfl⟩
    rw [← hpeople]
    exact (Table.mem_insert hinserted _).2 (Or.inr rfl)
  · have hsame := congrArg Prod.fst h
    rw [exec_directory, hexec] at hsame
    exact absurd hsame hanswer

/-- Nobody is enrolled under an identifier that the tenant's directory has. -/
theorem enrol_ne_ok_of_hasPerson (hperson : db.HasPerson tenant enrolment.person.id) :
    database.exec (.directory (.enrol tenant enrolment roleIds)) db ≠ (.ok (.ok ()), db') := by
  intro h
  obtain ⟨row, hrow, htenant, hid⟩ := hperson
  have hclash : Schema.clash row (DirectoryCall.personRow tenant enrolment) = true := by
    simp [Schema.clash, DirectoryCall.personRow, htenant, hid]
  rcases DirectoryCall.enrol_cases tenant enrolment roleIds db.people db.roles with
    ⟨people', roles', hinserted, -⟩ | ⟨answer, hanswer, hexec⟩
  · rw [Table.insert_eq_none_of_clash hrow hclash] at hinserted
    cases hinserted
  · have hsame := congrArg Prod.fst h
    rw [exec_directory, hexec] at hsame
    exact absurd hsame hanswer

end Database

/-! ### Counted attempts -/

namespace AttemptCall

theorem isOf_eq_true {tenant : TenantId} {subject : AttemptSubject} {of : Digest}
    {row : AttemptRow} :
    isOf tenant subject of row = true ↔
      row.tenant = tenant ∧ row.subject = subject ∧ row.of = of := by
  simp [isOf, and_assoc]

theorem isOf_eq_false_of_ne {tenant tenant' : TenantId} {subject subject' : AttemptSubject}
    {of of' : Digest} {row : AttemptRow} (hrow : isOf tenant' subject' of' row = true)
    (hne : (tenant', subject', of') ≠ (tenant, subject, of)) :
    isOf tenant subject of row = false := by
  refine Bool.eq_false_iff.2 fun hsame => hne ?_
  obtain ⟨rfl, rfl, rfl⟩ := isOf_eq_true.1 hrow
  obtain ⟨rfl, rfl, rfl⟩ := isOf_eq_true.1 hsame
  rfl

end AttemptCall

namespace Database

/-- The window of a subject, if one is stored. -/
def windowOf? (tenant : TenantId) (subject : AttemptSubject) (of : Digest) (db : Database) :
    Option AttemptWindow :=
  (db.attempts.find? (AttemptCall.isOf tenant subject of)).map (·.window)

section Windows

variable {tenant tenant' : TenantId} {subject subject' : AttemptSubject} {of of' : Digest}
  {at_ window : Int} {db db' : Database}

/-- A failure that was registered is in the window of its subject. -/
theorem windowOf?_register {answer : AttemptWindow}
    (h : database.exec (.attempts (.register tenant subject of at_ window)) db =
      (.ok answer, db')) :
    db'.windowOf? tenant subject of = some (((db.windowOf? tenant subject of).map fun stored =>
      AttemptCall.countedUp stored at_ (at_ - window)).getD ⟨at_, 1⟩) := by
  rw [exec_attempts] at h
  simp only [AttemptCall.exec] at h
  split at h
  · rename_i table' hregistered
    obtain ⟨-, rfl⟩ := Prod.mk.inj h
    rw [windowOf?, Table.find?_upsert_self hregistered (by simp [AttemptCall.isOf])
      (fun row hrow => by simpa [AttemptCall.isOf] using hrow), windowOf?]
    cases db.attempts.find? (AttemptCall.isOf tenant subject of) <;> rfl
  · cases congrArg Prod.fst h

theorem eq_of_register_error {fault : Fault}
    (h : database.exec (.attempts (.register tenant subject of at_ window)) db =
      (.error fault, db')) : db' = db := by
  rw [exec_attempts] at h
  simp only [AttemptCall.exec] at h
  split at h
  · cases congrArg Prod.fst h
  · exact (Prod.mk.inj h).2.symm

/-- A failure of another subject leaves a window as it was. -/
theorem windowOf?_register_other (hne : (tenant', subject', of') ≠ (tenant, subject, of)) :
    (database.exec (.attempts (.register tenant' subject' of' at_ window)) db).2.windowOf? tenant
      subject of = db.windowOf? tenant subject of := by
  rw [exec_attempts]
  simp only [AttemptCall.exec]
  split
  · rename_i table' hregistered
    rw [windowOf?, windowOf?, Table.find?_upsert_other hregistered]
    · exact AttemptCall.isOf_eq_false_of_ne (by simp [AttemptCall.isOf]) hne
    · intro row hrow
      exact ⟨AttemptCall.isOf_eq_false_of_ne hrow hne,
        AttemptCall.isOf_eq_false_of_ne (by simpa [AttemptCall.isOf] using hrow) hne⟩
  · rfl

theorem windowOf?_forget :
    (database.exec (.attempts (.forget tenant subject of)) db).2.windowOf? tenant subject of =
      none := by
  simp [AttemptCall.exec, windowOf?]

theorem windowOf?_forget_other (hne : (tenant', subject', of') ≠ (tenant, subject, of)) :
    (database.exec (.attempts (.forget tenant' subject' of')) db).2.windowOf? tenant subject of =
      db.windowOf? tenant subject of := by
  simp only [exec_attempts, AttemptCall.exec, windowOf?]
  rw [Table.find?_deleteWhere_other fun row hrow =>
    AttemptCall.isOf_eq_false_of_ne hrow (Ne.symm hne)]

end Windows

end Database

/-! ### Sessions -/

/-- Every call that saves this session saves it revoked. -/
def SavesRevoked (id : SessionId) (call : Call) : Prop :=
  ∀ session, call = .sessions (.save session) → session.id = id → session.revokedAt.isSome = true

/-- No call saves this session. -/
def SavesOthers (id : SessionId) (call : Call) : Prop :=
  ∀ session, call = .sessions (.save session) → session.id ≠ id

namespace SessionCall

/-- Whatever is called, a session keeps its identifier and its person. -/
theorem keeps_session (call : SessionCall) (table : Table Session) {row : Session}
    (hrow : row ∈ table.rows) :
    ∃ later ∈ (call.exec table).2.rows, later.id = row.id ∧ later.person = row.person := by
  cases call with
  | find id => exact ⟨row, hrow, rfl, rfl⟩
  | save session =>
    rw [exec, commit_snd]
    cases hsaved : table.upsert _ _ _ with
    | none => exact ⟨row, hrow, rfl, rfl⟩
    | some table' =>
      refine ⟨_, Table.keeps_mem_of_upsert hsaved hrow, ?_⟩
      split <;> exact ⟨rfl, rfl⟩
  | revokeAllFor tenant person at_ =>
    rw [exec, commit_snd]
    cases hrevoked : table.updateWhere _ _ with
    | none => exact ⟨row, hrow, rfl, rfl⟩
    | some table' =>
      refine ⟨_, Table.keeps_mem_of_updateWhere hrevoked hrow, ?_⟩
      split <;> exact ⟨rfl, rfl⟩

/-- A revoked session stays revoked as long as it is saved revoked. -/
theorem keeps_revoked (call : SessionCall) (table : Table Session) {row : Session}
    (hrow : row ∈ table.rows) (hrevoked : row.revokedAt.isSome = true)
    (hsaves : SavesRevoked row.id (.sessions call)) :
    ∃ later ∈ (call.exec table).2.rows, later.id = row.id ∧ later.revokedAt.isSome = true := by
  cases call with
  | find id => exact ⟨row, hrow, rfl, hrevoked⟩
  | save session =>
    rw [exec, commit_snd]
    cases hsaved : table.upsert _ _ _ with
    | none => exact ⟨row, hrow, rfl, hrevoked⟩
    | some table' =>
      refine ⟨_, Table.keeps_mem_of_upsert hsaved hrow, ?_⟩
      split
      · rename_i hsame
        exact ⟨rfl, hsaves session rfl (of_decide_eq_true hsame).symm⟩
      · exact ⟨rfl, hrevoked⟩
  | revokeAllFor tenant person at_ =>
    rw [exec, commit_snd]
    cases hall : table.updateWhere _ _ with
    | none => exact ⟨row, hrow, rfl, hrevoked⟩
    | some table' =>
      refine ⟨_, Table.keeps_mem_of_updateWhere hall hrow, ?_⟩
      split
      · exact ⟨rfl, rfl⟩
      · exact ⟨rfl, hrevoked⟩

/-- A session that nobody saves does not appear. -/
theorem keeps_absent (call : SessionCall) (table : Table Session) {id : SessionId}
    (habsent : ∀ row ∈ table.rows, row.id ≠ id) (hsaves : SavesOthers id (.sessions call)) :
    ∀ row ∈ (call.exec table).2.rows, row.id ≠ id := by
  cases call with
  | find id => exact habsent
  | save session =>
    rw [exec, commit_snd]
    cases hsaved : table.upsert _ _ _ with
    | none => exact habsent
    | some table' =>
      rcases Table.upsert_cases hsaved with ⟨-, hupdate⟩ | ⟨-, hinsert⟩
      · intro row hrow
        obtain ⟨old, hold, rfl⟩ := (Table.mem_updateWhere hupdate row).1 hrow
        split <;> exact habsent old hold
      · intro row hrow
        rcases (Table.mem_insert hinsert row).1 hrow with hold | rfl
        · exact habsent row hold
        · exact hsaves row rfl
  | revokeAllFor tenant person at_ =>
    rw [exec, commit_snd]
    cases hall : table.updateWhere _ _ with
    | none => exact habsent
    | some table' =>
      intro row hrow
      obtain ⟨old, hold, rfl⟩ := (Table.mem_updateWhere hall row).1 hrow
      split <;> exact habsent old hold

end SessionCall

namespace Database

/-- The session is stored, for this person. -/
def HasSession (id : SessionId) (person : PersonId) (db : Database) : Prop :=
  ∃ row ∈ db.sessions.rows, row.id = id ∧ row.person = person

/-- The session is stored and revoked. -/
def IsClosed (id : SessionId) (db : Database) : Prop :=
  ∃ row ∈ db.sessions.rows, row.id = id ∧ row.revokedAt.isSome = true

/-- No such session is stored. -/
def IsAbsent (id : SessionId) (db : Database) : Prop := ∀ row ∈ db.sessions.rows, row.id ≠ id

section Sessions

variable {id : SessionId} {person : PersonId} {db db' : Database}

theorem keeps_hasSession (id : SessionId) (person : PersonId) :
    database.Keeps (HasSession id person) := by
  rintro call db ⟨row, hrow, hid, hperson⟩
  cases call with
  | sessions call =>
    obtain ⟨later, hlater, hlaterId, hlaterPerson⟩ := call.keeps_session db.sessions hrow
    exact ⟨later, hlater, hlaterId.trans hid, hlaterPerson.trans hperson⟩
  | _ => exact ⟨row, hrow, hid, hperson⟩

theorem keeps_isClosed (call : Call) (hsaves : SavesRevoked id call) (h : db.IsClosed id) :
    (database.exec call db).2.IsClosed id := by
  obtain ⟨row, hrow, rfl, hrevoked⟩ := h
  cases call with
  | sessions call => exact call.keeps_revoked db.sessions hrow hrevoked hsaves
  | _ => exact ⟨row, hrow, rfl, hrevoked⟩

theorem keeps_isAbsent (call : Call) (hsaves : SavesOthers id call) (h : db.IsAbsent id) :
    (database.exec call db).2.IsAbsent id := by
  cases call with
  | sessions call => exact call.keeps_absent db.sessions h hsaves
  | _ => exact h

/-- A session saved for the first time is stored as it is. -/
theorem hasSession_of_save {session : Session}
    (h : database.exec (.sessions (.save session)) db = (.ok (), db'))
    (habsent : db.IsAbsent session.id) : db'.HasSession session.id session.person := by
  have hanswer : (SessionCall.exec (.save session) db.sessions).1 = .ok () :=
    congrArg Prod.fst h
  have htable : (SessionCall.exec (.save session) db.sessions).2 = db'.sessions :=
    congrArg (fun done => done.2.sessions) h
  have hsaved := commit_fst_ok hanswer
  rcases Table.upsert_cases hsaved with ⟨⟨stored, hstored, hsame⟩, -⟩ | ⟨-, hinsert⟩
  · exact absurd (of_decide_eq_true hsame) (habsent stored hstored)
  · exact ⟨session, htable ▸ (Table.mem_insert hinsert session).2 (Or.inr rfl), rfl, rfl⟩

/-- Revoking everything of a person closes his stored sessions. -/
theorem isClosed_of_revokeAllFor {tenant : TenantId} {at_ : Int}
    (h : database.exec (.sessions (.revokeAllFor tenant person at_)) db = (.ok (), db'))
    (hsession : db.HasSession id person) (htenant : id.tenant = tenant) : db'.IsClosed id := by
  obtain ⟨row, hrow, rfl, rfl⟩ := hsession
  have hanswer : (SessionCall.exec (.revokeAllFor tenant row.person at_) db.sessions).1 = .ok () :=
    congrArg Prod.fst h
  have htable : (SessionCall.exec (.revokeAllFor tenant row.person at_) db.sessions).2 =
      db'.sessions := congrArg (fun done => done.2.sessions) h
  have hrevoked := commit_fst_ok hanswer
  refine ⟨_, htable ▸ Table.keeps_mem_of_updateWhere hrevoked hrow, ?_⟩
  split
  · exact ⟨rfl, rfl⟩
  · rename_i hchosen
    simp only [htenant, decide_true, Bool.true_and, Option.isNone_iff_eq_none] at hchosen
    exact ⟨rfl, Option.isSome_iff_ne_none.2 hchosen⟩

theorem not_isUsableAt_of_isClosed (h : db.IsClosed id) {row : Session}
    (hrow : row ∈ db.sessions.rows) (hid : row.id = id) (moment : Int) :
    row.isUsableAt moment = false := by
  obtain ⟨closed, hclosed, hclosedId, hrevoked⟩ := h
  have hclash : Schema.clash row closed = true := by simp [Schema.clash, hid, hclosedId]
  obtain rfl := db.sessions.eq_of_clash hrow hclosed hclash
  exact Session.not_isUsableAt_of_revoked hrevoked moment

end Sessions

end Database

end Pdr.Identity
