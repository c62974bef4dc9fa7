import Pdr.Identity.Application.Ports
import Pdr.Identity.Policies.ContractService
import Pdr.Identity.Store.Laws
import Pdr.StoreProgram.Sequence

/-!
# The journal of sensitive views

Asking the contract about a recording or a transcript of somebody else leaves a record, whether
the asker is let in or not, and the person it is about may read the records. The record is
written for the tenant of the asker, and it is read in the tenant of the resource. The query
that stores it does not name the outcome, so the column keeps its default.

## Main definitions

* `Pdr.Identity.JournalStore`: the ports that write and read the journal, over one store.
* `Pdr.Identity.keptJournal`, `Pdr.Identity.postgresJournal`: a list, and the table.
* `Pdr.Identity.contractDecide`, `Pdr.Identity.showAccessJournal`
* `Pdr.Identity.IsJournalled`: a question left the record it should.

## Main results

* `Pdr.Identity.journal_is_complete_iff`: which questions of a run leave the record they should.
* `Pdr.Identity.refusal_is_stored_as_shown`: two that do not.
-/

namespace Pdr.Identity

open StoreProgram Policy

/-! ### The store of the journal -/

/-- `AccessRecord::Of`. -/
def AccessRecord.of (tenant : TenantId) (actor subject : PersonId) (kind : ResourceKind)
    (outcome : AccessOutcome) (at_ : Int) : Result AccessRecord :=
  if actor = subject then
    .error ⟨.validation, "access_log_self_view", "человек смотрит своё: следа тут не остаётся"⟩
  else .ok ⟨tenant, actor, subject, kind, outcome, at_⟩

/-- `RowId`: nothing refers to a row of the journal. -/
structure AccessLogRowId where
  bytes : Vector UInt8 16
deriving DecidableEq

/-- A row of `identity_access_log`. -/
structure AccessLogRow where
  id : AccessLogRowId
  record : AccessRecord
deriving DecidableEq

/-- `identity_access_log`: nobody's view of himself is a row. -/
instance : Schema AccessLogRow where
  check row := row.record.actor ≠ row.record.subject
  clash a b := a.record.tenant = b.record.tenant && a.id = b.id
  clash_symm a b h := by simpa only [eq_comm] using h

/-- The ports `AccessLog` and `AccessJournal` over one store. Writing looks at the other tables
for the persons a row refers to. -/
structure JournalStore (σ : Type) where
  record (db : Database) (id : AccessLogRowId) (record : AccessRecord) : σ → Except Fault Unit × σ
  aboutPerson (tenant : TenantId) (subject : PersonId) (since : Int) : σ → List AccessRecord
  records : σ → List AccessRecord

/-- The record is about the person in the tenant, and not earlier than the moment. -/
def AccessRecord.isAbout (tenant : TenantId) (subject : PersonId) (since : Int)
    (record : AccessRecord) : Bool :=
  record.tenant = tenant && record.subject = subject && since ≤ record.at_

/-- A journal that keeps what it is given, as the ports have it. -/
def keptJournal : JournalStore (List AccessRecord) where
  record _ _ record records := (.ok (), records ++ [record])
  aboutPerson tenant subject since records :=
    records.filter (AccessRecord.isAbout tenant subject since)
  records records := records

/-- Somebody with this identifier is in the tenant's directory. -/
def Database.knows (tenant : TenantId) (person : PersonId) (db : Database) : Bool :=
  db.people.rows.any fun row => row.tenant = tenant && row.id = person

/-- `PostgresAccessLog` and `PostgresAccessJournal`, in the scope of the tenant they are called
for. `kRecord` leaves `outcome` out, whose default is `shown`. -/
def postgresJournal : JournalStore (Table AccessLogRow) where
  record db id record table :=
    if db.knows record.tenant record.actor && db.knows record.tenant record.subject then
      commit "identity_access_log" table (table.insert ⟨id, { record with outcome := .shown }⟩)
    else (.error (.thrown (.schemaViolation "identity_access_log")), table)
  aboutPerson tenant subject since table :=
    ((table.rows.map (·.record)).filter (AccessRecord.isAbout tenant subject since)).mergeSort
      fun earlier later => later.at_ ≤ earlier.at_
  records table := table.rows.map (·.record)

/-! ### The scenarios -/

section Scenarios

variable {σ : Type} (store : JournalStore σ)

/-- `NoteSensitiveAccess::Execute`. -/
def noteSensitiveAccess (db : Database) (id : AccessLogRowId) (tenant : TenantId)
    (actor subject : PersonId) (kind : ResourceKind) (outcome : AccessOutcome) (at_ : Int) (s : σ) :
    Except Fault Unit × σ :=
  match AccessRecord.of tenant actor subject kind outcome at_ with
  | .error error => (.error (.refused error), s)
  | .ok record => store.record db id record s

/-- A question put to the contract, with what it is answered from: the tables as they are then,
the maturity rule, the readings of the clock, and an identifier for the record. -/
structure Sight where
  db : Database
  rule : Result MaturityRule
  now : Int
  notedAt : Int
  rowId : AccessLogRowId
  tenant : TenantId
  actor : PersonId
  action : Action
  resource : Resource

/-- What the policies answer. -/
def Sight.decision (sight : Sight) : PolicyDecision :=
  (sight.db.accessView sight.rule).decide sight.now sight.tenant sight.actor sight.action
    sight.resource

/-- `ContractService::Decide`. A refusal of the journal is thrown away, an exception is not. -/
def contractDecide (sight : Sight) (s : σ) : Except Fault PolicyDecision × σ :=
  match journalledKind sight.action, sight.resource.subject with
  | some kind, some subject =>
    if subject ≠ sight.actor then
      let noted := noteSensitiveAccess store sight.db sight.rowId sight.tenant sight.actor subject
        kind (if sight.decision.allowed then .shown else .refused) sight.notedAt s
      match noted.1 with
      | .error (.thrown exception) => (.error (.thrown exception), noted.2)
      | _ => (.ok sight.decision, noted.2)
    else (.ok sight.decision, s)
  | _, _ => (.ok sight.decision, s)

/-- Asked about nobody. -/
def journalWithoutSubject : Error :=
  ⟨.validation, "journal_without_subject", "журнал спрашивают о ком-то, а не вообще"⟩

/-- Asked about somebody whose journal is not for the asker. -/
def journalNotYours (reason : DenyReason) : Error :=
  ⟨.forbidden, "journal_not_yours",
    "журнал доступа показывают тому, о ком он; причина отказа — " ++ reason.name⟩

/-- `ShowAccessJournal::Execute`. The rights are asked of the same contract. -/
def showAccessJournal (asked : Sight) (since : Int) (s : σ) : Except Fault (List AccessRecord) :=
  match asked.resource.subject with
  | none => .error (.refused journalWithoutSubject)
  | some subject =>
    match (contractDecide store { asked with action := .viewAccessJournal } s).1 with
    | .error fault => .error fault
    | .ok decision =>
      if decision.allowed then .ok (store.aboutPerson asked.tenant subject since s)
      else .error (.refused (journalNotYours decision.reason))

/-- A question of a run. -/
abbrev SightTurn (σ : Type) : Type := Turn (fun _ : Sight => PolicyDecision) Fault σ

/-- The contract as a machine over the journal. -/
def contract : Machine (fun _ : Sight => PolicyDecision) Fault σ where
  exec sight s := contractDecide store sight s

end Scenarios

/-! ### What a question should leave -/

section Journalled

variable {σ : Type} (store : JournalStore σ)

/-- The content of somebody else that a question is about. -/
def Sight.sees (sight : Sight) : Option (ResourceKind × PersonId) :=
  match journalledKind sight.action, sight.resource.subject with
  | some kind, some subject => if subject ≠ sight.actor then some (kind, subject) else none
  | _, _ => none

/-- Whoever is shown the journal about the person in the tenant, from a moment no later than the
record's, finds the record in it. -/
def IsListed (record : AccessRecord) (tenant : TenantId) (subject : PersonId) (s : σ) : Prop :=
  ∀ asked since rows, asked.tenant = tenant → asked.resource.subject = some subject →
    since ≤ record.at_ → showAccessJournal store asked since s = .ok rows → record ∈ rows

/-- The question left the record it should: one, of the kind of the action, about the person,
with the outcome of the decision, and listed for that person in the tenant of the resource at
the end; or none, if it is about no content of somebody else. -/
def IsJournalled (sight : Sight) (before after last : σ) : Prop :=
  match sight.sees with
  | none => store.records after = store.records before
  | some (kind, subject) => ∃ record, store.records after = store.records before ++ [record] ∧
      record.kind = kind ∧ record.actor = sight.actor ∧ record.subject = subject ∧
      (record.outcome = .shown ↔ sight.decision.allowed = true) ∧
      IsListed store record sight.resource.tenant subject last

end Journalled

/-! ### Who is shown what -/

/-- The recordings and transcripts of a resource about a student are shown to this other
person: the resource is of his tenant, and he is the tutor whose it is, or a guardian who looks
after the student and to whom recordings are open. -/
def AccessView.Shows (view : AccessView) (now : Int) (tenant : TenantId) (actor : PersonId)
    (resource : Resource) (student : PersonId) : Prop :=
  resource.tenant = tenant ∧
    ((view.rolesOf tenant actor).has .tutor = true ∧ resource.owner = some actor ∨
      (view.rolesOf tenant actor).has .guardian = true ∧ resource.owner ≠ some actor ∧
        view.looksAfter now tenant actor resource = true ∧
        (view.accessOf now tenant actor student).opened.has .recordings = true)

theorem allowed_iff_shows {view : AccessView} {now : Int} {tenant : TenantId}
    {actor student : PersonId} {action : Action} {resource : Resource} {kind : ResourceKind}
    (haction : journalledKind action = some kind) (hsubject : resource.subject = some student)
    (hother : student ≠ actor) :
    (view.decide now tenant actor action resource).allowed = true ↔
      view.Shows now tenant actor resource student := by
  have hpolicy : policyOf action = some mediaPolicy ∧
      (action = .viewLessonRecording ∨ action = .viewLessonTranscript) := by
    cases action with
    | viewLessonRecording => exact ⟨rfl, Or.inl rfl⟩
    | viewLessonTranscript => exact ⟨rfl, Or.inr rfl⟩
    | _ => cases haction
  have hmedia : (mediaPolicy (view.subjectFor now tenant actor resource) action resource).allowed =
      (anyOf [thatStudent, ownTutor, guardianInRecordings]
        (view.subjectFor now tenant actor resource) action resource).allowed := by
    rcases hpolicy.2 with rfl | rfl <;> rfl
  have hself : ¬ some student = some actor := fun h => hother (Option.some.inj h)
  by_cases htenant : resource.tenant = tenant
  · have htie : (view.subjectFor now tenant actor resource).tenant = resource.tenant := htenant.symm
    rw [AccessView.decide, PolicySet.decide, if_neg (not_not.2 htie), hpolicy.1]
    show (mediaPolicy _ action resource).allowed = true ↔ _
    rw [hmedia]
    by_cases howner : resource.owner = some actor
    · simp [thatStudent, ownTutor, guardianInRecordings, within, AccessView.subjectFor,
        AccessView.tieFor, tieBetween, howner, AccessView.Shows, htenant]
    · cases hlooks : view.looksAfter now tenant actor resource with
      | true =>
        simp [thatStudent, ownTutor, guardianInRecordings, within, AccessView.subjectFor,
          AccessView.tieFor, tieBetween, howner, hsubject, hself, hlooks, AccessView.Shows, htenant]
      | false =>
        simp [thatStudent, ownTutor, guardianInRecordings, within, AccessView.subjectFor,
          AccessView.tieFor, tieBetween, howner, hsubject, hself, hlooks, AccessView.Shows, htenant]
  · have htie : (view.subjectFor now tenant actor resource).tenant ≠ resource.tenant :=
      fun h => htenant h.symm
    rw [AccessView.decide, PolicySet.decide, if_pos htie]
    exact ⟨fun h => (by cases h), fun h => absurd h.1 htenant⟩

theorem allowed_ownJournal {view : AccessView} {now : Int} {tenant : TenantId} {student : PersonId}
    (hrole : (view.rolesOf tenant student).has .student = true) :
    (view.decide now tenant student .viewAccessJournal ⟨tenant, none, some student⟩).allowed =
      true := by
  rw [AccessView.decide, PolicySet.decide, if_neg (fun h => h rfl)]
  simp [policyOf, journalPolicy, thatStudent, AccessView.subjectFor, AccessView.tieFor, tieBetween,
    hrole]

/-! ### What a question leaves -/

/-- The record the contract makes for a question about content of somebody else. -/
def Sight.due (sight : Sight) (kind : ResourceKind) (subject : PersonId) : AccessRecord :=
  ⟨sight.tenant, sight.actor, subject, kind,
    if sight.decision.allowed then .shown else .refused, sight.notedAt⟩

section Leaves

variable {σ : Type} {store : JournalStore σ} {sight : Sight} {kind : ResourceKind}
  {subject : PersonId}

theorem sees_eq_some : sight.sees = some (kind, subject) ↔
    journalledKind sight.action = some kind ∧ sight.resource.subject = some subject ∧
      subject ≠ sight.actor := by
  unfold Sight.sees
  cases journalledKind sight.action with
  | none => simp
  | some kind' =>
    cases sight.resource.subject with
    | none => simp
    | some subject' =>
      by_cases hself : subject' = sight.actor
      · simp only [hself, ne_eq, not_true_eq_false, if_false, reduceCtorEq, false_iff]
        rintro ⟨-, hsubject, hother⟩
        exact hother (Option.some.inj hsubject).symm
      · simp only [ne_eq, hself, not_false_eq_true, if_true, Option.some.injEq, Prod.mk.injEq]
        exact ⟨fun ⟨hkind, hsubject⟩ => ⟨hkind, hsubject, hsubject ▸ hself⟩,
          fun ⟨hkind, hsubject, _⟩ => ⟨hkind, hsubject⟩⟩

/-- A question about nothing of the kind leaves the journal as it is. -/
theorem contractDecide_of_sees_none (h : sight.sees = none) (s : σ) :
    contractDecide store sight s = (.ok sight.decision, s) := by
  unfold Sight.sees at h
  unfold contractDecide
  split
  · rename_i kind subject hkind hsubject
    rw [hkind, hsubject] at h
    dsimp only at h
    split at h
    · cases h
    · rename_i hself
      rw [if_neg hself]
  · rfl

/-- A question about content of somebody else hands one record to the store. -/
theorem contractDecide_snd_of_sees (h : sight.sees = some (kind, subject)) (s : σ) :
    (contractDecide store sight s).2 =
      (store.record sight.db sight.rowId (sight.due kind subject) s).2 := by
  obtain ⟨hkind, hsubject, hother⟩ := sees_eq_some.1 h
  have hof : AccessRecord.of sight.tenant sight.actor subject kind
      (if sight.decision.allowed then .shown else .refused) sight.notedAt =
        .ok (sight.due kind subject) := if_neg fun h => hother h.symm
  unfold contractDecide
  rw [hkind, hsubject]
  dsimp only
  rw [if_pos hother, noteSensitiveAccess, hof]
  dsimp only
  split <;> rfl

/-- The journal is shown to those whom the policies allow to see it. -/
theorem showAccessJournal_eq_ok {asked : Sight} {since : Int} {s : σ} {rows : List AccessRecord} :
    showAccessJournal store asked since s = .ok rows ↔
      ∃ subject, asked.resource.subject = some subject ∧
        { asked with action := .viewAccessJournal }.decision.allowed = true ∧
        store.aboutPerson asked.tenant subject since s = rows := by
  unfold showAccessJournal
  cases hsubject : asked.resource.subject with
  | none => simp
  | some subject =>
    have hquiet : Sight.sees { asked with action := .viewAccessJournal } = none := rfl
    rw [contractDecide_of_sees_none hquiet]
    dsimp only
    split
    · rename_i hallowed
      simp [hallowed]
    · rename_i hallowed
      simp [hallowed]

/-- A journal that lists the records it has, and loses none. -/
structure JournalStore.Lawful (store : JournalStore σ) : Prop where
  mem_aboutPerson : ∀ record tenant subject since s,
    record ∈ store.aboutPerson tenant subject since s ↔
      record ∈ store.records s ∧ record.isAbout tenant subject since = true
  grows : ∀ db id record s, store.records s <+: store.records (store.record db id record s).2

theorem lawful_keptJournal : keptJournal.Lawful where
  mem_aboutPerson _ _ _ _ _ := List.mem_filter
  grows _ _ record s := List.prefix_append s [record]

theorem lawful_postgresJournal : postgresJournal.Lawful where
  mem_aboutPerson _ _ _ _ _ := by
    simp only [postgresJournal, List.mem_mergeSort, List.mem_filter]
  grows _ id record s := by
    simp only [postgresJournal]
    split
    · rw [commit_snd]
      cases hinsert : s.insert ⟨id, { record with outcome := .shown }⟩ with
      | none => exact List.prefix_rfl
      | some table =>
        rw [Option.getD_some, Table.rows_of_insert hinsert, List.map_append]
        exact List.prefix_append _ _
    · exact List.prefix_rfl

/-- A student of the tenant asks for the journal about himself. -/
def asksAboutHimself (tenant : TenantId) (student : PersonId) : Sight where
  db :=
    { roles := ⟨[⟨tenant, ⟨Vector.replicate 16 0⟩, student, .student, none⟩], fun _ _ => rfl,
        List.pairwise_singleton _ _⟩ }
  rule := .error journalWithoutSubject
  now := 0
  notedAt := 0
  rowId := ⟨Vector.replicate 16 0⟩
  tenant := tenant
  actor := student
  action := .viewAccessJournal
  resource := ⟨tenant, none, some student⟩

/-- A record is listed when it is in the journal under the tenant it is read in. The person it
is about is a reader, so a record that is not there is missed. -/
theorem isListed_iff (lawful : store.Lawful) {record : AccessRecord} {tenant : TenantId} {s : σ} :
    IsListed store record tenant subject s ↔
      record ∈ store.records s ∧ record.tenant = tenant ∧ record.subject = subject := by
  constructor
  · intro hlisted
    have hrole : (((asksAboutHimself tenant subject).db.accessView
        (.error journalWithoutSubject)).rolesOf tenant subject).has .student = true := by
      simp [Database.accessView, asksAboutHimself, BitSet.has_ofList]
    have hshown : showAccessJournal store (asksAboutHimself tenant subject) record.at_ s =
        .ok (store.aboutPerson tenant subject record.at_ s) :=
      showAccessJournal_eq_ok.2 ⟨subject, rfl, allowed_ownJournal hrole, rfl⟩
    have hmem := hlisted _ record.at_ _ rfl rfl le_rfl hshown
    rw [lawful.mem_aboutPerson, AccessRecord.isAbout] at hmem
    simp only [Bool.and_eq_true, decide_eq_true_eq] at hmem
    exact ⟨hmem.1, hmem.2.1.1, hmem.2.1.2⟩
  · rintro ⟨hmem, htenant, hsubject⟩ asked since rows hasked habout hsince hshown
    obtain ⟨subject', hsubject', -, rfl⟩ := showAccessJournal_eq_ok.1 hshown
    obtain rfl : subject = subject' := Option.some.inj (habout.symm.trans hsubject')
    rw [lawful.mem_aboutPerson, AccessRecord.isAbout]
    simp only [Bool.and_eq_true, decide_eq_true_eq]
    exact ⟨hmem, ⟨htenant.trans hasked.symm, hsubject⟩, hsince⟩

/-- A run of questions loses no record. -/
theorem records_grow (lawful : store.Lawful) {steps : List (SightTurn σ)} {s s' : σ}
    (hrun : Linked (contract store) s steps s') : store.records s <+: store.records s' := by
  have hkept : ∀ t ∈ steps, store.records s <+: store.records t.before →
      store.records s <+: store.records t.after := by
    intro t ht hbefore
    refine hbefore.trans ?_
    have hexec : (contractDecide store t.entry.op t.before).2 = t.after :=
      congrArg Prod.snd (hrun.exec_eq ht)
    rw [← hexec]
    cases hsees : t.entry.op.sees with
    | none => rw [contractDecide_of_sees_none hsees]
    | some seen =>
      rw [contractDecide_snd_of_sees hsees]
      exact lawful.grows _ _ _ _
  exact hrun.keeps (P := fun later => store.records s <+: store.records later) hkept
    List.prefix_rfl

/-- What remains of being journalled when the store loses no record: one record was appended,
and its fields are right. -/
theorem isJournalled_iff (lawful : store.Lawful) (h : sight.sees = some (kind, subject))
    {before after last : σ} (hlast : store.records after <+: store.records last) :
    IsJournalled store sight before after last ↔
      ∃ record, store.records after = store.records before ++ [record] ∧ record.kind = kind ∧
        record.actor = sight.actor ∧ record.subject = subject ∧
        (record.outcome = .shown ↔ sight.decision.allowed = true) ∧
        record.tenant = sight.resource.tenant := by
  unfold IsJournalled
  rw [h]
  dsimp only
  refine exists_congr fun record => and_congr_right fun hrecords => and_congr_right fun _ =>
    and_congr_right fun _ => and_congr_right fun hsubject => and_congr_right fun _ => ?_
  rw [isListed_iff lawful]
  have hmem : record ∈ store.records last := by
    refine hlast.subset ?_
    rw [hrecords]
    exact List.mem_append_right _ List.mem_cons_self
  exact ⟨fun hlisted => hlisted.2.1, fun htenant => ⟨hmem, htenant, hsubject⟩⟩

theorem isJournalled_of_sees_none {t : SightTurn σ} {last : σ}
    (hexec : (contract store).exec t.entry.op t.before = (t.entry.answer, t.after))
    (h : t.entry.op.sees = none) : IsJournalled store t.entry.op t.before t.after last := by
  have hafter : (contractDecide store t.entry.op t.before).2 = t.after := congrArg Prod.snd hexec
  rw [contractDecide_of_sees_none h] at hafter
  rw [IsJournalled, h, ← hafter]

end Leaves

/-! ### Whether the journal is complete -/

/-- The identifier drawn for a record is no other row's. -/
def DrawsFreshRow (t : SightTurn (Table AccessLogRow)) : Prop :=
  ∀ row ∈ t.before.rows, row.id ≠ t.entry.op.rowId

/-- A journal that keeps what it is given gets the record of the asker's tenant. -/
theorem isJournalled_kept_iff {t : SightTurn (List AccessRecord)} {last : List AccessRecord}
    (hexec : (contract keptJournal).exec t.entry.op t.before = (t.entry.answer, t.after))
    (hlast : t.after <+: last) : IsJournalled keptJournal t.entry.op t.before t.after last ↔
      (t.entry.op.sees.isSome = true → t.entry.op.resource.tenant = t.entry.op.tenant) := by
  cases hsees : t.entry.op.sees with
  | none => exact iff_of_true (isJournalled_of_sees_none hexec hsees) (fun h => by cases h)
  | some seen =>
    obtain ⟨kind, subject⟩ := seen
    have hafter : t.after = t.before ++ [t.entry.op.due kind subject] := by
      have hexec' : (contractDecide keptJournal t.entry.op t.before).2 = t.after :=
        congrArg Prod.snd hexec
      rw [← hexec', contractDecide_snd_of_sees hsees]
      rfl
    rw [isJournalled_iff lawful_keptJournal hsees hlast]
    constructor
    · rintro ⟨record, hrecord, -, -, -, -, htenant⟩ -
      obtain rfl : t.entry.op.due kind subject = record :=
        List.singleton_inj.1 (List.append_cancel_left (hafter.symm.trans hrecord))
      exact htenant.symm
    · intro htenant
      refine ⟨_, hafter, rfl, rfl, rfl, ?_, (htenant rfl).symm⟩
      cases hallowed : t.entry.op.decision.allowed <;> simp [Sight.due, hallowed]

/-- What the table has after a record was written to it. -/
theorem records_of_record {db : Database} {id : AccessLogRowId} {record : AccessRecord}
    {table : Table AccessLogRow} (hother : record.actor ≠ record.subject)
    (hfresh : ∀ row ∈ table.rows, row.id ≠ id) :
    postgresJournal.records (postgresJournal.record db id record table).2 =
      postgresJournal.records table ++
        if db.knows record.tenant record.actor && db.knows record.tenant record.subject then
          [{ record with outcome := .shown }]
        else [] := by
  obtain ⟨table', hinsert⟩ : ∃ table', table.insert ⟨id, { record with outcome := .shown }⟩ =
      some table' := by
    refine Table.exists_insert ?_ fun stored hstored => ?_
    · simpa [Schema.check] using hother
    · simp [Schema.clash, hfresh stored hstored]
  simp only [postgresJournal]
  split
  · rw [commit_snd, hinsert, Option.getD_some, Table.rows_of_insert hinsert, List.map_append]
    rfl
  · rw [List.append_nil]

/-- The table gets the record as one of a view that was shown, if both persons are known in
the asker's tenant. -/
theorem isJournalled_postgres_iff {t : SightTurn (Table AccessLogRow)} {last : Table AccessLogRow}
    (hexec : (contract postgresJournal).exec t.entry.op t.before = (t.entry.answer, t.after))
    (hlast : postgresJournal.records t.after <+: postgresJournal.records last)
    (hfresh : DrawsFreshRow t) : IsJournalled postgresJournal t.entry.op t.before t.after last ↔
      ∀ kind subject, t.entry.op.sees = some (kind, subject) →
        (t.entry.op.db.accessView t.entry.op.rule).Shows t.entry.op.now t.entry.op.tenant
            t.entry.op.actor t.entry.op.resource subject ∧
          t.entry.op.db.knows t.entry.op.tenant t.entry.op.actor = true ∧
          t.entry.op.db.knows t.entry.op.tenant subject = true := by
  cases hsees : t.entry.op.sees with
  | none =>
    exact iff_of_true (isJournalled_of_sees_none hexec hsees) (fun _ _ h => by cases h)
  | some seen =>
    obtain ⟨kind, subject⟩ := seen
    have hexec' : (contractDecide postgresJournal t.entry.op t.before).2 = t.after :=
      congrArg Prod.snd hexec
    rw [contractDecide_snd_of_sees hsees] at hexec'
    obtain ⟨hkind, hsubject, hother⟩ := sees_eq_some.1 hsees
    have hshows : t.entry.op.decision.allowed = true ↔
        (t.entry.op.db.accessView t.entry.op.rule).Shows t.entry.op.now t.entry.op.tenant
          t.entry.op.actor t.entry.op.resource subject := allowed_iff_shows hkind hsubject hother
    rw [isJournalled_iff lawful_postgresJournal hsees hlast, ← hexec']
    have hself : (t.entry.op.due kind subject).actor ≠ (t.entry.op.due kind subject).subject :=
      fun h => hother h.symm
    rw [records_of_record hself hfresh]
    constructor
    · rintro ⟨record, hrecord, -, -, -, houtcome, -⟩ kind' subject' hseen
      obtain ⟨rfl, rfl⟩ : kind = kind' ∧ subject = subject' :=
        Prod.mk.injEq .. ▸ Option.some.inj hseen
      have hone := List.append_cancel_left hrecord
      split at hone
      · rename_i hknown
        obtain rfl := List.singleton_inj.1 hone
        rw [Bool.and_eq_true] at hknown
        exact ⟨hshows.1 (houtcome.1 rfl), hknown.1, hknown.2⟩
      · cases hone
    · intro hgood
      obtain ⟨hshown, hactor, hknown⟩ := hgood kind subject rfl
      rw [if_pos (show (t.entry.op.db.knows (t.entry.op.due kind subject).tenant
          (t.entry.op.due kind subject).actor && t.entry.op.db.knows
          (t.entry.op.due kind subject).tenant (t.entry.op.due kind subject).subject) = true from
        Bool.and_eq_true_iff.2 ⟨hactor, hknown⟩)]
      exact ⟨_, rfl, rfl, rfl, rfl, iff_of_true rfl (hshows.2 hshown), hshown.1.symm⟩

/-- **Which questions leave the record they should.** Where the journal keeps what it is given,
those about a resource of the asker's own tenant and those about no content of somebody else.
In the database, of the former those only that are answered by showing it, to an asker known
in the tenant and about a person known there. In either case the record stays listed to the end
of the run. -/
theorem journal_is_complete_iff {kept kept' : List AccessRecord}
    {questions : List (SightTurn (List AccessRecord))} {table table' : Table AccessLogRow}
    {steps : List (SightTurn (Table AccessLogRow))}
    (hquestions : Linked (contract keptJournal) kept questions kept')
    (hsteps : Linked (contract postgresJournal) table steps table')
    (hfresh : ∀ t ∈ steps, DrawsFreshRow t) :
    (∀ t ∈ questions, IsJournalled keptJournal t.entry.op t.before t.after kept' ↔
      (t.entry.op.sees.isSome = true → t.entry.op.resource.tenant = t.entry.op.tenant)) ∧
    ∀ t ∈ steps, IsJournalled postgresJournal t.entry.op t.before t.after table' ↔
      ∀ kind subject, t.entry.op.sees = some (kind, subject) →
        (t.entry.op.db.accessView t.entry.op.rule).Shows t.entry.op.now t.entry.op.tenant
            t.entry.op.actor t.entry.op.resource subject ∧
          t.entry.op.db.knows t.entry.op.tenant t.entry.op.actor = true ∧
          t.entry.op.db.knows t.entry.op.tenant subject = true := by
  refine ⟨fun t ht => ?_, fun t ht => ?_⟩
  · obtain ⟨early, late, rfl⟩ := List.append_of_mem ht
    obtain ⟨-, hexec, hlate⟩ := hquestions.split
    exact isJournalled_kept_iff hexec (records_grow lawful_keptJournal hlate)
  · obtain ⟨early, late, rfl⟩ := List.append_of_mem ht
    obtain ⟨-, hexec, hlate⟩ := hsteps.split
    exact isJournalled_postgres_iff hexec (records_grow lawful_postgresJournal hlate) (hfresh t ht)

/-! ### Three askers -/

/-- A person of the class. -/
def classPerson (byte : UInt8) : PersonRow :=
  ⟨repeated 7, repeated byte, ascii "name", none, ⟨ascii "UTC"⟩, none⟩

/-- A student, his tutor and a stranger, all of tenant 7. -/
def classroom : Database where
  people := ⟨[classPerson 1, classPerson 2, classPerson 3], by decide +kernel, by decide +kernel⟩
  roles := ⟨[⟨repeated 7, repeated 1, repeated 1, .student, none⟩,
    ⟨repeated 7, repeated 2, repeated 2, .tutor, none⟩], by decide +kernel, by decide +kernel⟩

/-- Somebody asks for the recording of a lesson of tenant 7, which the tutor gave the student. -/
def asksForRecording (tenant : TenantId) (actor : PersonId) (rowId : UInt8) : Sight where
  db := classroom
  rule := .error journalWithoutSubject
  now := 20
  notedAt := 20
  rowId := ⟨Vector.replicate 16 rowId⟩
  tenant := tenant
  actor := actor
  action := .viewLessonRecording
  resource := ⟨repeated 7, some (repeated 2), some (repeated 1)⟩

/-- The tutor looks at the recording. -/
def tutorLooks : Sight := asksForRecording (repeated 7) (repeated 2) 1

/-- A stranger tries to. -/
def strangerTries : Sight := asksForRecording (repeated 7) (repeated 3) 2

/-- Somebody of another practice tries to. -/
def foreignerTries : Sight := asksForRecording (repeated 8) (repeated 4) 3

/-- The questions, each put to an empty journal. -/
def tutorTurn : SightTurn (Table AccessLogRow) := turn (contract postgresJournal) tutorLooks .empty

/-- The turn of the stranger. -/
def strangerTurn : SightTurn (Table AccessLogRow) :=
  turn (contract postgresJournal) strangerTries .empty

/-- The turn of the other. -/
def foreignerTurn : SightTurn (List AccessRecord) := turn (contract keptJournal) foreignerTries []

/-- The tutor looks at the recording, and the student finds the record. -/
theorem view_of_the_tutor_is_journalled :
    IsJournalled postgresJournal tutorLooks tutorTurn.before tutorTurn.after tutorTurn.after := by
  have hsteps : Linked (contract postgresJournal) .empty [tutorTurn] tutorTurn.after :=
    turns_linked (contract postgresJournal) [tutorLooks] .empty
  have hquestions : Linked (contract keptJournal) [] ([] : List (SightTurn _)) [] := rfl
  refine ((journal_is_complete_iff hquestions hsteps ?_).2 tutorTurn List.mem_cons_self).2 ?_
  · rintro u (- | ⟨-, ⟨⟩⟩) row ⟨⟩
  · intro kind subject hseen
    obtain ⟨rfl, rfl⟩ : .recording = kind ∧ repeated 1 = subject :=
      Prod.mk.injEq .. ▸ Option.some.inj hseen
    refine ⟨⟨rfl, Or.inl ⟨?_, rfl⟩⟩, ?_, ?_⟩
    · decide +kernel
    · decide +kernel
    · decide +kernel

/-- **Two records that are not what they should be.** A stranger of the tenant is refused, and
the table gets one record, of a view that was shown. Somebody of another tenant is refused,
and the record is kept for his tenant and not for the student's. -/
theorem refusal_is_stored_as_shown :
    (strangerTries.sees = some (.recording, repeated 1) ∧
      strangerTries.decision = denied .roleMissing ∧
      postgresJournal.records strangerTurn.after =
        [⟨repeated 7, repeated 3, repeated 1, .recording, .shown, 20⟩] ∧
      ¬ IsJournalled postgresJournal strangerTries strangerTurn.before strangerTurn.after
        strangerTurn.after) ∧
    foreignerTries.sees = some (.recording, repeated 1) ∧
      foreignerTries.decision = denied .foreignTenant ∧
      foreignerTurn.after = [⟨repeated 8, repeated 4, repeated 1, .recording, .refused, 20⟩] ∧
      ¬ IsJournalled keptJournal foreignerTries foreignerTurn.before foreignerTurn.after
        foreignerTurn.after := by
  refine ⟨⟨rfl, by decide +kernel, by decide +kernel, ?_⟩, rfl, by decide +kernel,
    by decide +kernel, ?_⟩
  · rw [isJournalled_iff lawful_postgresJournal rfl List.prefix_rfl]
    rintro ⟨record, hrecord, -, -, -, houtcome, -⟩
    obtain rfl : (⟨repeated 7, repeated 3, repeated 1, .recording, .shown, 20⟩ : AccessRecord) =
        record := List.singleton_inj.1 hrecord
    have hallowed := houtcome.1 rfl
    revert hallowed
    decide +kernel
  · rw [isJournalled_iff lawful_keptJournal rfl List.prefix_rfl]
    rintro ⟨record, hrecord, -, -, -, -, htenant⟩
    obtain rfl : (⟨repeated 8, repeated 4, repeated 1, .recording, .refused, 20⟩ : AccessRecord) =
        record := List.singleton_inj.1 hrecord
    revert htenant
    decide +kernel

end Pdr.Identity
