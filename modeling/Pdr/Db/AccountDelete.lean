import Pdr.Db.Schema

/-!
# Deleting a practice

`db/account/delete.sql` deletes the rows of one tenant from twelve tables, those that refer
before those they refer to, in one transaction. The comment at its head promises that a
forgotten table makes it fail and leaves no tail. Two tables of later migrations are forgotten.
One of them refers to a person and makes the script fail; the other refers to nothing, and its
rows stay.

## Main definitions

* `Pdr.Db.accountDelete`: the script.
* `Pdr.Db.LeavesNothing`: the practice is gone, and nothing else is.

## Main results

* `Pdr.Db.accountDelete_leaves_nothing_iff`: which practices can leave.
* `Pdr.Db.agreed_practice_cannot_leave`: two that cannot.
-/

namespace Pdr.Db

open StoreProgram Identity

/-! ### The script -/

/-- `where tenant_id = :'tenant'::uuid`. -/
def ofTenant (tenant : TenantId) (table : TableName) (row : Row table) : Bool :=
  tenantOf table row = some tenant

/-- The tables of the script, in its order. -/
def deletedTables : List TableName :=
  [.jobsEffect, .observabilityProductEvent, .identityLoginAttempt, .identityOneTimeToken,
    .identitySession, .identityCredential, .identityAccessLog, .identityGuardianConsent,
    .identityGuardianship, .identityRoleAssignment, .identityPerson, .identityTenant]

/-- `delete.sql`: whether it gets to its end, and the tables after it. -/
def accountDelete (tenant : TenantId) (db : Database) : Bool × Tables Row :=
  inTransaction (deleteAll foreignKeys (ofTenant tenant) deletedTables) db.tables

/-! ### What it should do -/

/-- The script gets to its end, no row of the tenant is left, and all other rows are as they
were. -/
structure LeavesNothing (tenant : TenantId) (db : Database) : Prop where
  finishes : (accountDelete tenant db).1 = true
  nothingLeft : ∀ table, ∀ row ∈ ((accountDelete tenant db).2 table).rows,
    tenantOf table row ≠ some tenant
  othersStay : ∀ table, ((accountDelete tenant db).2 table).rows.filter (!ofTenant tenant table ·) =
    (db.tables table).rows.filter (!ofTenant tenant table ·)
  clusterStays : ∀ table ∈ clusterTables, (accountDelete tenant db).2 table = db.tables table

/-! ### What it does -/

/-- A reference does not leave its tenant: every key has `tenant_id` in it. -/
theorem together_of_mem {tenant : TenantId} {key : ForeignKey Row} (hkey : key ∈ foreignKeys) :
    key.Together (ofTenant tenant) := by
  intro row named hrefers
  rcases List.mem_append.1 hkey with hkey | hkey
  · obtain ⟨table, -, rfl⟩ := List.mem_map.1 hkey
    have htenant : tenantOf table row = some (IdentityTenant.tenantId named) := hrefers
    simp only [ofTenant, toTenant, htenant]
    rfl
  · obtain ⟨⟨table, column⟩, -, rfl⟩ := List.mem_map.1 hkey
    obtain ⟨owner, howner, hperson⟩ := Option.bind_eq_some_iff.1 hrefers
    obtain ⟨person, -, hsame⟩ := Option.map_eq_some_iff.1 hperson
    have htenant : tenantOf table row = some (IdentityPerson.tenantId named) := by
      rw [howner, (Prod.mk.inj hsame).1]
    simp only [ofTenant, toPerson, htenant]
    rfl

/-- The tenant has no row in the table. -/
def HasNone (tenant : TenantId) (table : TableName) (tables : Tables Row) : Prop :=
  ∀ row ∈ (tables table).rows, tenantOf table row ≠ some tenant

instance (tenant : TenantId) (table : TableName) (tables : Tables Row) :
    Decidable (HasNone tenant table tables) :=
  inferInstanceAs (Decidable (∀ row ∈ (tables table).rows, tenantOf table row ≠ some tenant))

/-- The script takes people before the consents that refer to them, and no other row too
early. -/
theorem child_of_late : ∀ key ∈ foreignKeys,
    key.Late deletedTables → key.child = .identityConsent := by
  decide

/-- The key by which a consent refers to the person it is about. -/
def consentSubject : ForeignKey Row :=
  toPerson .identityConsent fun row : IdentityConsent => some row.subjectId

theorem consentSubject_mem : consentSubject ∈ foreignKeys := by
  refine List.mem_append_right _ (List.mem_map.2 ⟨⟨.identityConsent, _⟩, ?_, rfl⟩)
  simp [personColumns]

theorem quiet_iff {tenant : TenantId} {tables : Tables Row} :
    (∀ key ∈ foreignKeys, key.Late deletedTables → key.Quiet (ofTenant tenant) tables) ↔
      HasNone tenant .identityConsent tables := by
  constructor
  · intro hquiet row hrow htenant
    have hchosen : ofTenant tenant .identityConsent row = true := decide_eq_true htenant
    have hnone := hquiet consentSubject consentSubject_mem (by decide) row hrow hchosen
    cases hnone
  · intro hnone key hkey hlate row hrow hchosen
    have hchild : HasNone tenant key.child tables := child_of_late key hkey hlate ▸ hnone
    exact absurd (of_decide_eq_true hchosen) (hchild row hrow)

variable {tenant : TenantId} {db : Database}

theorem accountDelete_of_hasNone (h : HasNone tenant .identityConsent db.tables) :
    accountDelete tenant db = (true, sweep (ofTenant tenant) deletedTables db.tables) := by
  have hall : deleteAll foreignKeys (ofTenant tenant) deletedTables db.tables =
      some (sweep (ofTenant tenant) deletedTables db.tables) :=
    (deleteAll_eq_some_iff db.references fun _ hkey => together_of_mem hkey).2
      ⟨quiet_iff.2 h, rfl⟩
  rw [accountDelete, inTransaction, hall]

theorem accountDelete_of_not_hasNone (h : ¬ HasNone tenant .identityConsent db.tables) :
    accountDelete tenant db = (false, db.tables) := by
  have hall : deleteAll foreignKeys (ofTenant tenant) deletedTables db.tables = none := by
    refine Option.eq_none_iff_forall_ne_some.2 fun after hafter => h (quiet_iff.1 ?_)
    exact ((deleteAll_eq_some_iff db.references fun _ hkey => together_of_mem hkey).1 hafter).1
  rw [accountDelete, inTransaction, hall]

theorem filter_accountDelete (table : TableName) :
    ((accountDelete tenant db).2 table).rows.filter (!ofTenant tenant table ·) =
      (db.tables table).rows.filter (!ofTenant tenant table ·) := by
  by_cases h : HasNone tenant .identityConsent db.tables
  · rw [accountDelete_of_hasNone h]
    exact filter_sweep table
  · rw [accountDelete_of_not_hasNone h]

/-- Whatever the script does, the tables of the whole cluster stay. -/
theorem accountDelete_of_clusterTables {table : TableName} (htable : table ∈ clusterTables) :
    (accountDelete tenant db).2 table = db.tables table := by
  by_cases h : HasNone tenant .identityConsent db.tables
  · have hnot : table ∉ deletedTables := by
      revert htable
      revert table
      decide
    rw [accountDelete_of_hasNone h]
    exact sweep_of_notMem hnot
  · rw [accountDelete_of_not_hasNone h]

theorem tables_cases (table : TableName) :
    table ∈ deletedTables ∨ table ∈ clusterTables ∨ table = .identityConsent ∨
      table = .httpIdempotencyKey := by
  cases table <;> decide

theorem leavesNothing_of_hasNone (hconsents : HasNone tenant .identityConsent db.tables)
    (hkeys : HasNone tenant .httpIdempotencyKey db.tables) : LeavesNothing tenant db where
  finishes := by rw [accountDelete_of_hasNone hconsents]
  nothingLeft table row hrow := by
    rw [accountDelete_of_hasNone hconsents] at hrow
    obtain ⟨hstored, hswept⟩ := mem_sweep.1 hrow
    rcases tables_cases table with hmem | hmem | rfl | rfl
    · exact of_decide_eq_false (hswept hmem)
    · rw [tenantOf_of_clusterTables hmem]
      exact nofun
    · exact hconsents row hstored
    · exact hkeys row hstored
  othersStay := filter_accountDelete
  clusterStays _ := accountDelete_of_clusterTables

/-- **A practice can leave exactly when it has neither consents to the processing of data nor
keys of repeated requests.** -/
theorem accountDelete_leaves_nothing_iff (db : Database) (tenant : TenantId) :
    LeavesNothing tenant db ↔
      HasNone tenant .identityConsent db.tables ∧ HasNone tenant .httpIdempotencyKey db.tables := by
  refine ⟨fun h => ?_, fun h => leavesNothing_of_hasNone h.1 h.2⟩
  have hconsents : HasNone tenant .identityConsent db.tables := by
    by_contra hsome
    have hfinishes := h.finishes
    rw [accountDelete_of_not_hasNone hsome] at hfinishes
    cases hfinishes
  refine ⟨hconsents, fun row hrow => ?_⟩
  have hleft := h.nothingLeft .httpIdempotencyKey row
  rw [accountDelete_of_hasNone hconsents] at hleft
  exact hleft (mem_sweep.2 ⟨hrow, fun hmem => absurd hmem (by decide)⟩)

/-! ### A practice that cannot leave -/

/-- The practice of the examples, and its tutor. -/
def leaving : TenantId := ⟨Vector.replicate 16 1⟩

/-- The person who teaches in it. -/
def itsTutor : PersonId := ⟨Vector.replicate 16 2⟩

/-- Its tutor has agreed to the processing of his data, at the box he ticked when he came. -/
def agreement : IdentityConsent where
  tenantId := leaving
  id := Vector.replicate 16 3
  subjectId := itsTutor
  givenBy := itsTutor
  kind := .processing
  version := 1
  action := .signUpCheckbox
  givenAt := 0
  withdrawnAt := none

/-- A request of the practice was answered and its answer saved. -/
def answeredRequest : HttpIdempotencyKey where
  tenantId := leaving
  key := ascii "lesson-0001"
  requestFingerprint := List.replicate 64 48
  state := .completed
  responseStatus := some 201
  responseBody := some (ascii "\x7b\x7d")
  createdAt := 0
  expiresAt := 1

/-- A practice with one person, and these consents and keys. -/
def practiceWith (consents : Table IdentityConsent) (keys : Table HttpIdempotencyKey) : Tables Row
  | .identityTenant =>
    (⟨[⟨leaving, ascii "Math", ascii "Europe/Moscow", .hidden, none⟩], by decide, by simp⟩ :
      Table IdentityTenant)
  | .identityPerson =>
    (⟨[⟨leaving, itsTutor, ascii "Anna", none, ascii "Europe/Moscow"⟩], by decide, by simp⟩ :
      Table IdentityPerson)
  | .identityConsent => consents
  | .httpIdempotencyKey => keys
  | _ => Table.empty

/-- A practice whose tutor agreed to the processing. -/
def agreedPractice : Database where
  tables := practiceWith ⟨[agreement], by decide, by simp⟩ Table.empty
  references := by decide

/-- A practice with a request that was answered. -/
def answeredPractice : Database where
  tables := practiceWith Table.empty ⟨[answeredRequest], by decide, by simp⟩
  references := by decide

/-- A practice whose tutor agreed is not deleted; one whose request was answered is, and the
answer stays. -/
theorem agreed_practice_cannot_leave :
    (¬ HasNone leaving .identityTenant agreedPractice.tables ∧
      accountDelete leaving agreedPractice = (false, agreedPractice.tables)) ∧
    (¬ HasNone leaving .identityTenant answeredPractice.tables ∧
      (accountDelete leaving answeredPractice).1 = true ∧
      ¬ HasNone leaving .httpIdempotencyKey (accountDelete leaving answeredPractice).2) ∧
    ¬ ∀ (db : Database) (tenant : TenantId), ¬ HasNone tenant .identityTenant db.tables →
      LeavesNothing tenant db := by
  have hagreed : accountDelete leaving agreedPractice = (false, agreedPractice.tables) :=
    accountDelete_of_not_hasNone (by decide)
  have hanswered : accountDelete leaving answeredPractice =
      (true, sweep (ofTenant leaving) deletedTables answeredPractice.tables) :=
    accountDelete_of_hasNone (by decide)
  refine ⟨⟨by decide, hagreed⟩, ⟨by decide, ?_, ?_⟩, fun h => ?_⟩
  · rw [hanswered]
  · rw [hanswered]
    decide
  · have hfinishes := (h agreedPractice leaving (by decide)).finishes
    rw [hagreed] at hfinishes
    cases hfinishes

end Pdr.Db
