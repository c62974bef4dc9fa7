import Pdr.Identity.Application.GrowingUp
import Pdr.Identity.Policies.Payers

/-!
# One live consent for a scope

A scope of a pair has at most one consent that is not revoked: a grant asks for such a row
before it saves its own, a revocation changes the row that is there, and the unique index of the
table says the same. Therefore the consents of a pair may be weighed in any order, what asks for
the student's word is open, and no scope is both open and waiting.

## Main definitions

* `Pdr.Identity.liveRows`: the rows of a pair and a scope that are not revoked.
* `Pdr.Identity.ConsentIsTaken`: a call to the consents that the table does not refuse.

## Main results

* `Pdr.Identity.weighConsents_perm`: consents may be weighed in any order.
* `Pdr.Identity.along_attend_consentIsTaken`: no scenario relies on the index.
* `Pdr.Identity.one_live_row_per_scope`: at most one live row, and what follows from it.
-/

namespace Pdr.Identity

open StoreProgram Program

/-! ### Weighing in any order -/

section Weighing

variable {consents consents' : List GuardianConsent} {bornOn : Option BirthDate}
  {rule : MaturityRule} {now : Int} {guardianshipHolds : Bool} {scope : GuardianScope}

/-- Two consents may be weighed in either order. -/
theorem weighConsent_comm (access : GuardianAccess) (first second : GuardianConsent) :
    weighConsent bornOn rule now guardianshipHolds
        (weighConsent bornOn rule now guardianshipHolds access first) second =
      weighConsent bornOn rule now guardianshipHolds
        (weighConsent bornOn rule now guardianshipHolds access second) first := by
  have hswap : ∀ (set : GuardianScopeSet) (a b : Bool),
      (if b then (if a then set.insert first.scope else set).insert second.scope
        else if a then set.insert first.scope else set) =
      (if a then (if b then set.insert second.scope else set).insert first.scope
        else if b then set.insert second.scope else set) := by
    intro set a b
    cases a <;> cases b <;> simp [BitSet.insert_insert_comm]
  simp only [weighConsent_eq, GuardianAccess.mk.injEq]
  exact ⟨hswap _ _ _, hswap _ _ _, hswap _ _ _⟩

theorem weighConsents_perm (h : consents.Perm consents') :
    weighConsents consents bornOn rule now guardianshipHolds =
      weighConsents consents' bornOn rule now guardianshipHolds :=
  h.foldl_eq' (fun first _ second _ access => weighConsent_comm access first second) {}

/-- What asks for the student's word is open. -/
theorem opened_of_deciding
    (h : (weighConsents consents bornOn rule now guardianshipHolds).deciding.has scope = true) :
    (weighConsents consents bornOn rule now guardianshipHolds).opened.has scope = true := by
  obtain ⟨hopened, hdeciding, -⟩ :=
    has_weighConsents bornOn rule now guardianshipHolds consents scope
  rw [hdeciding] at h
  rw [hopened]
  obtain ⟨consent, hmem, hasks⟩ := List.any_eq_true.1 h
  simp only [GuardianConsent.asks, Bool.and_eq_true] at hasks
  exact List.any_eq_true.2 ⟨consent, hmem, Bool.and_eq_true_iff.2 ⟨hasks.1.1, hasks.2⟩⟩

/-- Where each scope has one consent, none is both open and waiting for the student. -/
theorem not_opened_and_awaited
    (honce : ∀ a ∈ consents, ∀ b ∈ consents, a.scope = b.scope → a = b) :
    ¬ ((weighConsents consents bornOn rule now guardianshipHolds).opened.has scope = true ∧
      (weighConsents consents bornOn rule now guardianshipHolds).awaitsStudent.has scope =
        true) := by
  obtain ⟨hopened, -, hawaits⟩ :=
    has_weighConsents bornOn rule now guardianshipHolds consents scope
  rw [hopened, hawaits, List.any_eq_true, List.any_eq_true]
  rintro ⟨⟨a, ha, hopens⟩, b, hb, hwaits⟩
  simp only [GuardianConsent.opens, GuardianConsent.waits, Bool.and_eq_true, Bool.not_eq_true',
    decide_eq_true_eq] at hopens hwaits
  obtain rfl := honce a ha b hb (hopens.2.symm.trans hwaits.2)
  rw [hopens.1.2] at hwaits
  cases hwaits.1.2

end Weighing

/-! ### The rows of a scope -/

/-- The rows of a pair and a scope that are not revoked. -/
def liveRows (tenant : TenantId) (guardian student : PersonId) (scope : GuardianScope)
    (db : Database) : List GuardianConsent :=
  (ConsentCall.activeRows tenant guardian student db.consents.rows).filter (·.scope = scope)

section Rows

variable {tenant : TenantId} {guardian student : PersonId} {scope : GuardianScope}

theorem mem_activeRows {rows : List GuardianConsent} {row : GuardianConsent} :
    row ∈ ConsentCall.activeRows tenant guardian student rows ↔
      row ∈ rows ∧ row.tenant = tenant ∧ row.guardian = guardian ∧ row.student = student ∧
        row.revokedAt = none := by
  simp [ConsentCall.activeRows, and_assoc]

theorem clash_consents_iff {a b : GuardianConsent} :
    Schema.clash a b = true ↔ a.tenant = b.tenant ∧ (a.id = b.id ∨ a.guardian = b.guardian ∧
      a.student = b.student ∧ a.scope = b.scope ∧ a.revokedAt = none ∧ b.revokedAt = none) := by
  simp [Schema.clash, and_assoc]

/-- The table has one live row for a pair and a scope. -/
theorem eq_of_live {table : Table GuardianConsent} {a b : GuardianConsent}
    (ha : a ∈ ConsentCall.activeRows tenant guardian student table.rows)
    (hb : b ∈ ConsentCall.activeRows tenant guardian student table.rows)
    (hscope : a.scope = b.scope) : a = b := by
  obtain ⟨hmemA, htenantA, hguardianA, hstudentA, hliveA⟩ := mem_activeRows.1 ha
  obtain ⟨hmemB, htenantB, hguardianB, hstudentB, hliveB⟩ := mem_activeRows.1 hb
  refine table.eq_of_clash hmemA hmemB (clash_consents_iff.2 ⟨htenantA.trans htenantB.symm, ?_⟩)
  exact Or.inr ⟨hguardianA.trans hguardianB.symm, hstudentA.trans hstudentB.symm, hscope, hliveA,
    hliveB⟩

theorem length_liveRows_le_one (db : Database) :
    (liveRows tenant guardian student scope db).length ≤ 1 := by
  rw [liveRows, ConsentCall.activeRows, List.filter_filter]
  refine db.consents.length_filter_le_one _ fun a b ha hb => ?_
  simp only [Bool.and_eq_true, decide_eq_true_eq] at ha hb
  simp [Schema.clash, ha, hb]

end Rows

/-! ### What the index never refuses -/

/-- A call to the consents that the table does not refuse. -/
def ConsentIsTaken : Call → Database → Prop
  | .consents asked, db => ∃ answer, (asked.exec db.consents).1 = .ok answer
  | _, _ => True

/-- The identifier drawn for a consent is new in the tenant. -/
def IsNewConsentId (db : Database) (tenant : TenantId) (id : ConsentId) : Prop :=
  ∀ row ∈ db.consents.rows, row.tenant = tenant → row.id ≠ id

section Taken

variable {db : Database} {consent : GuardianConsent}

/-- A new consent is taken where its scope has no live row. -/
theorem consentIsTaken_of_new (hid : IsNewConsentId db consent.tenant consent.id)
    (hfree : ∀ row ∈ ConsentCall.activeRows consent.tenant consent.guardian consent.student
      db.consents.rows, row.scope ≠ consent.scope) :
    ConsentIsTaken (.consents (.save consent)) db := by
  have hother : ∀ row ∈ db.consents.rows,
      (row.tenant = consent.tenant && row.id = consent.id) = false := by
    intro row hrow
    simpa using hid row hrow
  have hclash : ∀ row ∈ db.consents.rows, Schema.clash row consent = false := by
    intro row hrow
    refine Bool.eq_false_iff.2 fun hclash => ?_
    obtain ⟨htenant, hsame | ⟨hguardian, hstudent, hscope, hlive, -⟩⟩ :=
      clash_consents_iff.1 hclash
    · exact hid row hrow htenant hsame
    · exact hfree row (mem_activeRows.2 ⟨hrow, htenant, hguardian, hstudent, hlive⟩) hscope
  obtain ⟨table', hinsert⟩ : ∃ table', db.consents.insert consent = some table' :=
    Table.exists_insert rfl hclash
  have hall : (db.consents.rows.all fun row =>
      !(row.tenant = consent.tenant && row.id = consent.id) ||
        ConsentCall.mayTake consent row) = true := by
    refine List.all_eq_true.2 fun row hrow => ?_
    rw [hother row hrow]
    rfl
  have hany : ¬ (db.consents.rows.any fun row =>
      row.tenant = consent.tenant && row.id = consent.id) = true := by
    rw [List.any_eq_true]
    rintro ⟨row, hrow, hsame⟩
    rw [hother row hrow] at hsame
    cases hsame
  refine ⟨(), ?_⟩
  simp only [ConsentCall.exec]
  rw [if_pos hall, Table.upsert, if_neg hany, hinsert, commit]

/-- A revocation leaves the key of a row, and does not make it live. -/
theorem withRevocationOf_key {later : GuardianConsent} (hrevoked : later.revokedAt ≠ none)
    (row : GuardianConsent) :
    let changed := ConsentCall.withRevocationOf later row
    changed.tenant = row.tenant ∧ changed.id = row.id ∧ changed.guardian = row.guardian ∧
      changed.student = row.student ∧ changed.scope = row.scope ∧
      (changed.revokedAt = none → row.revokedAt = none) := by
  dsimp only
  unfold ConsentCall.withRevocationOf
  split
  · exact ⟨rfl, rfl, rfl, rfl, rfl, fun h => absurd h hrevoked⟩
  · exact ⟨rfl, rfl, rfl, rfl, rfl, id⟩

/-- The revocation of a stored consent is taken. -/
theorem consentIsTaken_of_revoked {later : GuardianConsent} {at_ : Int} {by_ : PersonId}
    (hmem : consent ∈ db.consents.rows) (h : consent.revoked at_ by_ = .ok later) :
    ConsentIsTaken (.consents (.save later)) db := by
  obtain ⟨htenant, hid, hlater⟩ := GuardianConsent.revoked_eq_ok h
  have hrevoked : later.revokedAt ≠ none := by
    unfold GuardianConsent.revoked at h
    split_ifs at h
    cases h
    simp
  have hself : ∀ row ∈ db.consents.rows, row.tenant = later.tenant → row.id = later.id →
      row = consent := by
    intro row hrow hrowTenant hrowId
    refine db.consents.eq_of_clash hrow hmem (clash_consents_iff.2 ⟨?_, Or.inl ?_⟩)
    · rw [hrowTenant, htenant]
    · rw [hrowId, hid]
  have hall : (db.consents.rows.all fun row =>
      !(row.tenant = later.tenant && row.id = later.id) || ConsentCall.mayTake later row) =
        true := by
    refine List.all_eq_true.2 fun row hrow => ?_
    by_cases hsame : row.tenant = later.tenant ∧ row.id = later.id
    · obtain rfl := hself row hrow hsame.1 hsame.2
      rw [Bool.or_eq_true]
      refine Or.inr ?_
      rw [ConsentCall.mayTake, Option.all_eq_true]
      exact fun revoked hrevokedAt => decide_eq_true (hlater revoked hrevokedAt)
    · rw [not_and_or] at hsame
      rcases hsame with hne | hne <;> simp [hne]
  have hkey : ∀ row : GuardianConsent,
      let changed := if (row.tenant = later.tenant && row.id = later.id) = true then
        ConsentCall.withRevocationOf later row else row
      changed.tenant = row.tenant ∧ changed.id = row.id ∧ changed.guardian = row.guardian ∧
        changed.student = row.student ∧ changed.scope = row.scope ∧
        (changed.revokedAt = none → row.revokedAt = none) := by
    intro row
    dsimp only
    split
    · exact withRevocationOf_key hrevoked row
    · exact ⟨rfl, rfl, rfl, rfl, rfl, id⟩
  have htaken : ∃ table', db.consents.upsert
      (fun row => row.tenant = later.tenant && row.id = later.id)
      (ConsentCall.withRevocationOf later) later = some table' := by
    refine Table.exists_upsert (fun _ _ _ => rfl) (fun a b hclash => ?_) fun hnone => ?_
    · obtain ⟨htenantA, hidA, hguardianA, hstudentA, hscopeA, hliveA⟩ := hkey a
      obtain ⟨htenantB, hidB, hguardianB, hstudentB, hscopeB, hliveB⟩ := hkey b
      rw [clash_consents_iff] at hclash ⊢
      rw [htenantA, htenantB, hidA, hidB, hguardianA, hguardianB, hstudentA, hstudentB, hscopeA,
        hscopeB] at hclash
      obtain ⟨hsame, hkeyId | ⟨hguardian, hstudent, hscope, hlive, hlive'⟩⟩ := hclash
      · exact ⟨hsame, Or.inl hkeyId⟩
      · exact ⟨hsame, Or.inr ⟨hguardian, hstudent, hscope, hliveA hlive, hliveB hlive'⟩⟩
    · have hfound := hnone consent hmem
      simp [htenant, hid] at hfound
  obtain ⟨table', hupsert⟩ := htaken
  refine ⟨(), ?_⟩
  simp only [ConsentCall.exec]
  rw [if_pos hall, hupsert, commit]

end Taken

section Scenarios

variable {db : Database} {drawn : Drawn}

theorem consentsTaken_of_only {α : Type} {ports : List Port} {scenario : Scenario α}
    (hports : Port.consents ∉ ports) (h : scenario.Only (Call.IsTo ports)) (db : Database) :
    scenario.Along database ConsentIsTaken db := by
  refine along_of_only (fun asked hasked db => ?_) h db
  cases asked with
  | consents _ => exact absurd (List.contains_iff_mem.1 hasked) hports
  | _ => trivial

theorem consentsTaken_grantGuardianScope (rule : Result MaturityRule)
    {request : GrantGuardianScopeRequest}
    (hnew : IsNewConsentId db request.tenant drawn.consentId) :
    (grantGuardianScope rule drawn request).Along database ConsentIsTaken db := by
  refine along_ofExcept_bind fun rule _ => ?_
  refine Along.bind (consentsTaken_of_only (by decide) (footprint_requireBasis request) db)
    fun _ db' hbasis => ?_
  obtain rfl : db' = db := by
    have hstate := congrArg Prod.snd hbasis
    rwa [run_requireBasis_snd, eq_comm] at hstate
  refine along_perform_bind ⟨_, rfl⟩ fun live db' hlive => ?_
  obtain ⟨hanswer, rfl⟩ := Prod.mk.inj hlive
  cases live with
  | some _ => trivial
  | none =>
    refine along_perform_bind trivial fun bornOn db' hborn => ?_
    obtain ⟨-, rfl⟩ := Prod.mk.inj hborn
    split
    · trivial
    · refine along_ofExcept_bind fun consent hgrant => ?_
      obtain ⟨hid, htenant, hguardian, hstudent, hscope, -⟩ :=
        GuardianConsent.grant_eq_ok ((Result.orRefuse_eq_ok _ _).1 hgrant)
      refine along_perform_bind (consentIsTaken_of_new ?_ ?_) fun _ _ _ => trivial
      · rw [htenant, hid]
        exact hnew
      · -- The scenario has just asked for a live row of the scope.
        rw [htenant, hguardian, hstudent, hscope]
        have hnone := List.find?_eq_none.1 (Except.ok.inj hanswer)
        intro row hrow hsame
        exact hnone row hrow (decide_eq_true hsame)

theorem consentsTaken_revokeGuardianScope (request : RevokeGuardianScopeRequest) :
    (revokeGuardianScope drawn request).Along database ConsentIsTaken db := by
  refine along_perform_bind ⟨_, rfl⟩ fun found db' hfind => ?_
  obtain ⟨hanswer, rfl⟩ := Prod.mk.inj hfind
  cases found with
  | none => trivial
  | some found =>
    have hmem : found ∈ db.consents.rows :=
      (mem_activeRows.1 (List.mem_of_find?_eq_some (Except.ok.inj hanswer))).1
    refine along_ofExcept_bind fun later hlater => (along_perform _).2 ?_
    exact consentIsTaken_of_revoked hmem ((Result.orRefuse_eq_ok _ _).1 hlater)

/-- No request relies on the index of the live rows: what it saves is taken, unless the
generator repeats an identifier. -/
theorem along_attend_consentIsTaken {attended : Attendance}
    (hnew : ∀ tenant, IsNewConsentId db tenant attended.drawn.consentId) :
    (attend attended.rule attended.drawn attended.request).Along database ConsentIsTaken db := by
  obtain ⟨rule, drawn, request⟩ := attended
  cases request with
  | enrolChild request =>
    refine Along.bind ?_ fun _ _ _ => trivial
    exact consentsTaken_of_only (by decide) (only_enrolChild drawn request) db
  | grantScope request =>
    refine Along.bind ?_ fun _ _ _ => trivial
    exact consentsTaken_grantGuardianScope rule (hnew request.tenant)
  | revokeScope request => exact consentsTaken_revokeGuardianScope request
  | revokeGuardianship request =>
    refine Along.bind ?_ fun _ _ _ => trivial
    exact consentsTaken_of_only (by decide) (only_revokeGuardianship drawn request) db

end Scenarios

/-! ### After any requests -/

/-- **One live row, and so a coherent answer.** After any requests about children and watchers, each
under its own rule and at its own moment, a scope of a pair has at most one row that is not revoked.
The rows of a pair give the same access in every order and at every moment; what is being decided is
open, and nothing is both open and waiting. The scenarios see to that themselves: the next
request saves nothing that the unique index would refuse, unless an identifier repeats. -/
theorem one_live_row_per_scope (start : Database) (attendances : List Attendance) :
    let db := attendEach start attendances
    (∀ tenant guardian student scope, (liveRows tenant guardian student scope db).length ≤ 1) ∧
    (∀ tenant guardian student bornOn rule now guardianshipHolds,
      let stored := ConsentCall.activeRows tenant guardian student db.consents.rows
      ∀ consents : List GuardianConsent, consents.Perm stored →
        let access := weighConsents consents bornOn rule now guardianshipHolds
        access = weighConsents stored bornOn rule now guardianshipHolds ∧
          ∀ scope, (access.deciding.has scope = true → access.opened.has scope = true) ∧
            ¬ (access.opened.has scope = true ∧ access.awaitsStudent.has scope = true)) ∧
    ∀ next : Attendance, (∀ tenant, IsNewConsentId db tenant next.drawn.consentId) →
      (attend next.rule next.drawn next.request).Along database ConsentIsTaken db := by
  intro db
  refine ⟨fun tenant guardian student scope => length_liveRows_le_one db, ?_,
    fun next hnew => along_attend_consentIsTaken hnew⟩
  intro tenant guardian student bornOn rule now guardianshipHolds stored consents hperm access
  refine ⟨weighConsents_perm hperm, fun scope => ⟨opened_of_deciding, ?_⟩⟩
  refine not_opened_and_awaited fun a ha b hb hscope => ?_
  exact eq_of_live (hperm.subset ha) (hperm.subset hb) hscope

end Pdr.Identity
