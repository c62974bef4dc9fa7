import Pdr.Identity.Policies.LiveScopes

/-!
# After a guardianship was revoked

The revocation of a guardianship changes one row, and no consent. What rested on the guardianship
closes all the same, because whoever reads consents asks for the guardianship too: the weighing
skips what rests on one that does not hold, and a grant on that basis is refused. Consents
by the student's own word stay as they were.

## Main definitions

* `Pdr.Identity.Database.Unguarded`: no active guardianship of the pair is stored.
* `Pdr.Identity.Attendance.MakesGuardian`: the request saves a guardianship of the pair.
* `Pdr.Identity.namedConsents`: the live consents of a pair by the student's own word.

## Main results

* `Pdr.Identity.unguarded_of_revoked`: a revocation leaves the pair without guardianship.
* `Pdr.Identity.unguarded_attendEach`: so do later requests that make no guardian.
* `Pdr.Identity.revoked_guardianship_closes`: what is open after it.
-/

namespace Pdr.Identity

open StoreProgram Program

/-! ### Weighing what counts -/

section Weighing

variable {consents : List GuardianConsent} {bornOn : Option BirthDate} {rule : MaturityRule}
  {now : Int} {guardianshipHolds : Bool}

theorem weighConsent_of_not_counts {access : GuardianAccess} {consent : GuardianConsent}
    (h : consent.counts now guardianshipHolds = false) :
    weighConsent bornOn rule now guardianshipHolds access consent = access := by
  rw [weighConsent_eq]
  simp [GuardianConsent.opens, GuardianConsent.asks, GuardianConsent.waits, h]

/-- Consents that do not count may be left out. -/
theorem weighConsents_filter (kept : GuardianConsent → Bool)
    (h : ∀ consent ∈ consents, kept consent = false →
      consent.counts now guardianshipHolds = false) :
    weighConsents consents bornOn rule now guardianshipHolds =
      weighConsents (consents.filter kept) bornOn rule now guardianshipHolds := by
  have general : ∀ access : GuardianAccess,
      consents.foldl (weighConsent bornOn rule now guardianshipHolds) access =
        (consents.filter kept).foldl (weighConsent bornOn rule now guardianshipHolds) access := by
    induction consents with
    | nil => exact fun _ => rfl
    | cons consent consents ih =>
      have hrest := ih fun other hother => h other (List.mem_cons_of_mem consent hother)
      intro access
      by_cases hkept : kept consent = true
      · rw [List.filter_cons_of_pos hkept, List.foldl_cons, List.foldl_cons, hrest]
      · have hcounts := h consent List.mem_cons_self (Bool.eq_false_iff.2 hkept)
        rw [List.filter_cons_of_neg hkept, List.foldl_cons, weighConsent_of_not_counts hcounts,
          hrest]
  exact general {}

/-- Whether a guardianship holds makes no difference to consents that rest on none. -/
theorem weighConsents_of_no_guardianship
    (h : ∀ consent ∈ consents, consent.restsOnGuardianship = false) (other : Bool) :
    weighConsents consents bornOn rule now guardianshipHolds =
      weighConsents consents bornOn rule now other := by
  refine List.foldl_ext _ _ _ fun access consent hconsent => ?_
  have hcounts : consent.counts now guardianshipHolds = consent.counts now other := by
    simp [GuardianConsent.counts, h consent hconsent]
  rw [weighConsent_eq, weighConsent_eq]
  simp [GuardianConsent.opens, GuardianConsent.asks, GuardianConsent.waits, hcounts]

end Weighing

/-! ### A pair without guardianship -/

/-- No active guardianship of the pair is stored. -/
def Database.Unguarded (db : Database) (tenant : TenantId) (guardian student : PersonId) : Prop :=
  ∀ row ∈ db.guardianships.rows, GuardianshipCall.isOf tenant guardian student row = true →
    row.isActive = false

/-- The request enrols a child, and thereby makes the person its guardian. -/
def Attendance.MakesGuardian (attended : Attendance) (tenant : TenantId)
    (guardian student : PersonId) : Prop :=
  ∃ request, attended.request = .enrolChild request ∧ request.tenant = tenant ∧
    request.guardian = guardian ∧ attended.drawn.personId = student

section Unguarded

variable {db db' : Database} {tenant : TenantId} {guardian student : PersonId}

theorem isOf_pair_iff {row : Guardianship} :
    GuardianshipCall.isOf tenant guardian student row = true ↔
      row.tenant = tenant ∧ row.guardian = guardian ∧ row.student = student := by
  simp [GuardianshipCall.isOf, and_assoc]

theorem findActive_eq_none_iff :
    (db.guardianships.find? fun row =>
        GuardianshipCall.isOf tenant guardian student row && row.isActive) = none ↔
      db.Unguarded tenant guardian student := by
  simp only [Table.find?, List.find?_eq_none, Bool.and_eq_true, not_and, Database.Unguarded,
    Bool.not_eq_true]

/-- Each guardianship after a save is a stored one, or the one saved. -/
theorem guardianships_of_save {saved row : Guardianship}
    (h : row ∈ (database.exec (.guardianships (.save saved)) db).2.guardianships.rows) :
    row = saved ∨ row ∈ db.guardianships.rows := by
  simp only [exec_guardianships, GuardianshipCall.exec, commit_snd] at h
  cases hupsert : db.guardianships.upsert
      (GuardianshipCall.isOf saved.tenant saved.guardian saved.student) (fun _ => saved) saved with
  | none =>
    rw [hupsert] at h
    exact Or.inr h
  | some table =>
    rw [hupsert, Option.getD_some] at h
    rcases Table.upsert_cases hupsert with ⟨-, hupdate⟩ | ⟨-, hinsert⟩
    · obtain ⟨stored, hstored, hrow⟩ := (Table.mem_updateWhere hupdate row).1 h
      split at hrow
      · exact Or.inl hrow
      · exact Or.inr (hrow ▸ hstored)
    · exact ((Table.mem_insert hinsert row).1 h).symm

theorem unguarded_save {saved : Guardianship}
    (hsaved : GuardianshipCall.isOf tenant guardian student saved = true →
      saved.isActive = false) (h : db.Unguarded tenant guardian student) :
    (database.exec (.guardianships (.save saved)) db).2.Unguarded tenant guardian student := by
  intro row hrow hpair
  rcases guardianships_of_save hrow with rfl | hstored
  · exact hsaved hpair
  · exact h row hstored hpair

theorem isActive_of_revoked {found later : Guardianship} {now : Int}
    (h : found.revoked now = .ok later) :
    later.tenant = found.tenant ∧ later.guardian = found.guardian ∧
      later.student = found.student ∧ later.isActive = false := by
  unfold Guardianship.revoked at h
  split_ifs at h
  cases h
  exact ⟨rfl, rfl, rfl, rfl⟩

/-- A save of the pair's own guardianship leaves no other row of the pair. -/
theorem eq_of_saved {saved row : Guardianship} {answer : Unit}
    (h : database.exec (.guardianships (.save saved)) db = (.ok answer, db'))
    (hrow : row ∈ db'.guardianships.rows)
    (hpair : GuardianshipCall.isOf saved.tenant saved.guardian saved.student row = true) :
    row = saved := by
  obtain ⟨hanswer, rfl⟩ := Prod.mk.inj h
  have hupsert := commit_fst_ok hanswer
  have hself : GuardianshipCall.isOf saved.tenant saved.guardian saved.student saved = true :=
    isOf_pair_iff.2 ⟨rfl, rfl, rfl⟩
  have hsaved : saved ∈ (database.exec (.guardianships (.save saved)) db).2.guardianships.rows := by
    rcases Table.upsert_cases hupsert with ⟨⟨stored, hstored, hconflict⟩, hupdate⟩ | ⟨-, hinsert⟩
    · refine (Table.mem_updateWhere hupdate saved).2 ⟨stored, hstored, ?_⟩
      rw [if_pos hconflict]
    · exact (Table.mem_insert hinsert saved).2 (Or.inr rfl)
  refine Table.eq_of_clash _ hrow hsaved ?_
  obtain ⟨htenant, hguardian, hstudent⟩ := isOf_pair_iff.1 hpair
  simp [Schema.clash, htenant, hguardian, hstudent]

/-- **A revocation leaves the pair without guardianship.** -/
theorem unguarded_of_revoked {drawn : Drawn} {request : RevokeGuardianshipRequest}
    {event : GuardianshipRevoked}
    (h : (revokeGuardianship drawn request).run database db = (.ok event, db')) :
    db'.Unguarded request.tenant request.guardian request.student := by
  simp only [revokeGuardianship, run_perform_bind_eq_ok] at h
  obtain ⟨found, db₁, hfind, hrest⟩ := h
  obtain ⟨hanswer, rfl⟩ := Prod.mk.inj hfind
  cases found with
  | none => cases hrest
  | some found =>
    simp only [run_ofExcept_bind_eq_ok, run_perform_bind_eq_ok, Result.orRefuse_eq_ok,
      pure_eq_done, run_done, Prod.mk.injEq] at hrest
    obtain ⟨later, hlater, answer, db₂, hsave, -, rfl⟩ := hrest
    obtain ⟨htenant, hguardian, hstudent, hinactive⟩ := isActive_of_revoked hlater
    have hfound := Table.wanted_of_find? (Except.ok.inj hanswer)
    obtain ⟨hfoundTenant, hfoundGuardian, hfoundStudent⟩ :=
      isOf_pair_iff.1 (Bool.and_eq_true_iff.1 hfound).1
    intro row hrow hpair
    have hsame : row = later := by
      refine eq_of_saved hsave hrow ?_
      rw [htenant, hguardian, hstudent, hfoundTenant, hfoundGuardian, hfoundStudent]
      exact hpair
    rw [hsame]
    exact hinactive

theorem unguarded_of_only {α : Type} {ports : List Port} {scenario : Scenario α}
    (hports : Port.guardianships ∉ ports) (h : scenario.Only (Call.IsTo ports)) :
    scenario.Maintains database (Database.Unguarded · tenant guardian student) := by
  refine guardianships_belong.maintains h (by simpa using hports) fun hsame hdb => ?_
  rwa [Database.Unguarded, hsame]

/-- Granting a scope asks about guardianships and saves none. -/
theorem unguarded_grantGuardianScope (rule : Result MaturityRule) (drawn : Drawn)
    (request : GrantGuardianScopeRequest) :
    (grantGuardianScope rule drawn request).Maintains database
      (Database.Unguarded · tenant guardian student) := by
  have hread : ∀ asked : Call, (∀ db, (database.exec asked db).2.guardianships = db.guardianships) →
      (ask asked).Maintains database (Database.Unguarded · tenant guardian student) := by
    intro asked hasked
    refine maintains_perform.2 fun db hdb => ?_
    rwa [Database.Unguarded, hasked db]
  refine Maintains.bind (maintains_ofExcept _) fun rule => ?_
  refine Maintains.bind (fun db hdb => by rwa [run_requireBasis_snd]) fun _ => ?_
  refine Maintains.bind (hread _ fun _ => rfl) fun live => ?_
  cases live with
  | some _ => exact maintains_raise _
  | none =>
    refine Maintains.bind (hread _ fun _ => rfl) fun bornOn => ?_
    split
    · exact maintains_raise _
    · refine Maintains.bind (maintains_ofExcept _) fun consent => ?_
      exact Maintains.bind (hread _ fun _ => rfl) fun _ => maintains_done _

/-- Enrolling a child makes the parent a guardian of that child, and of nobody else. -/
theorem unguarded_enrolChild {drawn : Drawn} {request : EnrolChildRequest}
    (hother : ¬ (request.tenant = tenant ∧ request.guardian = guardian ∧
      drawn.personId = student)) :
    (enrolChild drawn request).Maintains database
      (Database.Unguarded · tenant guardian student) := by
  refine Maintains.bind (maintains_perform.2 fun _ hdb => hdb) fun enrolled => ?_
  refine Maintains.bind (maintains_ofExcept _) fun _ => ?_
  refine maintains_ofExcept_bind fun guardianship hgrant => ?_
  refine Maintains.bind (maintains_perform.2 fun db hdb => unguarded_save ?_ hdb)
    fun _ => maintains_done _
  have hmade : guardianship.tenant = request.tenant ∧ guardianship.guardian = request.guardian ∧
      guardianship.student = drawn.personId := by
    have hgranted := (Result.orRefuse_eq_ok _ _).1 hgrant
    unfold Guardianship.grant at hgranted
    split_ifs at hgranted
    cases hgranted
    exact ⟨rfl, rfl, rfl⟩
  intro hpair
  obtain ⟨htenant, hguardian, hstudent⟩ := isOf_pair_iff.1 hpair
  refine absurd ⟨?_, ?_, ?_⟩ hother
  · rw [← hmade.1, htenant]
  · rw [← hmade.2.1, hguardian]
  · rw [← hmade.2.2, hstudent]

/-- A guardianship that is saved as revoked is nobody's reason to open anything. -/
theorem unguarded_revokeGuardianship (drawn : Drawn) (request : RevokeGuardianshipRequest) :
    (revokeGuardianship drawn request).Maintains database
      (Database.Unguarded · tenant guardian student) := by
  refine Maintains.bind (maintains_perform.2 fun _ hdb => hdb) fun found => ?_
  cases found with
  | none => exact maintains_raise _
  | some found =>
    refine maintains_ofExcept_bind fun later hlater => ?_
    have hinactive := (isActive_of_revoked ((Result.orRefuse_eq_ok _ _).1 hlater)).2.2.2
    exact Maintains.bind
      (maintains_perform.2 fun db hdb => unguarded_save (fun _ => hinactive) hdb)
      fun _ => maintains_done _

/-- A request that makes no guardian of the pair leaves it without guardianship. -/
theorem unguarded_attend {attended : Attendance}
    (h : ¬ attended.MakesGuardian tenant guardian student) :
    (attend attended.rule attended.drawn attended.request).Maintains database
      (Database.Unguarded · tenant guardian student) := by
  obtain ⟨rule, drawn, request⟩ := attended
  cases request with
  | enrolChild request =>
    refine Maintains.bind (unguarded_enrolChild fun hmade => h ?_) fun _ => maintains_done _
    exact ⟨request, rfl, hmade⟩
  | grantScope request =>
    exact Maintains.bind (unguarded_grantGuardianScope rule drawn request) fun _ => maintains_done _
  | revokeScope request =>
    exact unguarded_of_only (by decide) (footprint_revokeGuardianScope request)
  | revokeGuardianship request =>
    exact Maintains.bind (unguarded_revokeGuardianship drawn request) fun _ => maintains_done _

/-- Requests that make no guardian of the pair leave it without guardianship. -/
theorem unguarded_attendEach {attendances : List Attendance}
    (h : ∀ attended ∈ attendances, ¬ attended.MakesGuardian tenant guardian student)
    (start : db.Unguarded tenant guardian student) :
    (attendEach db attendances).Unguarded tenant guardian student := by
  induction attendances generalizing db with
  | nil => exact start
  | cons attended rest ih =>
    refine ih (fun other hother => h other (List.mem_cons_of_mem attended hother)) ?_
    exact unguarded_attend (h attended List.mem_cons_self) db start

/-! ### What is open to a pair without guardianship -/

/-- The live consents of a pair by the student's own word. -/
def namedConsents (tenant : TenantId) (guardian student : PersonId) (db : Database) :
    List GuardianConsent :=
  (ConsentCall.activeRows tenant guardian student db.consents.rows).filter fun consent =>
    namedByTheStudentHimself consent.basis

theorem named_eq_not_restsOnGuardianship (consent : GuardianConsent) :
    namedByTheStudentHimself consent.basis = !consent.restsOnGuardianship := by
  have hlisted := consent.listed.2
  cases hbasis : consent.basis <;>
    simp_all [namedByTheStudentHimself, GuardianConsent.restsOnGuardianship]

/-- Without guardianship the access is that of the consents by the student's own word, weighed as
if they were all there is. -/
theorem accessOf_of_unguarded (h : db.Unguarded tenant guardian student) (rule : MaturityRule)
    (now : Int) (guardianshipHolds : Bool) :
    let view := db.accessView (.ok rule)
    view.accessOf now tenant guardian student =
      weighConsents (namedConsents tenant guardian student db) (view.bornOn tenant student) rule
        now guardianshipHolds := by
  intro view
  have hnone : view.findGuardianship tenant guardian student = none := findActive_eq_none_iff.2 h
  have hkept : ∀ consent ∈ view.activeFor tenant guardian student,
      namedByTheStudentHimself consent.basis = false → consent.counts now false = false := by
    intro consent _ hnamed
    rw [named_eq_not_restsOnGuardianship, Bool.not_eq_false'] at hnamed
    simp [GuardianConsent.counts, hnamed]
  have hfree : ∀ consent ∈ namedConsents tenant guardian student db,
      consent.restsOnGuardianship = false := by
    intro consent hconsent
    have hnamed := (List.mem_filter.1 hconsent).2
    rwa [named_eq_not_restsOnGuardianship, Bool.not_eq_true'] at hnamed
  have hview : view.accessOf now tenant guardian student =
      weighConsents (view.activeFor tenant guardian student) (view.bornOn tenant student) rule now
        false := by
    rw [AccessView.accessOf, hnone]
    rfl
  rw [hview, weighConsents_filter _ hkept]
  exact weighConsents_of_no_guardianship hfree guardianshipHolds

/-- A grant on the basis of a guardianship that does not hold is refused and changes nothing. -/
theorem grant_refused_of_unguarded (h : db.Unguarded tenant guardian student)
    (rule : Result MaturityRule) (drawn : Drawn) {request : GrantGuardianScopeRequest}
    (hpair : request.tenant = tenant ∧ request.guardian = guardian ∧ request.student = student)
    (hbasis : request.basis = .guardianship) :
    ∃ error, (grantGuardianScope rule drawn request).run database db =
      (.error (.refused error), db) := by
  obtain ⟨rfl, rfl, rfl⟩ := hpair
  cases rule with
  | error error => exact ⟨error, rfl⟩
  | ok rule =>
    refine ⟨guardianshipNotFound, ?_⟩
    simp [grantGuardianScope, requireBasis, hbasis, run_bind, GuardianshipCall.exec,
      findActive_eq_none_iff.2 h]

end Unguarded

/-- **A revoked guardianship closes what rested on it.** A guardianship was revoked, and requests
followed that made no guardian of the pair. At every moment and under every rule the access of the
pair is that of the consents by the student's own word alone; so a scope whose live consents all
rest on guardianship is in none of the three sets. And no scope is granted on that basis. -/
theorem revoked_guardianship_closes {drawn : Drawn} {request : RevokeGuardianshipRequest}
    {event : GuardianshipRevoked} {start revoked : Database}
    (hrevoked : (revokeGuardianship drawn request).run database start = (.ok event, revoked))
    {attendances : List Attendance}
    (hnobody : ∀ attended ∈ attendances,
      ¬ attended.MakesGuardian request.tenant request.guardian request.student) :
    let db := attendEach revoked attendances
    (∀ (rule : MaturityRule) (now : Int),
      let view := db.accessView (.ok rule)
      let access := view.accessOf now request.tenant request.guardian request.student
      (∀ guardianshipHolds, access =
        weighConsents (namedConsents request.tenant request.guardian request.student db)
          (view.bornOn request.tenant request.student) rule now guardianshipHolds) ∧
      ∀ scope, (∀ row ∈ liveRows request.tenant request.guardian request.student scope db,
          row.restsOnGuardianship = true) →
        access.opened.has scope = false ∧ access.deciding.has scope = false ∧
          access.awaitsStudent.has scope = false) ∧
    (∀ failure now, (db.accessView (.error failure)).accessOf now request.tenant request.guardian
      request.student = {}) ∧
    ∀ rule drawn (grant : GrantGuardianScopeRequest), grant.tenant = request.tenant ∧
        grant.guardian = request.guardian ∧ grant.student = request.student →
      grant.basis = .guardianship →
        ∃ error, (grantGuardianScope rule drawn grant).run database db =
          (.error (.refused error), db) := by
  intro db
  have hunguarded := unguarded_attendEach hnobody (unguarded_of_revoked hrevoked)
  refine ⟨fun rule now => ?_, fun _ _ => rfl, fun rule drawn grant hpair hbasis =>
    grant_refused_of_unguarded hunguarded rule drawn hpair hbasis⟩
  intro view access
  have hnamed := accessOf_of_unguarded hunguarded rule now
  refine ⟨hnamed, fun scope hrests => ?_⟩
  have hnone : ∀ consent ∈ namedConsents request.tenant request.guardian request.student db,
      consent.scope ≠ scope := by
    rintro consent hconsent rfl
    obtain ⟨hlive, hown⟩ := List.mem_filter.1 hconsent
    have hrow := hrests consent (List.mem_filter.2 ⟨hlive, decide_eq_true rfl⟩)
    rw [named_eq_not_restsOnGuardianship, hrow] at hown
    cases hown
  have hempty : ∀ chosen : GuardianConsent → Bool,
      ((namedConsents request.tenant request.guardian request.student db).any fun consent =>
        chosen consent && decide (scope = consent.scope)) = false := by
    intro chosen
    refine List.any_eq_false.2 fun consent hconsent hchosen => ?_
    exact hnone consent hconsent (of_decide_eq_true (Bool.and_eq_true_iff.1 hchosen).2).symm
  obtain ⟨hopened, hdeciding, hawaits⟩ := has_weighConsents
    (view.bornOn request.tenant request.student) rule now false
    (namedConsents request.tenant request.guardian request.student db) scope
  rw [← hnamed false] at hopened hdeciding hawaits
  exact ⟨hopened.trans (hempty _), hdeciding.trans (hempty _), hawaits.trans (hempty _)⟩

/-- The school in which the parent's guardianship was revoked a year after the enrolment. -/
def guardianshipEnded : Except Fault GuardianshipRevoked × Database :=
  (revokeGuardianship (drawnAt (afterBirthday 10 0) 5)
    ⟨repeated 7, repeated 2, repeated 1⟩).run database schoolDays

/-- The student opens the payments to somebody who pays. -/
def payerSees : GrantGuardianScopeRequest where
  tenant := repeated 7
  guardian := repeated 4
  student := repeated 1
  scope := .payments
  basis := .paysForLessons
  grantedBy := repeated 1
  expiresAt := none

/-- What follows the revocation: the parent asks for the recordings and is refused, somebody else
is granted a scope, and the parent becomes the guardian of another child. -/
def afterwards : List Attendance :=
  [⟨.ok schoolRule, drawnAt (afterBirthday 10 1) 6, .grantScope parentSees⟩,
    ⟨.ok schoolRule, drawnAt (afterBirthday 10 2) 8, .grantScope payerSees⟩,
    ⟨.ok schoolRule, drawnAt (afterBirthday 10 3) 9, .enrolChild childEnrolled⟩]

theorem afterwards_makes_no_guardian : ∀ attended ∈ afterwards,
    ¬ attended.MakesGuardian (repeated 7) (repeated 2) (repeated 1) := by
  intro attended hattended
  simp only [afterwards, List.mem_cons, List.not_mem_nil, or_false] at hattended
  rcases hattended with rfl | rfl | rfl
  · rintro ⟨request, hrequest, -⟩
    cases hrequest
  · rintro ⟨request, hrequest, -⟩
    cases hrequest
  · rintro ⟨request, -, -, -, hstudent⟩
    revert hstudent
    decide

/-- The recordings were open to the parent. They are not after the revocation and what followed,
and the parent cannot open them again. -/
theorem ended_guardianship_closes_recordings :
    let later := attendEach guardianshipEnded.2 afterwards
    let access := fun (db : Database) => (db.accessView (.ok schoolRule)).accessOf
      (afterBirthday 10 4) (repeated 7) (repeated 2) (repeated 1)
    (access schoolDays).opened.has .recordings = true ∧
      (access later).opened.has .recordings = false ∧
      later.consents.rows.length = 2 ∧ later.guardianships.rows.length = 2 ∧
      ∃ error, (grantGuardianScope (.ok schoolRule) (drawnAt (afterBirthday 10 4) 10)
        parentSees).run database later = (.error (.refused error), later) := by
  have hrevoked : (revokeGuardianship (drawnAt (afterBirthday 10 0) 5)
      ⟨repeated 7, repeated 2, repeated 1⟩).run database schoolDays =
      (.ok ⟨repeated 7, afterBirthday 10 0, repeated 2, repeated 1⟩, guardianshipEnded.2) :=
    Prod.ext (by decide +kernel : guardianshipEnded.1 =
      .ok ⟨repeated 7, afterBirthday 10 0, repeated 2, repeated 1⟩) rfl
  obtain ⟨haccess, -, hgrant⟩ := revoked_guardianship_closes hrevoked afterwards_makes_no_guardian
  refine ⟨by decide +kernel, ?_, by decide +kernel, by decide +kernel,
    hgrant _ _ parentSees ⟨rfl, rfl, rfl⟩ rfl⟩
  exact ((haccess schoolRule (afterBirthday 10 4)).2 .recordings (by decide +kernel)).1

end Pdr.Identity
