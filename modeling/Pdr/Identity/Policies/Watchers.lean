import Pdr.Identity.Application.GuardianScopes
import Pdr.Identity.Policies.ContractService

/-!
# Who acts for a student and who is shown his lessons

A watcher is tied to a student by a guardianship or by a consent the student gave about
himself. The tie is made for showing things, and the question whether somebody may act for a
student is answered from the same tie; so whoever the student names, a payer too, may act for
him. Being shown a recording takes more than the tie: a consent that opens recordings.

## Main definitions

* `Pdr.Identity.AccessView.Guards`: an active guardianship is stored.
* `Pdr.Identity.AccessView.IsNamed`: a consent by the student's own word is in force.
* `Pdr.Identity.AccessView.Opens`: a consent opens a scope to a guardian.

## Main results

* `Pdr.Identity.acting_means_guardianship_unless_named`: when acting is guardianship alone.
* `Pdr.Identity.guardian_is_shown_iff`: what opens a recording or a transcript to a guardian.
-/

namespace Pdr.Identity

open StoreProgram

namespace AccessView

variable (view : AccessView) (now : Int) (tenant : TenantId) (actor student : PersonId)

/-- An active guardianship of the first person over the second is stored. -/
def Guards : Prop :=
  ∃ row ∈ view.guardianships, row.tenant = tenant ∧ row.guardian = actor ∧
    row.student = student ∧ row.isActive = true

/-- The student has named the watcher, and the consent is in force. -/
def IsNamed : Prop :=
  ∃ consent ∈ view.consents, consent.tenant = tenant ∧ consent.guardian = actor ∧
    consent.student = student ∧ namedByTheStudentHimself consent.basis = true ∧
    consent.isActiveAt now = true

variable {view now tenant actor student}

theorem revokedAt_eq_none_of_isActiveAt {consent : GuardianConsent}
    (h : consent.isActiveAt now = true) : consent.revokedAt = none := by
  simp only [GuardianConsent.isActiveAt, Bool.and_eq_true, Option.isNone_iff_eq_none] at h
  exact h.1.1

/-- Looking after somebody else is guarding him or being named by him. -/
theorem looksAfter_iff_guards_or_named {owner : Option PersonId} (hother : student ≠ actor) :
    view.looksAfter now tenant actor ⟨tenant, owner, some student⟩ = true ↔
      view.Guards tenant actor student ∨ view.IsNamed now tenant actor student := by
  rw [looksAfter_iff rfl hother, isSome_findGuardianship]
  refine or_congr Iff.rfl ⟨?_, ?_⟩
  · rintro ⟨consent, hconsent, hnamed, hactive⟩
    obtain ⟨hmem, htenant, hguardian, hstudent, -⟩ := mem_activeFor.1 hconsent
    exact ⟨consent, hmem, htenant, hguardian, hstudent, hnamed, hactive⟩
  · rintro ⟨consent, hmem, htenant, hguardian, hstudent, hnamed, hactive⟩
    refine ⟨consent, mem_activeFor.2 ⟨hmem, htenant, hguardian, hstudent, ?_⟩, hnamed, hactive⟩
    exact revokedAt_eq_none_of_isActiveAt hactive

theorem mayActFor_iff_guards_or_named :
    view.mayActFor now tenant actor student = true ↔
      actor = student ∨ view.Guards tenant actor student ∨
        view.IsNamed now tenant actor student := by
  rw [mayActFor_iff]
  by_cases hself : actor = student
  · simp [hself]
  · rw [looksAfter_iff_guards_or_named (fun h => hself h.symm)]

end AccessView

/-! ### Acting for a student -/

/-- **Acting is guardianship, unless somebody was named.** In every state of the store, acting
for a student means being that student or his guardian exactly when the actor is one of these
or no consent by the student's own word names him. Between two states with the same
guardianships, the answers agree for those, and otherwise when the consents by the student's
word name the actor in both states or in neither. -/
theorem acting_means_guardianship_unless_named (db : Database) (rule : Result MaturityRule)
    (now : Int) (tenant : TenantId) (actor student : PersonId) :
    let view := db.accessView rule
    ((view.mayActFor now tenant actor student = true ↔
        actor = student ∨ view.Guards tenant actor student) ↔
      actor = student ∨ view.Guards tenant actor student ∨
        ¬ view.IsNamed now tenant actor student) ∧
    ∀ db' : Database, db'.guardianships = db.guardianships →
      let view' := db'.accessView rule
      (view.mayActFor now tenant actor student = view'.mayActFor now tenant actor student ↔
        actor = student ∨ view.Guards tenant actor student ∨
          (view.IsNamed now tenant actor student ↔ view'.IsNamed now tenant actor student)) := by
  intro view
  refine ⟨?_, fun db' hsame => ?_⟩
  · rw [AccessView.mayActFor_iff_guards_or_named]
    tauto
  · intro view'
    have hguards : view'.Guards tenant actor student ↔ view.Guards tenant actor student := by
      simp only [view, view', AccessView.Guards, Database.accessView, hsame]
    rw [Bool.eq_iff_iff, AccessView.mayActFor_iff_guards_or_named,
      AccessView.mayActFor_iff_guards_or_named, hguards]
    tauto

/-- A grown student names who pays for his lessons. -/
def payerNamed : GrantGuardianScopeRequest where
  tenant := repeated 7
  guardian := repeated 2
  student := repeated 1
  scope := .payments
  basis := .paysForLessons
  grantedBy := repeated 1
  expiresAt := none

/-- The store after the payer was named, and nothing else happened. -/
def payerKnown : Database :=
  attendAll (.ok schoolRule) {} [(drawnAt 10 3, .grantScope payerNamed)]

/-- The payer guards nobody, and may act for the student; without the consent he may not. -/
theorem payer_acts_for_the_student :
    payerKnown.guardianships.rows = [] ∧ (repeated 2 : PersonId) ≠ repeated 1 ∧
      (payerKnown.accessView (.ok schoolRule)).mayActFor 20 (repeated 7) (repeated 2)
        (repeated 1) = true ∧
      ({ payerKnown with consents := .empty }.accessView (.ok schoolRule)).mayActFor 20
        (repeated 7) (repeated 2) (repeated 1) = false := by
  decide +kernel

/-! ### Being shown a lesson -/

namespace AccessView

/-- A consent of the pair opens the scope to the guardian at the moment. -/
def Opens (view : AccessView) (rule : MaturityRule) (now : Int) (tenant : TenantId)
    (guardian student : PersonId) (scope : GuardianScope) : Prop :=
  ∃ consent ∈ view.consents,
    consent.scope = scope ∧
    (consent.tenant = tenant ∧ consent.guardian = guardian ∧ consent.student = student) ∧
    consent.revokedAt = none ∧ consent.grantedAt ≤ now ∧
    (∀ expires ∈ consent.expiresAt, now < expires) ∧
    (consent.basis ≠ .guardianship ∨ view.Guards tenant guardian student) ∧
    (consent.grantedBy = student ∨ view.bornOn tenant student = none ∨
      ∃ born, view.bornOn tenant student = some born ∧
        now < AgeStatus.turnsAt born (rule.thresholdYears scope) + rule.grace)

variable {view : AccessView} {now : Int} {tenant : TenantId} {guardian student : PersonId}

theorem isActiveAt_iff {consent : GuardianConsent} :
    consent.isActiveAt now = true ↔
      consent.revokedAt = none ∧ consent.grantedAt ≤ now ∧
        ∀ expires ∈ consent.expiresAt, now < expires := by
  cases hexpires : consent.expiresAt with
  | none => simp [GuardianConsent.isActiveAt, hexpires]
  | some expires => simp [GuardianConsent.isActiveAt, hexpires, and_assoc, and_comm]

theorem unopposed_iff {bornOn : Option BirthDate} {rule : MaturityRule}
    {consent : GuardianConsent} :
    consent.unopposed bornOn rule now rule.grace = true ↔
      consent.grantedBy = consent.student ∨ bornOn = none ∨
        ∃ born, bornOn = some born ∧
          now < AgeStatus.turnsAt born (rule.thresholdYears consent.scope) + rule.grace := by
  cases bornOn <;> simp [GuardianConsent.unopposed, GuardianConsent.grantedByStudent]

theorem counts_iff {consent : GuardianConsent} :
    consent.counts now (view.findGuardianship tenant guardian student).isSome = true ↔
      consent.isActiveAt now = true ∧
        (consent.basis ≠ .guardianship ∨ view.Guards tenant guardian student) := by
  rw [GuardianConsent.counts, Bool.and_eq_true, Bool.or_eq_true, isSome_findGuardianship]
  simp [GuardianConsent.restsOnGuardianship, Guards]

/-- A scope is open to a guardian in a subject's access exactly when a consent opens it. -/
theorem has_accessOf_iff {rule : MaturityRule} (hrule : view.rule = .ok rule)
    {scope : GuardianScope} :
    (view.accessOf now tenant guardian student).opened.has scope = true ↔
      view.Opens rule now tenant guardian student scope := by
  obtain ⟨hopened, -, -⟩ := has_weighConsents (view.bornOn tenant student) rule now
    (view.findGuardianship tenant guardian student).isSome
    (view.activeFor tenant guardian student) scope
  simp only [accessOf, hrule, hopened, List.any_eq_true, Bool.and_eq_true, decide_eq_true_eq,
    GuardianConsent.opens, counts_iff, unopposed_iff, isActiveAt_iff]
  constructor
  · rintro ⟨consent, hconsent, ⟨⟨⟨hrevoked, hgranted, hexpires⟩, hbasis⟩, hage⟩, rfl⟩
    obtain ⟨hmem, htenant, hguardian, hstudent, -⟩ := mem_activeFor.1 hconsent
    refine ⟨consent, hmem, rfl, ⟨htenant, hguardian, hstudent⟩, hrevoked, hgranted, hexpires,
      hbasis, ?_⟩
    rwa [hstudent] at hage
  · rintro ⟨consent, hmem, rfl, ⟨htenant, hguardian, hstudent⟩, hrevoked, hgranted, hexpires,
      hbasis, hage⟩
    refine ⟨consent, mem_activeFor.2 ⟨hmem, htenant, hguardian, hstudent, hrevoked⟩,
      ⟨⟨⟨hrevoked, hgranted, hexpires⟩, hbasis⟩, ?_⟩, rfl⟩
    rwa [hstudent]

/-- A consent that opens something ties its guardian to the student. -/
theorem guards_or_named_of_opens {rule : MaturityRule} {scope : GuardianScope}
    (h : view.Opens rule now tenant guardian student scope) :
    view.Guards tenant guardian student ∨ view.IsNamed now tenant guardian student := by
  obtain ⟨consent, hmem, -, ⟨htenant, hguardian, hstudent⟩, hrevoked, hgranted, hexpires,
    hbasis | hguards, -⟩ := h
  · refine Or.inr ⟨consent, hmem, htenant, hguardian, hstudent, ?_,
      isActiveAt_iff.2 ⟨hrevoked, hgranted, hexpires⟩⟩
    have hlisted := consent.listed.2
    cases hkind : consent.basis <;> simp_all [namedByTheStudentHimself]
  · exact Or.inl hguards

end AccessView

/-- To a mere guardian a lesson is shown when the student is in his care and recordings are
open to him. -/
theorem allowed_lessonView {subject : Subject} {resource : Resource} {action : Action}
    (hroles : ∀ role, subject.roles.has role = decide (role = .guardian))
    (htenant : subject.tenant = resource.tenant)
    (haction : action = .viewLessonRecording ∨ action = .viewLessonTranscript) :
    (PolicySet.decide subject action resource).allowed =
      (decide (subject.tie = .inMyCare) && subject.asGuardian.opened.has .recordings) := by
  rcases haction with rfl | rfl
  all_goals
    rw [PolicySet.decide, if_neg (not_not_intro htenant)]
    simp [policyOf, mediaPolicy, thatStudent, ownTutor, guardianInRecordings, within, hroles]

/-- The tie of somebody to a resource about another person that is not his own. -/
theorem tieFor_of_other {view : AccessView} {now : Int} {tenant : TenantId}
    {actor student : PersonId} {owner : Option PersonId} (hother : student ≠ actor)
    (howner : owner ≠ some actor) :
    view.tieFor now tenant actor ⟨tenant, owner, some student⟩ =
      if view.looksAfter now tenant actor ⟨tenant, owner, some student⟩ then .inMyCare
      else .none := by
  have hnotAbout : ¬ some student = some actor := fun h => hother (Option.some.inj h)
  rw [AccessView.tieFor, tieBetween, if_neg howner, if_neg hnotAbout]
  simp

/-- **What a guardian is shown.** Somebody who is a guardian and nothing else is shown a
recording or a transcript about another person exactly when the maturity rule is in order and
some consent opens recordings to him. -/
theorem guardian_is_shown_iff {view : AccessView} {now : Int} {tenant : TenantId}
    {guardian student : PersonId} {resource : Resource} {action : Action}
    (hroles : ∀ role, (view.rolesOf tenant guardian).has role = decide (role = .guardian))
    (htenant : resource.tenant = tenant) (hsubject : resource.subject = some student)
    (hother : student ≠ guardian) (howner : resource.owner ≠ some guardian)
    (haction : action = .viewLessonRecording ∨ action = .viewLessonTranscript) :
    (view.decide now tenant guardian action resource).allowed = true ↔
      ∃ rule, view.rule = .ok rule ∧
        view.Opens rule now tenant guardian student .recordings := by
  obtain ⟨home, owner, _⟩ := resource
  dsimp only at htenant hsubject howner
  subst htenant hsubject
  rw [AccessView.decide, allowed_lessonView hroles rfl haction]
  simp only [AccessView.subjectFor, tieFor_of_other hother howner]
  cases hlooks : view.looksAfter now home guardian ⟨home, owner, some student⟩ with
  | true =>
    cases hrule : view.rule with
    | error error => simp [AccessView.accessOf, hrule]
    | ok rule => simp [AccessView.has_accessOf_iff hrule]
  | false =>
    -- Nothing is open to somebody who is not tied to the student.
    have hnothing : ∀ rule, ¬ view.Opens rule now home guardian student .recordings := by
      intro rule hopens
      rw [(AccessView.looksAfter_iff_guards_or_named hother).2
        (AccessView.guards_or_named_of_opens hopens)] at hlooks
      cases hlooks
    simp [hnothing]

/-- A guardian of a student whose recordings the student opened himself. -/
def recordingsOpened : AccessView where
  guardianships := []
  consents := [⟨repeated 3, repeated 7, repeated 2, repeated 1, .recordings, .namedByStudent,
    repeated 1, 10, some 30, none, none, by decide, by decide, by decide, by decide, nofun,
    GuardianConsent.neverRevoked⟩]
  rolesOf _ _ := BitSet.ofList [.guardian]
  bornOn _ _ := none
  rule := .ok schoolRule

/-- Within the term of the consent the recording is shown. -/
theorem recording_is_shown_to_the_named_guardian :
    (recordingsOpened.decide 20 (repeated 7) (repeated 2) .viewLessonRecording
      ⟨repeated 7, some (repeated 5), some (repeated 1)⟩).allowed = true := by
  have hopens : recordingsOpened.Opens schoolRule 20 (repeated 7) (repeated 2) (repeated 1)
      .recordings :=
    ⟨_, List.mem_singleton_self _, rfl, ⟨rfl, rfl, rfl⟩, rfl, by decide, by decide,
      Or.inl (by decide), Or.inl rfl⟩
  have hroles : ∀ role, (recordingsOpened.rolesOf (repeated 7) (repeated 2)).has role =
      decide (role = .guardian) := by
    intro role
    cases role <;> decide
  have hothers : (repeated 1 : PersonId) ≠ repeated 2 ∧
      (some (repeated 5) : Option PersonId) ≠ some (repeated 2) := by decide
  exact (guardian_is_shown_iff hroles rfl rfl hothers.1 hothers.2 (Or.inl rfl)).2
    ⟨schoolRule, rfl, hopens⟩

end Pdr.Identity
