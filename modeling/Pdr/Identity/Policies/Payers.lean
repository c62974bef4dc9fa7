import Pdr.Identity.Application.Footprint
import Pdr.Identity.Policies.Watchers

/-!
# What a payer sees

Whoever pays for a student's lessons is named by the student on the basis of payment, and that
basis carries payments and nothing else: a consent with another scope is refused when it is
granted, and is no row of the table. To somebody who is a guardian and nothing else, every
action asks for one scope, or is not for guardians at all. So a payer is let to the actions that
ask for payments, in whatever order scopes were opened and closed before.

## Main definitions

* `Pdr.Identity.guardianScopeOf`: the scope an action asks a guardian for.
* `Pdr.Identity.attendEach`: scopes opened and closed, each under the rule of its moment.
* `Pdr.Identity.PaysOnly`: the consents of a pair all rest on payment.

## Main results

* `Pdr.Identity.allowed_mereGuardian`: what somebody who is a guardian and nothing else may do.
* `Pdr.Identity.paying_watcher_sees_only_money`: a payer may do what asks for payments.
* `Pdr.Identity.paysOnly_attendEach`: who was named as a payer only is one.
-/

namespace Pdr.Identity

open StoreProgram Program Policy

/-! ### A mere guardian -/

/-- The scope that the policy of an action asks a guardian for; `none` where there is no rule for
guardians. -/
def guardianScopeOf : Action → Option GuardianScope
  | .bookLesson | .cancelLesson | .rescheduleLesson | .viewSchedule => some .schedule
  | .viewInvoice | .payInvoice | .manageAutoPayment => some .payments
  | .viewMaterial | .viewProgress | .exportProgress => some .notesAndHomework
  | .viewLessonRecording | .viewLessonTranscript => some .recordings
  | .issueRefund | .setTariff | .editMaterial | .publishMaterial | .assignPlan | .recordAttempt
  | .viewTenantProgress | .viewAccessJournal | .manageGuardianAccess | .writeReview
  | .invitePeople | .managePractice | .boundary => none

/-- To somebody without other roles each policy answers by its rule for guardians. -/
theorem allowed_mereGuardian {subject : Subject} {resource : Resource}
    (hroles : ∀ role, subject.roles.has role = true → role = .guardian) (action : Action) :
    (PolicySet.decide subject action resource).allowed =
      (decide (subject.tenant = resource.tenant) && subject.roles.has .guardian &&
        decide (subject.tie = .inMyCare) &&
        (guardianScopeOf action).any subject.asGuardian.opened.has) := by
  have hnot : ∀ role, role ≠ .guardian → subject.roles.has role = false := fun role hrole =>
    Bool.eq_false_iff.2 fun h => hrole (hroles role h)
  have howner := hnot .owner (by decide)
  have htutor := hnot .tutor (by decide)
  have hstudent := hnot .student (by decide)
  by_cases htenant : subject.tenant = resource.tenant
  · rw [PolicySet.decide, if_neg (not_not_intro htenant)]
    cases action with
    | boundary => simp [policyOf, denied, guardianScopeOf]
    | _ =>
      simp [policyOf, schedulingPolicy, billingPolicy, contentPolicy, progressPolicy, mediaPolicy,
        journalPolicy, consentPolicy, reviewPolicy, practicePolicy, guardianInSchedule,
        guardianInPayments, guardianInNotes, guardianInRecordings, within, grown, ownTutor,
        thatStudent, studentMovingOwnSlots, studentWritingReview, studentDecidingGuardianAccess,
        studentPayingOwnMoney, studentChoosingTutor, guardianScopeOf, htenant, howner, htutor,
        hstudent, Bool.and_assoc]
  · simp [PolicySet.decide, htenant, denied]

/-- What a mere guardian is let to about somebody asks for a scope that a consent opens to him. -/
theorem opens_of_allowed {view : AccessView} {now : Int} {tenant : TenantId}
    {guardian student : PersonId} {action : Action} {resource : Resource}
    (hroles : ∀ role, (view.rolesOf tenant guardian).has role = true → role = .guardian)
    (hsubject : resource.subject = some student)
    (hallowed : (view.decide now tenant guardian action resource).allowed = true) :
    ∃ rule scope, guardianScopeOf action = some scope ∧
      view.Opens rule now tenant guardian student scope := by
  rw [AccessView.decide, allowed_mereGuardian hroles] at hallowed
  simp only [AccessView.subjectFor, hsubject, Bool.and_eq_true, decide_eq_true_eq,
    Option.any_eq_true] at hallowed
  obtain ⟨⟨-, htie⟩, scope, hscope, hopened⟩ := hallowed
  rw [if_pos htie] at hopened
  cases hrule : view.rule with
  | error error => simp [AccessView.accessOf, hrule] at hopened
  | ok rule => exact ⟨rule, scope, hscope, (AccessView.has_accessOf_iff hrule).1 hopened⟩

/-! ### Scopes opened and closed -/

/-- A request about a child or a watcher, with what its execution is given: the maturity rule in
force then, and what the clock and the generators answer. -/
structure Attendance where
  rule : Result MaturityRule
  drawn : Drawn
  request : GuardianRequest

/-- The database after requests attended one after another, each under its own rule. -/
def attendEach (db : Database) (attendances : List Attendance) : Database :=
  attendances.foldl
    (fun db attended =>
      ((attend attended.rule attended.drawn attended.request).run database db).2) db

/-- All consents of the pair rest on payment. -/
def PaysOnly (tenant : TenantId) (guardian student : PersonId) (db : Database) : Prop :=
  ∀ consent ∈ db.consents.rows, consent.tenant = tenant → consent.guardian = guardian →
    consent.student = student → consent.basis = .paysForLessons

/-- If the call opens a scope to the pair, it does so on the basis of payment. -/
def GuardianRequest.PaysAtMost (tenant : TenantId) (guardian student : PersonId) :
    GuardianRequest → Prop
  | grantScope request => request.tenant = tenant → request.guardian = guardian →
      request.student = student → request.basis = .paysForLessons
  | _ => True

section Runs

variable {tenant : TenantId} {guardian student : PersonId}

theorem withRevocationOf_eq (consent row : GuardianConsent) :
    let later := ConsentCall.withRevocationOf consent row
    later.tenant = row.tenant ∧ later.guardian = row.guardian ∧ later.student = row.student ∧
      later.basis = row.basis := by
  dsimp only
  unfold ConsentCall.withRevocationOf
  split <;> exact ⟨rfl, rfl, rfl, rfl⟩

theorem revoked_keeps {consent later : GuardianConsent} {at_ : Int} {by_ : PersonId}
    (h : consent.revoked at_ by_ = .ok later) :
    later.tenant = consent.tenant ∧ later.guardian = consent.guardian ∧
      later.student = consent.student ∧ later.basis = consent.basis := by
  unfold GuardianConsent.revoked at h
  split_ifs at h
  cases h
  exact ⟨rfl, rfl, rfl, rfl⟩

/-- Each consent after a save is the one saved, or a stored one up to its revocation. -/
theorem consents_of_save {consent : GuardianConsent} {db : Database} {later : GuardianConsent}
    (h : later ∈ (database.exec (.consents (.save consent)) db).2.consents.rows) :
    later = consent ∨ ∃ row ∈ db.consents.rows, later.tenant = row.tenant ∧
      later.guardian = row.guardian ∧ later.student = row.student ∧ later.basis = row.basis := by
  have hsame : ∀ row ∈ db.consents.rows, row = later →
      ∃ row ∈ db.consents.rows, later.tenant = row.tenant ∧ later.guardian = row.guardian ∧
        later.student = row.student ∧ later.basis = row.basis := by
    rintro row hrow rfl
    exact ⟨row, hrow, rfl, rfl, rfl, rfl⟩
  simp only [exec_consents, ConsentCall.exec, commit_snd] at h
  split at h
  · cases hupsert : db.consents.upsert
        (fun row => row.tenant = consent.tenant && row.id = consent.id)
        (ConsentCall.withRevocationOf consent) consent with
    | none => exact Or.inr (hsame later (by rwa [hupsert] at h) rfl)
    | some table =>
      rw [hupsert, Option.getD_some] at h
      rcases Table.upsert_cases hupsert with ⟨-, hupdate⟩ | ⟨-, hinsert⟩
      · obtain ⟨row, hrow, hlater⟩ := (Table.mem_updateWhere hupdate later).1 h
        split at hlater
        · exact Or.inr ⟨row, hrow, hlater ▸ withRevocationOf_eq consent row⟩
        · exact Or.inr (hsame row hrow hlater.symm)
      · rcases (Table.mem_insert hinsert later).1 h with hstored | hsaved
        · exact Or.inr (hsame later hstored rfl)
        · exact Or.inl hsaved
  · exact Or.inr (hsame later h rfl)

/-- Saving a consent keeps the pair's consents on payment, if it is one of those. -/
theorem paysOnly_save {consent : GuardianConsent}
    (hpays : consent.tenant = tenant → consent.guardian = guardian → consent.student = student →
      consent.basis = .paysForLessons) {db : Database} (h : PaysOnly tenant guardian student db) :
    PaysOnly tenant guardian student (database.exec (.consents (.save consent)) db).2 := by
  intro later hlater htenant hguardian hstudent
  rcases consents_of_save hlater with rfl |
    ⟨row, hrow, hrowTenant, hrowGuardian, hrowStudent, hbasis⟩
  · exact hpays htenant hguardian hstudent
  · rw [hbasis]
    exact h row hrow (hrowTenant ▸ htenant) (hrowGuardian ▸ hguardian) (hrowStudent ▸ hstudent)

theorem paysOnly_of_only {α : Type} {ports : List Port} {scenario : Scenario α}
    (hports : Port.consents ∉ ports) (h : scenario.Only (Call.IsTo ports)) :
    scenario.Maintains database (PaysOnly tenant guardian student) := by
  refine consents_belong.maintains h (by simpa using hports) fun hsame hdb => ?_
  rwa [PaysOnly, hsame]

theorem only_enrolChild (drawn : Drawn) (request : EnrolChildRequest) :
    (enrolChild drawn request).Only (Call.IsTo [.directory, .guardianships]) := by
  refine honours_perform_bind rfl fun enrolled _ => ?_
  refine Honours.bind (honours_ofExcept _) fun _ => ?_
  refine Honours.bind (honours_ofExcept _) fun guardianship => ?_
  exact honours_perform_bind rfl fun _ _ => trivial

theorem only_revokeGuardianship (drawn : Drawn) (request : RevokeGuardianshipRequest) :
    (revokeGuardianship drawn request).Only (Call.IsTo [.guardianships]) := by
  refine honours_perform_bind rfl fun found _ => ?_
  cases found with
  | none => trivial
  | some found =>
    refine Honours.bind (honours_ofExcept _) fun revoked => ?_
    exact honours_perform_bind rfl fun _ _ => trivial

theorem paysOnly_grantGuardianScope (rule : Result MaturityRule) (drawn : Drawn)
    {request : GrantGuardianScopeRequest}
    (h : GuardianRequest.PaysAtMost tenant guardian student (.grantScope request)) :
    (grantGuardianScope rule drawn request).Maintains database
      (PaysOnly tenant guardian student) := by
  refine Maintains.bind (maintains_ofExcept _) fun rule => ?_
  refine Maintains.bind (paysOnly_of_only (by decide) (footprint_requireBasis request)) fun _ => ?_
  refine Maintains.bind (maintains_perform.2 fun _ hdb => hdb) fun found => ?_
  cases found with
  | some _ => exact maintains_raise _
  | none =>
    refine Maintains.bind (maintains_perform.2 fun _ hdb => hdb) fun bornOn => ?_
    split
    · exact maintains_raise _
    · refine maintains_ofExcept_bind fun consent hgrant => ?_
      obtain ⟨-, htenant, hguardian, hstudent, -, hbasis, -⟩ :=
        GuardianConsent.grant_eq_ok ((Result.orRefuse_eq_ok _ _).1 hgrant)
      refine Maintains.bind (maintains_perform.2 fun db hdb => paysOnly_save ?_ hdb)
        fun _ => maintains_done _
      rw [htenant, hguardian, hstudent, hbasis]
      exact h

theorem paysOnly_revokeGuardianScope (drawn : Drawn) (request : RevokeGuardianScopeRequest) :
    (revokeGuardianScope drawn request).Maintains database (PaysOnly tenant guardian student) := by
  intro db hdb
  have hyields : (revokeGuardianScope drawn request).Yields database
      (fun _ => PaysOnly tenant guardian student) db := by
    refine yields_perform_bind (fun _ _ hfind => by cases hfind) fun found db' hfind => ?_
    obtain ⟨hanswer, rfl⟩ := Prod.mk.inj hfind
    cases found with
    | none => exact hdb
    | some found =>
      -- The consent that is saved is a stored one, revoked.
      have hmem : found ∈ db.consents.rows :=
        (List.mem_filter.1 (List.mem_of_find?_eq_some (Except.ok.inj hanswer))).1
      refine yields_ofExcept_bind (fun _ _ => hdb) fun later hlater => ?_
      obtain ⟨htenant, hguardian, hstudent, hbasis⟩ :=
        revoked_keeps ((Result.orRefuse_eq_ok _ _).1 hlater)
      refine Maintains.yields (maintains_perform.2 fun db' hdb' => paysOnly_save ?_ hdb') hdb
      rw [htenant, hguardian, hstudent, hbasis]
      exact hdb found hmem
  exact hyields

/-- One request keeps the pair's consents on payment. -/
theorem paysOnly_attend {attended : Attendance}
    (h : attended.request.PaysAtMost tenant guardian student) :
    (attend attended.rule attended.drawn attended.request).Maintains database
      (PaysOnly tenant guardian student) := by
  obtain ⟨rule, drawn, request⟩ := attended
  cases request with
  | enrolChild request =>
    refine Maintains.bind ?_ fun _ => maintains_done _
    exact paysOnly_of_only (by decide) (only_enrolChild drawn request)
  | grantScope request =>
    exact Maintains.bind (paysOnly_grantGuardianScope rule drawn h) fun _ => maintains_done _
  | revokeScope request => exact paysOnly_revokeGuardianScope drawn request
  | revokeGuardianship request =>
    refine Maintains.bind ?_ fun _ => maintains_done _
    exact paysOnly_of_only (by decide) (only_revokeGuardianship drawn request)

/-- Who is named as a payer only, in whatever order, has consents of a payer only. -/
theorem paysOnly_attendEach {attendances : List Attendance}
    (h : ∀ attended ∈ attendances, attended.request.PaysAtMost tenant guardian student)
    {db : Database} (start : PaysOnly tenant guardian student db) :
    PaysOnly tenant guardian student (attendEach db attendances) := by
  induction attendances generalizing db with
  | nil => exact start
  | cons attended rest ih =>
    refine ih (fun other hother => h other (List.mem_cons_of_mem attended hother)) ?_
    exact paysOnly_attend (h attended List.mem_cons_self) db start

end Runs

/-! ### What is left to a payer -/

/-- **A payer sees money and nothing else.** After any scopes were opened and closed, somebody who
is a guardian and nothing else and whose consents from a student all rest on payment is let, about
that student, only to what asks for payments; whose the resource is makes no difference. -/
theorem paying_watcher_sees_only_money (start : Database) (attendances : List Attendance)
    (rule : Result MaturityRule) (now : Int) {tenant : TenantId} {actor student : PersonId}
    (hroles : ∀ role, (((attendEach start attendances).accessView rule).rolesOf tenant actor).has
      role = true → role = .guardian)
    (hpays : PaysOnly tenant actor student (attendEach start attendances))
    {action : Action} {resource : Resource} (hsubject : resource.subject = some student)
    (hallowed : (((attendEach start attendances).accessView rule).decide now tenant actor action
      resource).allowed = true) :
    guardianScopeOf action = some .payments := by
  obtain ⟨rule, scope, hscope, consent, hmem, hcarries, ⟨htenant, hguardian, hstudent⟩, -⟩ :=
    opens_of_allowed hroles hsubject hallowed
  have hbasis : consent.basis = .paysForLessons := hpays consent hmem htenant hguardian hstudent
  -- The basis of payment carries one scope, and a consent with another is never granted.
  have hcarried : scope = .payments := by
    have hmay := consent.carried
    simp only [mayCarry, hbasis, hcarries, ne_eq, not_true_eq_false, decide_false, Bool.false_or,
      decide_eq_true_eq] at hmay
    exact hmay
  rw [hscope, hcarried]

/-- A store in which the payer of the examples is a guardian of the school. -/
def payerEnrolled : Database where
  roles := ⟨[⟨repeated 7, repeated 2, repeated 2, .guardian, none⟩], by decide, by simp⟩

/-- A payer who was named is let to the invoice, and to nothing but money. -/
theorem payer_sees_the_invoice :
    let db := attendEach payerEnrolled [⟨.ok schoolRule, drawnAt 10 3, .grantScope payerNamed⟩]
    let lesson : Resource := ⟨repeated 7, some (repeated 5), some (repeated 1)⟩
    ((db.accessView (.ok schoolRule)).decide 20 (repeated 7) (repeated 2) .viewInvoice
      lesson).allowed = true ∧
    ∀ action, ((db.accessView (.ok schoolRule)).decide 20 (repeated 7) (repeated 2) action
      lesson).allowed = true → guardianScopeOf action = some .payments := by
  have hnobody : PaysOnly (repeated 7) (repeated 2) (repeated 1) payerEnrolled := by
    simp [PaysOnly, payerEnrolled]
  refine ⟨by decide +kernel, fun action hallowed => ?_⟩
  refine paying_watcher_sees_only_money payerEnrolled _ (.ok schoolRule) 20 (fun role => ?_) ?_ rfl
    hallowed
  · cases role <;> decide +kernel
  · exact paysOnly_attendEach (by simp [GuardianRequest.PaysAtMost, payerNamed]) hnobody

end Pdr.Identity
