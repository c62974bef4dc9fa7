import Pdr.Identity.Application.GivingConsent

/-!
# Who consents for whom

A consent is given by the person himself, from the first threshold of age on, or by his guardian.
For a person who consents for himself the age is looked at; for a guardian only the guardianship is,
and it lasts until somebody revokes it. So a guardian can consent for a person who has grown up, and
that is the only way in which a consent of the wrong person comes into the store.

## Main definitions

* `Pdr.Identity.ConsentOrder.IsRightful`: the right person consents.
* `Pdr.Identity.ConsentOrder.GuardsGrownUp`: a guardian consents for a person who has grown up.
* `Pdr.Identity.ConsentOrder.IsTaken`: the store takes the consent.

## Main results

* `Pdr.Identity.isRightful_or_of_mayConsent`: what the rules of authority let through.
* `Pdr.Identity.consents_are_rightful_iff`: when all consents in the store are rightful.
* `Pdr.Identity.guardian_consents_for_grown_up`: one that is not.
-/

namespace Pdr.Identity

open StoreProgram Program

/-! ### The right person -/

namespace ConsentOrder

variable (order : ConsentOrder)

/-- At the moment of the order the person is so old, by rules that work. -/
def HasTurned (threshold : AgeThreshold) (bornOn : BirthDate) : Prop :=
  ∃ rule, order.view.rule = .ok rule ∧
    AgeStatus.turnsAt bornOn (rule.thresholds.years threshold) ≤ order.now

/-- The person is a minor, by rules that work. -/
def IsMinor (bornOn : BirthDate) : Prop :=
  ∃ rule, order.view.rule = .ok rule ∧
    order.now < AgeStatus.turnsAt bornOn (rule.thresholds.years .majority)

/-- There is an active guardianship of the one who consents over the subject in the tenant. -/
def HasGuardianship : Prop :=
  (order.view.findGuardianship order.request.tenant order.request.givenBy
    order.request.subject).isSome = true

/-- The birth date of the subject that is known. -/
def bornOn : Option BirthDate := order.view.bornOn order.request.tenant order.request.subject

/-- The right person consents: the subject, if his birth date is unknown or he has reached the first
threshold, or his guardian, if the birth date is unknown or the subject is a minor. -/
def IsRightful : Prop :=
  (order.request.givenBy = order.request.subject ∧
    ∀ bornOn ∈ order.bornOn, order.HasTurned .slotsAndReviews bornOn) ∨
  (order.request.givenBy ≠ order.request.subject ∧ order.HasGuardianship ∧
    ∀ bornOn ∈ order.bornOn, order.IsMinor bornOn)

/-- A guardian consents for a person who is known not to be a minor. -/
def GuardsGrownUp : Prop :=
  order.request.givenBy ≠ order.request.subject ∧ order.HasGuardianship ∧
    ∃ bornOn ∈ order.bornOn, ¬ order.IsMinor bornOn

/-- The consent names a kind and an action, and the store takes its record. -/
def IsTaken (table : Table ConsentRecord) : Prop :=
  order.request.kind ≠ .boundary ∧ order.request.action ≠ .boundary ∧
    ∃ table', table.upsert (fun row => row.tenant = order.record.tenant && row.id = order.record.id)
      (fun _ => order.record) order.record = some table'

end ConsentOrder

variable {order : ConsentOrder} {table table' : Table ConsentRecord}

theorem ConsentOrder.GuardsGrownUp.not_isRightful (h : order.GuardsGrownUp) :
    ¬ order.IsRightful := by
  obtain ⟨hother, -, bornOn, hborn, hgrown⟩ := h
  rintro (⟨hself, -⟩ | ⟨-, -, hminor⟩)
  · exact hother hself
  · exact hgrown (hminor bornOn hborn)

/-- What the rules let through: the right person, and a guardian of a grown-up one. The rules have
to work only for a person who consents for himself. -/
theorem isRightful_or_of_mayConsent (h : order.mayConsent = .ok ()) :
    order.IsRightful ∨ order.GuardsGrownUp := by
  unfold ConsentOrder.mayConsent at h
  dsimp only at h
  split at h
  · rename_i hother
    split at h
    · rename_i hguardian
      by_cases hminor : ∀ bornOn ∈ order.bornOn, order.IsMinor bornOn
      · exact Or.inl (Or.inr ⟨hother, hguardian, hminor⟩)
      · push Not at hminor
        exact Or.inr ⟨hother, hguardian, hminor⟩
    · cases h
  · rename_i hself
    refine Or.inl (Or.inl ⟨not_not.1 hself, fun bornOn hborn => ?_⟩)
    split at h
    · cases h
    · rename_i rule hrule
      rw [Option.mem_def, ConsentOrder.bornOn] at hborn
      rw [hborn] at h
      dsimp only at h
      split at h
      · cases h
      · rename_i hturned
        exact ⟨rule, hrule, not_lt.1 hturned⟩

/-- The rules let a guardian of a grown-up person through. -/
theorem ConsentOrder.GuardsGrownUp.mayConsent (h : order.GuardsGrownUp) :
    order.mayConsent = .ok () := by
  obtain ⟨hother, hguardian, -⟩ := h
  rw [ConsentOrder.mayConsent, if_pos hother]
  exact if_pos hguardian

/-! ### One consent -/

theorem give_eq_ok_iff {record : ConsentRecord} :
    ConsentRecord.give order.id order.request.tenant order.request.subject order.request.givenBy
        order.request.kind order.versions.current order.request.action order.now = .ok record ↔
      order.request.kind ≠ .boundary ∧ order.request.action ≠ .boundary ∧
        record = order.record := ConsentRecord.give_eq_ok

/-- What giving a consent does: it is saved and returned, or refused and nothing is changed. -/
theorem giveConsent_cases (order : ConsentOrder) (table : Table ConsentRecord) :
    (order.mayConsent = .ok () ∧ order.IsTaken table ∧ ∃ table',
      (giveConsent order).run consentStore table = (.ok order.record, table') ∧
      table.upsert (fun row => row.tenant = order.record.tenant && row.id = order.record.id)
        (fun _ => order.record) order.record = some table') ∨
    (¬ (order.mayConsent = .ok () ∧ order.IsTaken table) ∧ ∃ fault,
      (giveConsent order).run consentStore table = (.error fault, table)) := by
  cases hmay : order.mayConsent with
  | error error => exact Or.inr ⟨by simp, .refused error, by simp [giveConsent, hmay]⟩
  | ok granted =>
    cases hgive : ConsentRecord.give order.id order.request.tenant order.request.subject
        order.request.givenBy order.request.kind order.versions.current order.request.action
        order.now with
    | error error =>
      refine Or.inr ⟨?_, .refused error, by simp [giveConsent, hmay, hgive]⟩
      rintro ⟨-, hkind, haction, -⟩
      have hnamed := give_eq_ok_iff.2 ⟨hkind, haction, rfl⟩
      rw [hgive] at hnamed
      cases hnamed
    | ok record =>
      obtain ⟨hkind, haction, rfl⟩ := give_eq_ok_iff.1 hgive
      cases hsaved : table.upsert (fun row => row.tenant = order.record.tenant &&
          row.id = order.record.id) (fun _ => order.record) order.record with
      | some table' =>
        refine Or.inl ⟨rfl, ⟨hkind, haction, table', hsaved⟩, table', ?_, rfl⟩
        simp [giveConsent, hmay, hgive, run_bind, consentStore, ConsentsCall.exec, hsaved, commit]
      | none =>
        refine Or.inr ⟨?_, .thrown (.schemaViolation "identity_consent"), ?_⟩
        · rintro ⟨-, -, -, table', htaken⟩
          rw [hsaved] at htaken
          cases htaken
        · simp [giveConsent, hmay, hgive, run_bind, consentStore, ConsentsCall.exec, hsaved,
            commit]

/-- What is stored after a consent was taken: that consent, and what was there. -/
theorem mem_of_upsert {record row : ConsentRecord} {chosen : ConsentRecord → Bool}
    (h : table.upsert chosen (fun _ => record) record = some table') (hrow : row ∈ table'.rows) :
    row ∈ table.rows ∨ row = record := by
  rcases Table.upsert_cases h with ⟨-, hupdate⟩ | ⟨-, hinsert⟩
  · obtain ⟨stored, hstored, rfl⟩ := (Table.mem_updateWhere hupdate row).1 hrow
    split
    · exact Or.inr rfl
    · exact Or.inl hstored
  · exact (Table.mem_insert hinsert row).1 hrow

theorem mem_upsert_self {record : ConsentRecord} {chosen : ConsentRecord → Bool}
    (h : table.upsert chosen (fun _ => record) record = some table') : record ∈ table'.rows := by
  rcases Table.upsert_cases h with ⟨⟨stored, hstored, hchosen⟩, hupdate⟩ | ⟨-, hinsert⟩
  · exact (Table.mem_updateWhere hupdate record).2 ⟨stored, hstored, by rw [if_pos hchosen]⟩
  · exact (Table.mem_insert hinsert record).2 (Or.inr rfl)

/-! ### All consents -/

namespace ConsentTurn

variable {t : ConsentTurn} {record : ConsentRecord}

/-- The consent was given in the step. -/
def Gives (t : ConsentTurn) (record : ConsentRecord) : Prop := t.entry.answer = .ok record

/-- A step is that of giving the consent it asks for. -/
def IsStep (t : ConsentTurn) : Prop :=
  (giveConsent t.entry.op).run consentStore t.before = (t.entry.answer, t.after)

/-- What is given: the consent that was asked for, if the rules let it through and the store takes
it. -/
theorem IsStep.gives_iff (h : t.IsStep) : t.Gives record ↔
    t.entry.op.mayConsent = .ok () ∧ t.entry.op.IsTaken t.before ∧
      record = t.entry.op.record := by
  rw [IsStep] at h
  rcases giveConsent_cases t.entry.op t.before with
    ⟨hmay, htaken, table', hrun, -⟩ | ⟨hnot, fault, hrun⟩
  · rw [h] at hrun
    rw [Gives, (Prod.mk.inj hrun).1, Except.ok.injEq]
    exact ⟨fun hsame => ⟨hmay, htaken, hsame.symm⟩, fun hgiven => hgiven.2.2.symm⟩
  · rw [h] at hrun
    rw [Gives, (Prod.mk.inj hrun).1]
    exact iff_of_false (by simp) fun hgiven => hnot ⟨hgiven.1, hgiven.2.1⟩

theorem IsStep.after_eq (h : t.IsStep) {fault : Fault} (hrefused : t.entry.answer = .error fault) :
    t.after = t.before := by
  rw [IsStep, hrefused] at h
  rcases giveConsent_cases t.entry.op t.before with ⟨-, -, table', hrun, -⟩ | ⟨-, fault', hrun⟩
  · rw [h] at hrun
    cases (Prod.mk.inj hrun).1
  · rw [h] at hrun
    exact (Prod.mk.inj hrun).2

/-- What is stored after a step: what was there, and what the step gave. -/
theorem IsStep.mem_after (h : t.IsStep) (hrecord : record ∈ t.after.rows) :
    record ∈ t.before.rows ∨ t.Gives record := by
  rw [IsStep] at h
  rcases giveConsent_cases t.entry.op t.before with
    ⟨-, -, table', hrun, hupsert⟩ | ⟨-, fault, hrun⟩
  · rw [h] at hrun
    obtain ⟨hanswer, rfl⟩ := Prod.mk.inj hrun
    exact (mem_of_upsert hupsert hrecord).imp_right fun hsame => by rw [Gives, hanswer, hsame]
  · rw [h] at hrun
    rw [(Prod.mk.inj hrun).2] at hrecord
    exact Or.inl hrecord

/-- What a step gave is stored. -/
theorem IsStep.mem_after_of_gives (h : t.IsStep) (hgives : t.Gives record) :
    record ∈ t.after.rows := by
  obtain ⟨-, -, rfl⟩ := h.gives_iff.1 hgives
  rw [IsStep] at h
  rcases giveConsent_cases t.entry.op t.before with
    ⟨-, -, table', hrun, hupsert⟩ | ⟨-, fault, hrun⟩
  · rw [h] at hrun
    rw [(Prod.mk.inj hrun).2]
    exact mem_upsert_self hupsert
  · rw [h, show t.entry.answer = _ from hgives] at hrun
    cases (Prod.mk.inj hrun).1

end ConsentTurn

section Run

variable {steps : List ConsentTurn}

/-- Every consent in the store was given. -/
theorem exists_gives (hrun : Linked consentDesk .empty steps table') {record : ConsentRecord}
    (hrecord : record ∈ table'.rows) : ∃ t ∈ steps, ConsentTurn.Gives t record := by
  refine hrun.history
    (H := fun seen now => ∀ record ∈ now.rows, ∃ t ∈ seen, ConsentTurn.Gives t record)
    (fun record hnone => absurd hnone List.not_mem_nil) ?_ record hrecord
  intro seen t ht hexec hbefore record hrecord
  rcases ConsentTurn.IsStep.mem_after hexec hrecord with hstored | hgives
  · obtain ⟨u, hu, hgives⟩ := hbefore record hstored
    exact ⟨u, List.mem_append_left _ hu, hgives⟩
  · exact ⟨t, List.mem_append_right _ List.mem_cons_self, hgives⟩

/-- **When all consents are rightful.** In a run that begins with an empty store, a refused call
changes nothing, and every consent in the store was given before, as it was asked for and under the
version in force. In all states of the run the consents there are of the right persons, exactly if
in no step the store takes the consent of a guardian for a person who has grown up. -/
theorem consents_are_rightful_iff (hrun : Linked consentDesk .empty steps table') :
    (∀ t ∈ steps, ∀ fault, t.entry.answer = .error fault → t.after = t.before) ∧
    (∀ early t late, steps = early ++ t :: late → ∀ record ∈ t.after.rows,
      (∃ u ∈ early ++ [t], ConsentTurn.Gives u record) ∧
        ∀ u ∈ early ++ [t], ConsentTurn.Gives u record →
          record = u.entry.op.record ∧ record.version = u.entry.op.versions.current) ∧
    ((∀ early t late, steps = early ++ t :: late → ∀ record ∈ t.after.rows,
        ∀ u ∈ early ++ [t], ConsentTurn.Gives u record → u.entry.op.IsRightful) ↔
      ∀ t ∈ steps, ¬ (t.entry.op.GuardsGrownUp ∧ t.entry.op.IsTaken t.before)) := by
  have hsteps : ∀ t ∈ steps, ConsentTurn.IsStep t := fun t ht => hrun.exec_eq ht
  have hseen : ∀ early t late, steps = early ++ t :: late → ∀ u ∈ early ++ [t], u ∈ steps := by
    rintro early t late rfl u hu
    rw [List.append_cons]
    exact List.mem_append_left _ hu
  refine ⟨fun t ht fault => (hsteps t ht).after_eq, fun early t late hsplit record hrecord =>
    ⟨?_, fun u hu hgives => ?_⟩, fun hrightful t ht => ?_,
    fun hnone early t late hsplit record _ u hu hgives => ?_⟩
  · rw [hsplit, List.append_cons] at hrun
    obtain ⟨between, hearly, -⟩ := Linked.append.1 hrun
    obtain rfl : t.after = between := hearly.split.2.2
    exact exists_gives hearly hrecord
  · obtain ⟨-, -, rfl⟩ := (hsteps u (hseen early t late hsplit u hu)).gives_iff.1 hgives
    exact ⟨rfl, rfl⟩
  · rintro ⟨hguards, htaken⟩
    have hgives : ConsentTurn.Gives t t.entry.op.record :=
      (hsteps t ht).gives_iff.2 ⟨hguards.mayConsent, htaken, rfl⟩
    obtain ⟨early, late, hsplit⟩ := List.append_of_mem ht
    exact hguards.not_isRightful (hrightful early t late hsplit _
      ((hsteps t ht).mem_after_of_gives hgives) t (List.mem_append_right _ List.mem_cons_self)
      hgives)
  · have hstep := hseen early t late hsplit u hu
    obtain ⟨hmay, htaken, -⟩ := (hsteps u hstep).gives_iff.1 hgives
    exact (isRightful_or_of_mayConsent hmay).resolve_right fun hguards =>
      hnone u hstep ⟨hguards, htaken⟩

end Run

/-! ### A guardian of a grown-up person -/

theorem guardian_ne_subject : (repeated 2 : PersonId) ≠ repeated 1 := by decide

theorem guardian_stays : ∀ revoked ∈ (none : Option Int), (0 : Int) ≤ revoked := fun _ h =>
  absurd h (Option.not_mem_none _)

/-- A person who was born in 1990 and whose guardian nobody has dismissed. -/
def stillGuarded : AccessView where
  guardianships :=
    [⟨repeated 7, repeated 2, repeated 1, 0, none, guardian_ne_subject, guardian_stays⟩]
  consents := []
  rolesOf _ _ := BitSet.empty
  bornOn _ _ := some ⟨⟨1990, 6, 15⟩, by decide, by decide⟩
  rule := .ok schoolRule

/-- In 2026, when that person is thirty-five, the guardian consents for him. -/
def guardianConsents : ConsentOrder where
  view := stillGuarded
  versions := signsUp.versions
  id := ⟨Vector.replicate 16 1⟩
  now := 1767225600000000
  request := ⟨repeated 7, repeated 1, repeated 2, .processing, .signUpCheckbox⟩

/-- **A guardian consents for a grown-up person.** The consent is in the store, and was not given
by the right person. -/
theorem guardian_consents_for_grown_up :
    Linked consentDesk .empty [turn consentDesk guardianConsents .empty]
        (turn consentDesk guardianConsents .empty).after ∧
      (turn consentDesk guardianConsents .empty).after.rows = [guardianConsents.record] ∧
      ConsentTurn.Gives (turn consentDesk guardianConsents .empty) guardianConsents.record ∧
      ¬ guardianConsents.IsRightful := by
  refine ⟨turns_linked consentDesk [guardianConsents] .empty, by decide +kernel, by rfl, ?_⟩
  have hguards : guardianConsents.HasGuardianship := by
    unfold ConsentOrder.HasGuardianship
    decide +kernel
  refine ConsentOrder.GuardsGrownUp.not_isRightful
    ⟨by decide, hguards, ⟨⟨1990, 6, 15⟩, by decide, by decide⟩, rfl, ?_⟩
  rintro ⟨rule, hrule, hminor⟩
  obtain rfl : schoolRule = rule := Except.ok.inj hrule
  exact absurd hminor (by decide +kernel)

/-- A person who was born in 2010, with his guardian. -/
def growingUp : AccessView :=
  { stillGuarded with bornOn := fun _ _ => some ⟨⟨2010, 6, 15⟩, by decide, by decide⟩ }

/-- In 2020 the guardian consents for him to the processing. -/
def guardianConsentsForMinor : ConsentOrder where
  view := growingUp
  versions := signsUp.versions
  id := ⟨Vector.replicate 16 1⟩
  now := 1577836800000000
  request := ⟨repeated 7, repeated 1, repeated 2, .processing, .signUpCheckbox⟩

/-- In 2026, being fifteen, he consents himself to the recordings. -/
def minorConsents : ConsentOrder where
  view := growingUp
  versions := signsUp.versions
  id := ⟨Vector.replicate 16 2⟩
  now := 1767225600000000
  request := ⟨repeated 7, repeated 1, repeated 1, .recordings, .settingsCheckbox⟩

/-- The turn of the guardian. -/
def guardianConsented : ConsentTurn := turn consentDesk guardianConsentsForMinor .empty

/-- The turn of the person himself. -/
def minorConsented : ConsentTurn := turn consentDesk minorConsents guardianConsented.after

/-- The guardian consents for a minor, and the minor for himself when he is old enough: both do so
rightfully. -/
theorem guardian_and_minor_consent_rightfully :
    ConsentTurn.Gives guardianConsented guardianConsentsForMinor.record ∧
      ConsentTurn.Gives minorConsented minorConsents.record ∧
      guardianConsentsForMinor.IsRightful ∧ minorConsents.IsRightful := by
  have hrun : Linked consentDesk .empty [guardianConsented, minorConsented] minorConsented.after :=
    turns_linked consentDesk [guardianConsentsForMinor, minorConsents] .empty
  have hfirst : ConsentTurn.Gives guardianConsented guardianConsentsForMinor.record := by rfl
  have hsecond : ConsentTurn.Gives minorConsented minorConsents.record := by rfl
  have hnobody : ∀ t ∈ [guardianConsented, minorConsented],
      ¬ (t.entry.op.GuardsGrownUp ∧ t.entry.op.IsTaken t.before) := by
    intro t ht
    rcases List.mem_cons.1 ht with rfl | ht
    · rintro ⟨⟨-, -, bornOn, hborn, hgrown⟩, -⟩
      obtain rfl := Option.some.inj hborn
      exact hgrown ⟨schoolRule, rfl, by decide +kernel⟩
    · obtain rfl := List.mem_singleton.1 ht
      rintro ⟨⟨hother, -⟩, -⟩
      exact hother rfl
  have hrightful := (consents_are_rightful_iff hrun).2.2.2 hnobody [guardianConsented]
    minorConsented [] rfl
  exact ⟨hfirst, hsecond,
    hrightful _ (by decide +kernel) guardianConsented List.mem_cons_self hfirst,
    hrightful _ (by decide +kernel) minorConsented (List.mem_cons_of_mem _ List.mem_cons_self)
      hsecond⟩

end Pdr.Identity
