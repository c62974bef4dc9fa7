import Pdr.Core.Errors
import Pdr.Core.Types
import Pdr.StoreProgram.Table

/-!
# Consents to the processing of personal data

A consent is about a person, by him or his guardian, of a kind, to a version of the list, by an
action. It may be withdrawn and stays a row then.

## Main definitions

* `Pdr.Identity.PolicyVersion`: a version of the list.
* `Pdr.Identity.ConsentRecord`, made by `ConsentRecord.give`
* `Pdr.Identity.needsReacceptance`
-/

namespace Pdr.Identity

open StoreProgram

/-- What a consent is to; `boundary` marks the end of the source's list. -/
inductive ConsentKind where
  | processing
  | recordings
  | boundary
deriving DecidableEq, Repr

/-- By what action a consent was given; `boundary` marks the end of the source's list. -/
inductive ConsentAction where
  | signUpCheckbox
  | settingsCheckbox
  | versionAccepted
  | boundary
deriving DecidableEq, Repr

/-- A version of the list, numbered from one. -/
structure PolicyVersion where
  number : Int
  fromOne : 1 ≤ number
deriving DecidableEq, Repr

/-- `PolicyVersion::Of`. -/
def PolicyVersion.of (number : Int) : Result PolicyVersion :=
  if h : 1 ≤ number then .ok ⟨number, h⟩
  else .error ⟨.validation, "policy_version_out_of_range", "версии перечня нумеруются с единицы"⟩

/-- The identifier of a consent. -/
structure ConsentRecordId where
  bytes : Vector UInt8 16
deriving DecidableEq, Repr

/-- A consent: about whom, by whom, to what, by which action and when. -/
structure ConsentRecord where
  id : ConsentRecordId
  tenant : TenantId
  subject : PersonId
  givenBy : PersonId
  kind : ConsentKind
  version : PolicyVersion
  action : ConsentAction
  givenAt : Int
  withdrawnAt : Option Int
deriving DecidableEq

namespace ConsentRecord

/-- There is no such kind of consent. -/
def consentKindUnknown : Error := ⟨.validation, "consent_kind_unknown", "такого вида согласия нет"⟩

/-- There is no such action. -/
def consentActionUnknown : Error :=
  ⟨.validation, "consent_action_unknown", "согласие без действия ничем не подтверждается"⟩

/-- `ConsentRecord::Give`. -/
def give (id : ConsentRecordId) (tenant : TenantId) (subject givenBy : PersonId)
    (kind : ConsentKind) (version : PolicyVersion) (action : ConsentAction) (givenAt : Int) :
    Result ConsentRecord :=
  if kind = .boundary then .error consentKindUnknown
  else if action = .boundary then .error consentActionUnknown
  else .ok ⟨id, tenant, subject, givenBy, kind, version, action, givenAt, none⟩

/-- `Withdrawn`. -/
def withdrawn (record : ConsentRecord) (at_ : Int) : Result ConsentRecord :=
  if record.withdrawnAt.isSome then
    .error ⟨.conflict, "consent_already_withdrawn", "это согласие отозвали раньше"⟩
  else if at_ < record.givenAt then
    .error ⟨.validation, "consent_withdrawn_before_given", "отзыв стоит раньше согласия"⟩
  else .ok { record with withdrawnAt := some at_ }

/-- `ByGuardian`. -/
def byGuardian (record : ConsentRecord) : Bool := record.givenBy ≠ record.subject

/-- `IsLiveAt`. -/
def isLiveAt (record : ConsentRecord) (moment : Int) : Bool :=
  match record.withdrawnAt with
  | none => true
  | some withdrawnAt => moment < withdrawnAt

end ConsentRecord

/-- `NeedsReacceptance`. -/
def needsReacceptance (accepted current : PolicyVersion) (substantialBetween : Bool) : Bool :=
  accepted.number < current.number && substantialBetween

/-- `identity_consent`: one live consent for a person and a kind, and any number of withdrawn
ones. -/
instance : Schema ConsentRecord where
  check record := record.kind ≠ .boundary && record.action ≠ .boundary &&
    record.withdrawnAt.all (record.givenAt ≤ ·)
  clash a b := a.tenant = b.tenant && (a.id = b.id || (a.subject = b.subject && a.kind = b.kind &&
    a.withdrawnAt.isNone && b.withdrawnAt.isNone))
  clash_symm a b h := by
    simp only [Bool.and_eq_true, Bool.or_eq_true, decide_eq_true_eq] at h ⊢
    obtain ⟨htenant, hid | ⟨⟨⟨hsubject, hkind⟩, ha⟩, hb⟩⟩ := h
    · exact ⟨htenant.symm, Or.inl hid.symm⟩
    · exact ⟨htenant.symm, Or.inr ⟨⟨⟨hsubject.symm, hkind.symm⟩, hb⟩, ha⟩⟩

namespace ConsentRecord

variable {id : ConsentRecordId} {tenant : TenantId} {subject givenBy : PersonId}
  {kind : ConsentKind} {version : PolicyVersion} {action : ConsentAction} {givenAt : Int}
  {record : ConsentRecord}

/-- What is given is live and names a kind and an action. -/
theorem give_eq_ok : give id tenant subject givenBy kind version action givenAt = .ok record ↔
    kind ≠ .boundary ∧ action ≠ .boundary ∧
      record = ⟨id, tenant, subject, givenBy, kind, version, action, givenAt, none⟩ := by
  unfold give
  split
  · rename_i hkind
    simp [hkind]
  · rename_i hkind
    split
    · rename_i haction
      simp [haction]
    · rename_i haction
      simp [hkind, haction, eq_comm]

theorem check_of_give
    (h : give id tenant subject givenBy kind version action givenAt = .ok record) :
    Schema.check record = true := by
  obtain ⟨hkind, haction, rfl⟩ := give_eq_ok.1 h
  simp [Schema.check, hkind, haction]

end ConsentRecord

end Pdr.Identity
