import Pdr.Identity.Application.GuardianScopes
import Pdr.Identity.Core.Consent
import Pdr.Identity.Policies.ContractService
import Pdr.Identity.Store.Laws
import Pdr.StoreProgram.Sequence

/-!
# Giving consent and being asked again

A person or his guardian consents, and the screen of a person's data asks for a new consent
when the version he accepted is out of date. A consent that is given is saved beside those that
are there, and the table allows one live consent of a kind. So a new version can be accepted
only by those who have never consented, or have withdrawn.

## Main definitions

* `Pdr.Identity.giveConsent`, `Pdr.Identity.showMyData`
* `Pdr.Identity.IsAcceptable`: a consent can be stored.

## Main results

* `Pdr.Identity.consent_is_taken_iff`: which consents are taken, and which end the asking.
* `Pdr.Identity.new_version_cannot_be_accepted`: one that is not, and does not.
-/

namespace Pdr.Identity

open StoreProgram Program

/-! ### The store of consents -/

/-- The calls of the store of consents. -/
inductive ConsentsCall where
  | of (tenant : TenantId) (subject : PersonId)
  | save (record : ConsentRecord)

namespace ConsentsCall

/-- What each call answers. -/
@[reducible] def Answer : ConsentsCall → Type
  | of .. => List ConsentRecord
  | save _ => Unit

/-- The port `Consents` over `identity_consent`. -/
def exec : (call : ConsentsCall) → Table ConsentRecord →
    Except Fault call.Answer × Table ConsentRecord
  | of tenant subject, table =>
    (.ok (table.rows.filter fun row => row.tenant = tenant && row.subject = subject), table)
  | save record, table => commit "identity_consent" table <|
    table.upsert (fun row => row.tenant = record.tenant && row.id = record.id) (fun _ => record)
      record

end ConsentsCall

/-- The table of consents as a machine. -/
def consentStore : Machine ConsentsCall.Answer Fault (Table ConsentRecord) where
  exec := ConsentsCall.exec

/-! ### Giving consent -/

/-- The port `PolicyVersions`: the version in force, and whether there is a substantial one
after another. -/
structure PolicyVersions where
  current : PolicyVersion
  substantialAfter : PolicyVersion → Bool

/-- Who consents to what, for whom, and by which action. -/
structure GiveConsentRequest where
  tenant : TenantId
  subject : PersonId
  givenBy : PersonId
  kind : ConsentKind
  action : ConsentAction

/-- A request to consent, with what its execution is given from outside. -/
structure ConsentOrder where
  view : AccessView
  versions : PolicyVersions
  id : ConsentRecordId
  now : Int
  request : GiveConsentRequest

/-- Neither the person himself consents nor his guardian. -/
def consentNotYoursToGive : Error :=
  ⟨.forbidden, "consent_not_yours_to_give", "за ученика соглашается его опекун, и никто другой"⟩

/-- The person is too young to consent for himself. -/
def consentNeedsGuardian : Error :=
  ⟨.forbidden, "consent_needs_guardian",
    "за ребёнка соглашается опекун: сам он этого сделать пока не может"⟩

/-- The rules of authority and maturity: a guardian consents for a student, and a student for
himself from the first threshold on. -/
def ConsentOrder.mayConsent (order : ConsentOrder) : Result Unit :=
  let request := order.request
  if request.givenBy ≠ request.subject then
    if (order.view.findGuardianship request.tenant request.givenBy request.subject).isSome then
      .ok ()
    else .error consentNotYoursToGive
  else
    match order.view.rule with
    | .error error => .error error
    | .ok rule =>
      match order.view.bornOn request.tenant request.subject with
      | none => .ok ()
      | some bornOn =>
        if order.now < AgeStatus.turnsAt bornOn (rule.thresholds.years .slotsAndReviews) then
          .error consentNeedsGuardian
        else .ok ()

/-- `GiveConsent::Execute`. -/
def giveConsent (order : ConsentOrder) : Program ConsentsCall.Answer Fault ConsentRecord := do
  ofExcept order.mayConsent.orRefuse
  let record ← ofExcept (ConsentRecord.give order.id order.request.tenant order.request.subject
    order.request.givenBy order.request.kind order.versions.current order.request.action
    order.now).orRefuse
  perform (ConsentsCall.save record)
  return record

/-- Giving consent as a machine over the store. -/
def consentDesk : Machine (fun _ : ConsentOrder => ConsentRecord) Fault (Table ConsentRecord) :=
  consentStore.whole giveConsent

/-- A consent given, or tried, in a run. -/
abbrev ConsentTurn : Type :=
  Turn (fun _ : ConsentOrder => ConsentRecord) Fault (Table ConsentRecord)

/-! ### The screen of a person's data -/

/-- A category of the list. -/
inductive PersonalDataCategory where
  | account | childAndGuardian | scheduleAndAttendance | paymentsAndReceipts | messages
  | recordingsAndTranscripts | learningResults | technicalRecords
deriving DecidableEq, Repr

/-- `kEveryPersonalDataCategory`. -/
def everyPersonalDataCategory : List PersonalDataCategory :=
  [.account, .childAndGuardian, .scheduleAndAttendance, .paymentsAndReceipts, .messages,
    .recordingsAndTranscripts, .learningResults, .technicalRecords]

/-- To whom data go. -/
inductive Recipient where
  | paymentProvider | receiptService | modelProvider | handwriting | hosting
deriving DecidableEq, Repr

/-- `kEveryRecipient`. -/
def everyRecipient : List Recipient :=
  [.paymentProvider, .receiptService, .modelProvider, .handwriting, .hosting]

/-- A consent as a person is shown it. -/
structure ConsentShown where
  kind : ConsentKind
  version : PolicyVersion
  action : ConsentAction
  givenAt : Int
  byGuardian : Bool
  live : Bool
deriving DecidableEq

/-- What a person is shown of what is known about him. -/
structure MyData where
  categories : List PersonalDataCategory
  recipients : List Recipient
  consents : List ConsentShown
  asksToAcceptAgain : Bool
  currentVersion : PolicyVersion
deriving DecidableEq

/-- What one consent adds to the version that counts as accepted: the loop's body. -/
def acceptNewer (now : Int) (accepted : Option PolicyVersion) (record : ConsentRecord) :
    Option PolicyVersion :=
  if record.kind ≠ .processing || !record.isLiveAt now then accepted
  else
    match accepted with
    | none => some record.version
    | some version =>
      if version.number < record.version.number then some record.version else accepted

/-- `ShowMyData::Execute`. -/
def showMyData (versions : PolicyVersions) (now : Int) (tenant : TenantId) (subject : PersonId) :
    Program ConsentsCall.Answer Fault MyData := do
  let records ← perform (ConsentsCall.of tenant subject)
  let accepted := records.foldl (acceptNewer now) none
  return {
    categories := everyPersonalDataCategory
    recipients := everyRecipient
    consents := records.map fun record =>
      ⟨record.kind, record.version, record.action, record.givenAt, record.byGuardian,
        record.isLiveAt now⟩
    asksToAcceptAgain :=
      match accepted with
      | none => true
      | some version =>
        needsReacceptance version versions.current (versions.substantialAfter version)
    currentVersion := versions.current }

/-- The screen asks the person at the moment to accept the version in force. -/
def AsksAgain (versions : PolicyVersions) (now : Int) (tenant : TenantId) (subject : PersonId)
    (table : Table ConsentRecord) : Prop :=
  ∃ shown, ((showMyData versions now tenant subject).run consentStore table).1 = .ok shown ∧
    shown.asksToAcceptAgain = true

/-! ### What a consent does -/

/-- The consent names a kind and an action, and the person has no live one of the kind. -/
def IsAcceptable (request : GiveConsentRequest) (table : Table ConsentRecord) : Prop :=
  request.kind ≠ .boundary ∧ request.action ≠ .boundary ∧
    ∀ row ∈ table.rows, row.tenant = request.tenant → row.subject = request.subject →
      row.kind = request.kind → row.withdrawnAt.isSome = true

/-- The identifier drawn for a consent is no other's. -/
def DrawsFreshConsent (t : ConsentTurn) : Prop :=
  ∀ row ∈ t.before.rows, row.id ≠ t.entry.op.id

/-- The consent an order gives. -/
def ConsentOrder.record (order : ConsentOrder) : ConsentRecord :=
  ⟨order.id, order.request.tenant, order.request.subject, order.request.givenBy,
    order.request.kind, order.versions.current, order.request.action, order.now, none⟩

section Giving

variable {order : ConsentOrder} {table : Table ConsentRecord}

/-- An acceptable consent can be inserted. -/
theorem exists_insert_iff (hfresh : ∀ row ∈ table.rows, row.id ≠ order.id)
    (hcheck : Schema.check order.record = true) :
    (∃ table', table.insert order.record = some table') ↔
      ∀ row ∈ table.rows, row.tenant = order.request.tenant →
        row.subject = order.request.subject → row.kind = order.request.kind →
          row.withdrawnAt.isSome = true := by
  constructor
  · rintro ⟨table', hinsert⟩ row hrow htenant hsubject hkind
    by_contra hlive
    have hclash : Schema.clash row order.record = true := by
      simp [Schema.clash, ConsentOrder.record, htenant, hsubject, hkind,
        Option.not_isSome_iff_eq_none.1 hlive]
    rw [Table.insert_eq_none_of_clash hrow hclash] at hinsert
    cases hinsert
  · intro hfree
    refine Table.exists_insert hcheck fun row hrow => ?_
    have hid := hfresh row hrow
    have hone := hfree row hrow
    by_cases htenant : row.tenant = order.request.tenant
    · simp only [Schema.clash, ConsentOrder.record, htenant, hid, decide_true, decide_false,
        Bool.true_and, Bool.false_or]
      by_cases hsame : row.subject = order.request.subject ∧ row.kind = order.request.kind
      · have hwithdrawn := hone htenant hsame.1 hsame.2
        simp [hwithdrawn]
      · rcases not_and_or.1 hsame with hsubject | hkind
        · simp [hsubject]
        · simp [hkind]
    · simp [Schema.clash, ConsentOrder.record, htenant]

/-- A permitted consent is saved when it is acceptable, and changes nothing when it is not. -/
theorem giveConsent_run (hmay : order.mayConsent = .ok ())
    (hfresh : ∀ row ∈ table.rows, row.id ≠ order.id) :
    (IsAcceptable order.request table ∧ ∃ table',
      (giveConsent order).run consentStore table = (.ok order.record, table') ∧
        table'.rows = table.rows ++ [order.record]) ∨
    (¬ IsAcceptable order.request table ∧ ∃ fault,
      (giveConsent order).run consentStore table = (.error fault, table)) := by
  by_cases hnamed : order.request.kind ≠ .boundary ∧ order.request.action ≠ .boundary
  · have hgive : ConsentRecord.give order.id order.request.tenant order.request.subject
        order.request.givenBy order.request.kind order.versions.current order.request.action
        order.now = .ok order.record := ConsentRecord.give_eq_ok.2 ⟨hnamed.1, hnamed.2, rfl⟩
    have hsave : consentStore.exec (ConsentsCall.save order.record) table =
        commit "identity_consent" table (table.insert order.record) := by
      have hnew : (table.rows.any fun row =>
          row.tenant = order.record.tenant && row.id = order.record.id) = false := by
        refine List.any_eq_false.2 fun row hrow => ?_
        simp [ConsentOrder.record, hfresh row hrow]
      simp [consentStore, ConsentsCall.exec, Table.upsert, hnew]
    have hinserted := exists_insert_iff hfresh (ConsentRecord.check_of_give hgive)
    cases hinsert : table.insert order.record with
    | some table' =>
      refine Or.inl ⟨⟨hnamed.1, hnamed.2, hinserted.1 ⟨table', hinsert⟩⟩, table', ?_,
        Table.rows_of_insert hinsert⟩
      simp [giveConsent, hmay, hgive, run_bind, hsave, hinsert, commit]
    | none =>
      refine Or.inr ⟨fun hacceptable => ?_, .thrown (.schemaViolation "identity_consent"), ?_⟩
      · obtain ⟨table', hsome⟩ := hinserted.2 hacceptable.2.2
        rw [hinsert] at hsome
        cases hsome
      · simp [giveConsent, hmay, hgive, run_bind, hsave, hinsert, commit]
  · refine Or.inr ⟨fun hacceptable => hnamed ⟨hacceptable.1, hacceptable.2.1⟩, ?_⟩
    by_cases hkind : order.request.kind = .boundary
    · exact ⟨.refused ConsentRecord.consentKindUnknown, by
        simp [giveConsent, hmay, ConsentRecord.give, hkind]⟩
    · have haction : order.request.action = .boundary := by
        by_contra haction
        exact hnamed ⟨hkind, haction⟩
      exact ⟨.refused ConsentRecord.consentActionUnknown, by
        simp [giveConsent, hmay, ConsentRecord.give, hkind, haction]⟩

/-! ### What the screen asks -/

/-- The version that counts as accepted. -/
def acceptedVersion (now : Int) (tenant : TenantId) (subject : PersonId)
    (table : Table ConsentRecord) : Option PolicyVersion :=
  (table.rows.filter fun row => row.tenant = tenant && row.subject = subject).foldl
    (acceptNewer now) none

theorem asksAgain_iff {versions : PolicyVersions} {now : Int} {tenant : TenantId}
    {subject : PersonId} : AsksAgain versions now tenant subject table ↔
      ∀ version ∈ acceptedVersion now tenant subject table,
        needsReacceptance version versions.current (versions.substantialAfter version) = true := by
  have hrun : ((showMyData versions now tenant subject).run consentStore table).1 = .ok
      { categories := everyPersonalDataCategory
        recipients := everyRecipient
        consents := (table.rows.filter fun row => row.tenant = tenant && row.subject = subject).map
          fun record => ⟨record.kind, record.version, record.action, record.givenAt,
            record.byGuardian, record.isLiveAt now⟩
        asksToAcceptAgain :=
          match acceptedVersion now tenant subject table with
          | none => true
          | some version =>
            needsReacceptance version versions.current (versions.substantialAfter version)
        currentVersion := versions.current } := rfl
  rw [AsksAgain, hrun]
  cases acceptedVersion now tenant subject table with
  | none => simp
  | some version => simp

/-- A live consent to the processing is not newer than what counts as accepted after it. -/
theorem acceptNewer_of_live {record : ConsentRecord} (hkind : record.kind = .processing)
    (hlive : record.withdrawnAt = none) (now : Int) (accepted : Option PolicyVersion) :
    ∃ version, acceptNewer now accepted record = some version ∧
      record.version.number ≤ version.number := by
  have hcounts : (record.kind ≠ .processing || !record.isLiveAt now) = false := by
    simp [hkind, ConsentRecord.isLiveAt, hlive]
  unfold acceptNewer
  rw [hcounts]
  cases accepted with
  | none => exact ⟨record.version, rfl, le_rfl⟩
  | some version =>
    by_cases hnewer : version.number < record.version.number
    · exact ⟨record.version, by simp [hnewer], le_rfl⟩
    · exact ⟨version, by simp [hnewer], Int.not_lt.1 hnewer⟩

/-- After a consent to the version in force the screen does not ask. -/
theorem not_asksAgain_of_saved {table' : Table ConsentRecord} (now : Int)
    (hkind : order.request.kind = .processing)
    (hrows : table'.rows = table.rows ++ [order.record]) :
    ¬ AsksAgain order.versions now order.request.tenant order.request.subject table' := by
  rw [asksAgain_iff]
  intro hasks
  obtain ⟨version, haccepted, hnumber⟩ := acceptNewer_of_live
    (show order.record.kind = .processing from hkind) rfl now
    (acceptedVersion now order.request.tenant order.request.subject table)
  have hlast : acceptedVersion now order.request.tenant order.request.subject table' =
      some version := by
    rw [acceptedVersion, hrows, List.filter_append, List.foldl_append, ← haccepted]
    simp [ConsentOrder.record, acceptedVersion]
  have hneeds := hasks version hlast
  simp only [needsReacceptance, Bool.and_eq_true, decide_eq_true_eq] at hneeds
  have hcurrent : order.versions.current.number ≤ version.number := hnumber
  omega

end Giving

/-! ### Which consents are taken -/

theorem live_consents_eq (table : Table ConsentRecord) {first second : ConsentRecord}
    (hfirst : first ∈ table.rows) (hsecond : second ∈ table.rows)
    (htenant : first.tenant = second.tenant) (hsubject : first.subject = second.subject)
    (hkind : first.kind = second.kind) (hlive : first.withdrawnAt = none)
    (hlive' : second.withdrawnAt = none) : first = second := by
  refine table.eq_of_clash hfirst hsecond ?_
  simp [Schema.clash, htenant, hsubject, hkind, hlive, hlive']

/-- **Which consents are taken.** In every run there is at most one live consent of a kind about
a person. A consent permitted by the rules is taken exactly when it names a kind and an action
and the person has no live consent of that kind. And where the screen asks, a permitted consent
to the processing ends the asking under the same condition. -/
theorem consent_is_taken_iff {table table' : Table ConsentRecord} {steps : List ConsentTurn}
    (hrun : Linked consentDesk table steps table') (hfresh : ∀ t ∈ steps, DrawsFreshConsent t) :
    ∀ t ∈ steps,
      (∀ first ∈ t.after.rows, ∀ second ∈ t.after.rows, first.tenant = second.tenant →
        first.subject = second.subject → first.kind = second.kind → first.withdrawnAt = none →
          second.withdrawnAt = none → first = second) ∧
      (t.entry.op.mayConsent = .ok () →
        ((∃ record, t.entry.answer = .ok record) ↔ IsAcceptable t.entry.op.request t.before) ∧
        (t.entry.op.request.kind = .processing →
          AsksAgain t.entry.op.versions t.entry.op.now t.entry.op.request.tenant
            t.entry.op.request.subject t.before →
          ((∀ moment, ¬ AsksAgain t.entry.op.versions moment t.entry.op.request.tenant
            t.entry.op.request.subject t.after) ↔ IsAcceptable t.entry.op.request t.before))) := by
  intro t ht
  refine ⟨fun first hfirst second hsecond => live_consents_eq t.after hfirst hsecond,
    fun hmay => ?_⟩
  have hexec : (giveConsent t.entry.op).run consentStore t.before = (t.entry.answer, t.after) :=
    hrun.exec_eq ht
  rcases giveConsent_run hmay (hfresh t ht) with
    ⟨hacceptable, table'', htaken, hrows⟩ | ⟨hnot, fault, hfailed⟩
  · rw [hexec] at htaken
    obtain ⟨hanswer, rfl⟩ := Prod.mk.inj htaken
    refine ⟨iff_of_true ⟨_, hanswer⟩ hacceptable, fun hkind _ => iff_of_true ?_ hacceptable⟩
    exact fun moment => not_asksAgain_of_saved moment hkind hrows
  · rw [hexec] at hfailed
    obtain ⟨hanswer, hsame⟩ := Prod.mk.inj hfailed
    refine ⟨iff_of_false ?_ hnot, fun _ hasks => iff_of_false (fun hends => ?_) hnot⟩
    · rintro ⟨record, htaken⟩
      rw [hanswer] at htaken
      cases htaken
    · rw [hsame] at hends
      exact hends t.entry.op.now hasks

/-! ### A new version -/

/-- A grown person who has no guardian. -/
def grownView : AccessView where
  guardianships := []
  consents := []
  rolesOf _ _ := BitSet.empty
  bornOn _ _ := none
  rule := .ok schoolRule

/-- A request to consent to the processing. -/
def processingAgreed (action : ConsentAction) : GiveConsentRequest :=
  ⟨repeated 7, repeated 1, repeated 1, .processing, action⟩

/-- He signs up under the first version of the list. -/
def signsUp : ConsentOrder where
  view := grownView
  versions := ⟨⟨1, le_rfl⟩, fun _ => false⟩
  id := ⟨Vector.replicate 16 1⟩
  now := 10
  request := processingAgreed .signUpCheckbox

/-- The second version is substantial, and he accepts it. -/
def acceptsNewVersion : ConsentOrder where
  view := grownView
  versions := ⟨⟨2, by decide⟩, fun version => version.number < 2⟩
  id := ⟨Vector.replicate 16 2⟩
  now := 20
  request := processingAgreed .versionAccepted

/-- The turn in which he signs up. -/
def signedUp : ConsentTurn := turn consentDesk signsUp .empty

/-- The turn in which he accepts the new version. -/
def newVersionAccepted : ConsentTurn := turn consentDesk acceptsNewVersion signedUp.after

/-- Before that he agreed to be recorded. -/
def agreesToRecordings : ConsentOrder where
  view := grownView
  versions := signsUp.versions
  id := ⟨Vector.replicate 16 3⟩
  now := 5
  request := ⟨repeated 7, repeated 1, repeated 1, .recordings, .settingsCheckbox⟩

/-- The turn in which he does so. -/
def agreedToRecordings : ConsentTurn := turn consentDesk agreesToRecordings .empty

/-- Then he signs up. -/
def signedUpAfter : ConsentTurn := turn consentDesk signsUp agreedToRecordings.after

theorem agreedToRecordings_rows : agreedToRecordings.after.rows = [agreesToRecordings.record] := by
  decide +kernel

/-- The consent to the recordings is taken, then that to the processing, which is another kind, and
he is not asked any more. -/
theorem both_consents_are_taken : (∃ record, agreedToRecordings.entry.answer = .ok record) ∧
    (∃ record, signedUpAfter.entry.answer = .ok record) ∧
    ∀ moment, ¬ AsksAgain signsUp.versions moment (repeated 7) (repeated 1)
      signedUpAfter.after := by
  have hrun : Linked consentDesk .empty [agreedToRecordings, signedUpAfter] signedUpAfter.after :=
    turns_linked consentDesk [agreesToRecordings, signsUp] .empty
  have hfresh : ∀ t ∈ [agreedToRecordings, signedUpAfter], DrawsFreshConsent t := by
    rintro t ht row hrow
    rcases List.mem_cons.1 ht with rfl | ht
    · cases hrow
    · obtain rfl := List.mem_singleton.1 ht
      change row ∈ agreedToRecordings.after.rows at hrow
      rw [agreedToRecordings_rows] at hrow
      obtain rfl := List.mem_singleton.1 hrow
      decide
  have hconsents := consent_is_taken_iff hrun hfresh
  have hfirst : IsAcceptable agreesToRecordings.request .empty :=
    ⟨by decide, by decide, fun row hrow => by cases hrow⟩
  have hsecond : IsAcceptable signsUp.request agreedToRecordings.after := by
    refine ⟨by decide, by decide, fun row hrow => ?_⟩
    rw [agreedToRecordings_rows] at hrow
    obtain rfl := List.mem_singleton.1 hrow
    decide
  obtain ⟨-, htaken⟩ := hconsents agreedToRecordings List.mem_cons_self
  obtain ⟨-, htaken'⟩ := hconsents signedUpAfter (List.mem_cons_of_mem _ List.mem_cons_self)
  obtain ⟨hsigned, hends⟩ := htaken' rfl
  refine ⟨(htaken rfl).1.2 hfirst, hsigned.2 hsecond, (hends rfl ?_).2 hsecond⟩
  rw [asksAgain_iff]
  decide +kernel

/-- **A new version cannot be accepted.** The person signed up, a substantial version came, the
screen asks him to accept it, and he may; his consent breaks the index of the table, and the
screen asks as before. -/
theorem new_version_cannot_be_accepted :
    Linked consentDesk .empty [signedUp, newVersionAccepted] newVersionAccepted.after ∧
      acceptsNewVersion.mayConsent = .ok () ∧
      AsksAgain acceptsNewVersion.versions 20 (repeated 7) (repeated 1)
        newVersionAccepted.before ∧
      newVersionAccepted.entry.answer = .error (.thrown (.schemaViolation "identity_consent")) ∧
      AsksAgain acceptsNewVersion.versions 20 (repeated 7) (repeated 1)
        newVersionAccepted.after := by
  refine ⟨turns_linked consentDesk [signsUp, acceptsNewVersion] .empty, rfl, ?_, ?_, ?_⟩
  · rw [asksAgain_iff]
    decide +kernel
  · decide +kernel
  · rw [asksAgain_iff]
    decide +kernel

end Pdr.Identity
