import Pdr.Identity.Application.Ports
import Pdr.Identity.Store.Laws
import Pdr.StoreProgram.Serial

/-!
# Who can find a practice

The owner asks to be found, and hides again whenever he likes; a moderator publishes or
refuses. Each of these calls reads the practice, decides on what it read and writes the
outcome over whatever is stored by then. A decision taken on a practice that its owner has
hidden in the meantime brings it back into the search.

## Main definitions

* `Pdr.Identity.publicationStore`: the two calls of the practices.
* `Pdr.Identity.PublicationOrder`: one of the four calls of the owner and the moderator.
* `Pdr.Identity.IsTimely`: what is saved would have been decided on what is stored.

## Main results

* `Pdr.Identity.exists_serial_publication`: timely decisions are serial.
* `Pdr.Identity.publication_is_serial`: and what the owner has hidden stays hidden until he asks.
* `Pdr.Identity.published_after_hiding`: a decision that was late.
-/

namespace Pdr.Identity

open StoreProgram Program

/-! ### The stored practice -/

/-- The calls of the board of practices. -/
inductive PublicationCall where
  | find (tenant : TenantId)
  | save (practice : Practice)

namespace PublicationCall

/-- What each call answers. -/
@[reducible] def Answer : PublicationCall → Type
  | find _ => Option Practice
  | save _ => Unit

/-- A stored row with the visibility of the practice saved. -/
def withVisibilityOf (practice : Practice) (row : PracticeRow) : PracticeRow :=
  { row with practice := { row.practice with
      visibility := practice.visibility
      askedAt := practice.askedAt
      decidedAt := practice.decidedAt
      refusal := practice.refusal } }

/-- The queries of `PostgresPractices` about visibility. The save asks nothing of the row. -/
def exec : (call : PublicationCall) → Table PracticeRow →
    Except Fault call.Answer × Table PracticeRow
  | find tenant, table => PracticeCall.exec (.find tenant) table
  | save practice, table => commit "identity_tenant" table <|
    table.updateWhere (·.practice.tenant = practice.tenant) (withVisibilityOf practice)

end PublicationCall

/-- The practices as the calls of publication see them. -/
def publicationStore : Machine PublicationCall.Answer Fault (Table PracticeRow) where
  exec := PublicationCall.exec

/-- The practice of the tenant. -/
def practiceOf (tenant : TenantId) (table : Table PracticeRow) : Option Practice :=
  (table.find? fun row => row.practice.tenant = tenant).map (·.practice)

/-! ### The four calls -/

/-- `PracticeVisibilityChanged`, with its envelope. -/
structure PracticeVisibilityChanged where
  tenant : TenantId
  at_ : Int
  visibility : String
  discoverable : Bool
deriving DecidableEq

/-- `Announce`. -/
def announce (practice : Practice) (at_ : Int) : PracticeVisibilityChanged :=
  ⟨practice.tenant, at_, practice.visibility.name, practice.isDiscoverable⟩

/-- There is no such practice. -/
def practiceUnknown : Error := ⟨.notFound, "practice_unknown", "такой практики нет"⟩

/-- The practice that was saved, with the event that was published. -/
abbrev Publishing : Type :=
  Program PublicationCall.Answer Fault (Practice × PracticeVisibilityChanged)

/-- Make a call of the practices. -/
abbrev askPractices (call : PublicationCall) : Program PublicationCall.Answer Fault call.Answer :=
  perform call

/-- What the four calls have in common: find, change, save, announce. -/
def changeVisibility (tenant : TenantId) (change : Practice → Result Practice) (announcedAt : Int) :
    Publishing := do
  match ← askPractices (.find tenant) with
  | none => raise (.refused practiceUnknown)
  | some found =>
    let changed ← ofExcept (change found).orRefuse
    askPractices (.save changed)
    return (changed, announce changed announcedAt)

/-- `AskToPublish::Execute`. -/
def askToPublish (clock : Nat → Int) (tenant : TenantId) : Publishing :=
  changeVisibility tenant (fun found => found.askedToPublish (clock 0)) (clock 1)

/-- `AskToPublish::Hide`. -/
def hide (clock : Nat → Int) (tenant : TenantId) : Publishing :=
  changeVisibility tenant (fun found => .ok (found.hidden (clock 0))) (clock 1)

/-- `DecidePublication::Publish`. -/
def publish (clock : Nat → Int) (tenant : TenantId) : Publishing :=
  changeVisibility tenant (fun found => found.published (clock 0)) (clock 1)

/-- `DecidePublication::Refuse`. -/
def refusePublication (clock : Nat → Int) (tenant : TenantId) (reason : RefusalReason) :
    Publishing :=
  changeVisibility tenant (fun found => found.refusedBecause reason (clock 0)) (clock 1)

/-- What the owner or the moderator asks for. -/
inductive PublicationIntent where
  | ask
  | hide
  | publish
  | refuse (reason : RefusalReason)
deriving DecidableEq

/-- A call of the owner or the moderator, with the answers of its clock. -/
structure PublicationOrder where
  tenant : TenantId
  clock : Nat → Int
  intent : PublicationIntent

namespace PublicationOrder

/-- The call as a program. -/
def program : PublicationOrder → Publishing
  | ⟨tenant, clock, .ask⟩ => askToPublish clock tenant
  | ⟨tenant, clock, .hide⟩ => hide clock tenant
  | ⟨tenant, clock, .publish⟩ => publish clock tenant
  | ⟨tenant, clock, .refuse reason⟩ => refusePublication clock tenant reason

/-- What the call makes of a practice. -/
def change (order : PublicationOrder) (found : Practice) : Result Practice :=
  match order.intent with
  | .ask => found.askedToPublish (order.clock 0)
  | .hide => .ok (found.hidden (order.clock 0))
  | .publish => found.published (order.clock 0)
  | .refuse reason => found.refusedBecause reason (order.clock 0)

theorem program_eq (order : PublicationOrder) :
    order.program = changeVisibility order.tenant order.change (order.clock 1) := by
  obtain ⟨tenant, clock, intent⟩ := order
  cases intent <;> rfl

/-- The change keeps the tenant and leads where the call leads: to review by an owner who asks,
into the search from review by a moderator who publishes. -/
theorem change_eq_ok {order : PublicationOrder} {found changed : Practice}
    (h : order.change found = .ok changed) :
    changed.tenant = found.tenant ∧ (changed.visibility = .pending → order.intent = .ask) ∧
      (changed.visibility = .published →
        order.intent = .publish ∧ found.visibility = .pending) ∧
      (order.intent = .hide → changed.visibility = .hidden) := by
  obtain ⟨tenant, clock, intent⟩ := order
  cases intent with
  | ask =>
    simp only [change, Practice.askedToPublish] at h
    split at h
    · cases h
    · cases h
    · cases h
      simp
  | hide =>
    cases h
    simp [Practice.hidden]
  | publish =>
    simp only [change, Practice.published] at h
    split at h
    · cases h
    · rename_i hpending
      cases h
      simpa using hpending
  | refuse reason =>
    simp only [change, Practice.refusedBecause] at h
    split at h
    · cases h
    · cases h
      simp

end PublicationOrder

/-! ### One call of the practices -/

section Store

variable {tenant : TenantId} {table table' : Table PracticeRow} {practice : Practice}

theorem tenant_of_practiceOf (h : practiceOf tenant table = some practice) :
    practice.tenant = tenant := by
  obtain ⟨row, hrow, rfl⟩ := Option.map_eq_some_iff.1 h
  have hwanted := Table.wanted_of_find? hrow
  simpa using hwanted

/-- A save that succeeded changes the visibility of the practice of its tenant. -/
theorem practiceOf_of_save
    (h : publicationStore.exec (.save practice) table = (.ok (), table')) :
    practiceOf tenant table' = (practiceOf tenant table).map fun stored =>
      if stored.tenant = practice.tenant then
        { stored with
          visibility := practice.visibility
          askedAt := practice.askedAt
          decidedAt := practice.decidedAt
          refusal := practice.refusal }
      else stored := by
  rcases commit_eq h with ⟨-, hupdate⟩ | ⟨⟨⟩, -⟩
  rw [practiceOf, Table.find?_updateWhere hupdate fun row _ => rfl, practiceOf, Option.map_map,
    Option.map_map]
  congr 1
  funext row
  simp only [Function.comp_apply, decide_eq_true_eq]
  split <;> rfl

/-- A call after which the practice has a visibility that it did not have before is a save of a
practice that has it. -/
theorem save_of_visibility {entry : Entry PublicationCall.Answer Fault} {visibility : Visibility}
    (hexec : publicationStore.exec entry.op table = (entry.answer, table'))
    (hbefore : (practiceOf tenant table).map (·.visibility) ≠ some visibility)
    (hafter : (practiceOf tenant table').map (·.visibility) = some visibility) :
    ∃ practice, entry = ⟨.save practice, .ok ()⟩ ∧ practice.tenant = tenant ∧
      practice.visibility = visibility := by
  obtain ⟨call, answer⟩ := entry
  cases call with
  | find asked =>
    obtain rfl : table = table' := congrArg Prod.snd hexec
    exact absurd hafter hbefore
  | save practice =>
    rcases commit_eq hexec with ⟨rfl, -⟩ | ⟨-, rfl⟩
    · obtain ⟨row, hrow, hvisible⟩ := Option.map_eq_some_iff.1 hafter
      rw [practiceOf_of_save hexec] at hrow
      obtain ⟨stored, hstored, rfl⟩ := Option.map_eq_some_iff.1 hrow
      have htenant := tenant_of_practiceOf hstored
      by_cases hsame : stored.tenant = practice.tenant
      · rw [if_pos hsame] at hvisible
        exact ⟨practice, rfl, hsame.symm.trans htenant, hvisible⟩
      · rw [if_neg hsame] at hvisible
        rw [hstored] at hbefore
        exact absurd (congrArg some hvisible) hbefore
    · exact absurd hafter hbefore

end Store

/-! ### Calls among others -/

/-- A step of calls that overlap. -/
abbrev PublicationStep (ι : Type) : Type :=
  Step ι PublicationCall.Answer Fault (Table PracticeRow)

/-- What a call saves it would have decided on the practice that is stored, too. -/
def IsTimely {ι : Type} (orders : ι → PublicationOrder) (t : PublicationStep ι) : Prop :=
  ∀ changed, t.entry.op = .save changed → ∃ stored,
    practiceOf (orders t.thread).tenant t.before = some stored ∧
      (orders t.thread).change stored = .ok changed

theorem exec_find (tenant : TenantId) (table : Table PracticeRow) :
    publicationStore.exec (.find tenant) table = (.ok (practiceOf tenant table), table) := rfl

/-- A call made alone. -/
theorem run_changeVisibility {tenant : TenantId} {change : Practice → Result Practice}
    {announcedAt : Int} {table : Table PracticeRow} {found changed : Practice}
    (hfound : practiceOf tenant table = some found) (hchange : change found = .ok changed) :
    (changeVisibility tenant change announcedAt).run publicationStore table =
      ((publicationStore.exec (.save changed) table).1.map fun _ =>
          (changed, announce changed announcedAt),
        (publicationStore.exec (.save changed) table).2) := by
  simp only [changeVisibility, askPractices, run_bind, run_perform, exec_find, hfound, hchange,
    Result.orRefuse_ok, ofExcept_ok, run_done]
  rcases publicationStore.exec (.save changed) table with ⟨_ | _, after⟩ <;> rfl

/-- The step completes a call of this kind about the tenant. -/
def Completes {ι : Type} (orders : ι → PublicationOrder) (intent : PublicationIntent)
    (tenant : TenantId) (t : PublicationStep ι) : Prop :=
  (orders t.thread).intent = intent ∧ (orders t.thread).tenant = tenant ∧
    ∃ practice, t.entry = ⟨.save practice, .ok ()⟩

/-- The practice of the tenant comes up in the search. -/
def isDiscoverableIn (tenant : TenantId) (table : Table PracticeRow) : Bool :=
  (practiceOf tenant table).any (·.isDiscoverable)

theorem isDiscoverableIn_iff {tenant : TenantId} {table : Table PracticeRow} :
    isDiscoverableIn tenant table = true ↔
      (practiceOf tenant table).map (·.visibility) = some .published := by
  cases h : practiceOf tenant table <;> simp [isDiscoverableIn, Practice.isDiscoverable, h]

section Timely

variable {ι : Type} {orders : ι → PublicationOrder} {t : PublicationStep ι} {tenant : TenantId}

theorem IsTimely.change_eq_ok (h : IsTimely orders t) {practice : Practice}
    {answer : Except Fault Unit} (hentry : t.entry = ⟨.save practice, answer⟩) :
    ∃ stored, practiceOf (orders t.thread).tenant t.before = some stored ∧
      (orders t.thread).change stored = .ok practice ∧
      practice.tenant = (orders t.thread).tenant := by
  obtain ⟨stored, hstored, hchange⟩ := h practice (by rw [hentry])
  refine ⟨stored, hstored, hchange, ?_⟩
  rw [(PublicationOrder.change_eq_ok hchange).1, tenant_of_practiceOf hstored]

theorem completes_of_pending (h : IsTimely orders t)
    (hexec : publicationStore.exec t.entry.op t.before = (t.entry.answer, t.after))
    (hbefore : (practiceOf tenant t.before).map (·.visibility) ≠ some .pending)
    (hafter : (practiceOf tenant t.after).map (·.visibility) = some .pending) :
    Completes orders .ask tenant t := by
  obtain ⟨practice, hentry, rfl, hvisible⟩ := save_of_visibility hexec hbefore hafter
  obtain ⟨stored, hstored, hchange, htenant⟩ := h.change_eq_ok hentry
  exact ⟨(PublicationOrder.change_eq_ok hchange).2.1 hvisible, htenant.symm, practice, hentry⟩

/-- A practice comes into the search by a moderator, from review. -/
theorem completes_of_published (h : IsTimely orders t)
    (hexec : publicationStore.exec t.entry.op t.before = (t.entry.answer, t.after))
    (hbefore : (practiceOf tenant t.before).map (·.visibility) ≠ some .published)
    (hafter : (practiceOf tenant t.after).map (·.visibility) = some .published) :
    Completes orders .publish tenant t ∧
      (practiceOf tenant t.before).map (·.visibility) = some .pending := by
  obtain ⟨practice, hentry, rfl, hvisible⟩ := save_of_visibility hexec hbefore hafter
  obtain ⟨stored, hstored, hchange, htenant⟩ := h.change_eq_ok hentry
  obtain ⟨hintent, hpending⟩ := (PublicationOrder.change_eq_ok hchange).2.2.1 hvisible
  refine ⟨⟨hintent, htenant.symm, practice, hentry⟩, ?_⟩
  rw [htenant, hstored, Option.map_some, hpending]

/-- After hiding is completed a practice is neither in the search nor awaits review. -/
theorem hidden_of_completes (h : IsTimely orders t)
    (hexec : publicationStore.exec t.entry.op t.before = (t.entry.answer, t.after))
    (hhides : Completes orders .hide tenant t) :
    (practiceOf tenant t.after).map (·.visibility) = some .hidden := by
  obtain ⟨hintent, rfl, practice, hentry⟩ := hhides
  obtain ⟨stored, hstored, hchange, htenant⟩ := h.change_eq_ok hentry
  obtain ⟨hsame, -, -, hhidden⟩ := PublicationOrder.change_eq_ok hchange
  rw [hentry] at hexec
  rw [practiceOf_of_save hexec, hstored, Option.map_some, if_pos hsame.symm]
  exact congrArg some (hhidden hintent)

end Timely

/-- What a call that goes on has done: nothing, or it has found a practice and is about to save
what it makes of it. -/
theorem follows_changeVisibility {tenant : TenantId} {change : Practice → Result Practice}
    {announcedAt : Int} {history : List (Entry PublicationCall.Answer Fault)}
    {program : Publishing}
    (h : (changeVisibility tenant change announcedAt).Follows history program)
    (hgoesOn : program.isOver = false) :
    program = changeVisibility tenant change announcedAt ∨ ∃ found changed,
      change found = .ok changed ∧ program = (do
        askPractices (.save changed)
        return (changed, announce changed announcedAt)) := by
  rcases follows_call h with ⟨-, rfl⟩ | ⟨answer, later, rfl, hlater⟩
  · exact Or.inl rfl
  rcases answer with fault | _ | found
  · cases hlater
    cases hgoesOn
  · cases hlater
    cases hgoesOn
  cases hchanged : change found with
  | error error =>
    simp only [Program.ofExcept, Program.bind, hchanged] at hlater
    cases hlater
    cases hgoesOn
  | ok changed =>
    simp only [Program.ofExcept, Program.bind, hchanged] at hlater
    rcases follows_call hlater with ⟨-, rfl⟩ | ⟨saved, later, rfl, hlast⟩
    · exact Or.inr ⟨found, changed, hchanged, rfl⟩
    · cases saved with
      | error fault =>
        cases hlast
        cases hgoesOn
      | ok value =>
        cases hlast
        cases hgoesOn

section Runs

variable {ι : Type} [DecidableEq ι] {orders : ι → PublicationOrder}
  {table table' : Table PracticeRow} {steps : List (PublicationStep ι)} {pool' : ι → Publishing}

/-- **Timely decisions are serial**: some order of the calls that are over, each made alone,
ends with the same stored practices and the same results. -/
theorem exists_serial_publication
    (hrun : Runs publicationStore (fun i => (orders i).program) table steps pool' table')
    (htimely : ∀ t ∈ steps, IsTimely orders t) :
    ∃ order, IsSerial publicationStore (fun i => (orders i).program) pool' table table' order := by
  simp only [PublicationOrder.program_eq] at hrun ⊢
  refine exists_serial hrun (fun i => rfl) fun early t late mid mid' hsplit hearly hlast => ?_
  have htimelyNow := htimely t (by simp [hsplit])
  have hexec := hlast.exec_eq (List.mem_singleton_self t)
  have hfollows := hearly.follows t.thread
  obtain ⟨-, -, ⟨rest, hcall, hthen⟩, -⟩ := hlast.singleton
  obtain ⟨i, ⟨call, answer⟩, before, after⟩ := t
  dsimp only at hexec hfollows hcall hthen htimelyNow ⊢
  rw [hcall] at hfollows
  rw [hthen]
  rcases follows_changeVisibility hfollows rfl with hfinds | ⟨found, changed, -, hsaves⟩
  · -- The call finds its practice: it goes on to save, or this was its last call.
    cases hfinds
    rw [exec_find] at hexec
    obtain ⟨rfl, rfl⟩ := Prod.mk.inj hexec
    cases hfound : practiceOf (orders i).tenant before with
    | none =>
      refine Or.inr ⟨.error (.refused practiceUnknown), rfl, ?_⟩
      simp [changeVisibility, askPractices, run_bind, exec_find, hfound]
    | some found =>
      cases hchange : (orders i).change found with
      | error error =>
        refine Or.inr ⟨.error (.refused error), ?_, ?_⟩
        · simp only [Program.ofExcept, Program.bind, hchange]
          rfl
        · simp [changeVisibility, askPractices, run_bind, exec_find, hfound, hchange]
      | ok changed =>
        refine Or.inl ⟨?_, rfl⟩
        simp only [Program.ofExcept, Program.bind, hchange]
        rfl
  · -- What the call saves it would have decided on the practice that is stored.
    cases hsaves
    obtain ⟨stored, hstored, hchange⟩ := htimelyNow changed rfl
    refine Or.inr ⟨answer.map fun _ => (changed, announce changed ((orders i).clock 1)), ?_, ?_⟩
    · cases answer <;> rfl
    · rw [run_changeVisibility hstored hchange, hexec]

/-- **Publication is serial where the decisions are timely.** Any number of calls of owners and
moderators, in any interleaving of their finds and saves, each saving what it would have
decided on the practice that is stored: the calls that are over might have been made one after
another; and a practice whose owner has hidden it comes up in the search only after he asked
and a moderator published, in this order. -/
theorem publication_is_serial
    (hrun : Runs publicationStore (fun i => (orders i).program) table steps pool' table')
    (htimely : ∀ t ∈ steps, IsTimely orders t) :
    (∃ order, IsSerial publicationStore (fun i => (orders i).program) pool' table table' order) ∧
      ∀ early u late tenant, steps = early ++ u :: late → Completes orders .hide tenant u →
        isDiscoverableIn tenant table' = true → ∃ first v between w last,
          late = first ++ v :: between ++ w :: last ∧ Completes orders .ask tenant v ∧
            Completes orders .publish tenant w := by
  refine ⟨exists_serial_publication hrun htimely, ?_⟩
  rintro early u late tenant rfl hhides hfound
  have hlate := hrun.linked.split.2.2
  have hhidden := hidden_of_completes (htimely u (by simp)) (hrun.exec_eq (by simp)) hhides
  -- The last change into the search was from review, and into review by asking.
  obtain ⟨shown, w, last, rfl, hbefore, hafter⟩ := hlate.exists_change
    (P := fun table => (practiceOf tenant table).map (·.visibility) = some .published)
    (by rw [hhidden]; simp) (isDiscoverableIn_iff.1 hfound)
  obtain ⟨hpublish, hpending⟩ := completes_of_published (htimely w (by simp))
    (hrun.exec_eq (by simp)) hbefore hafter
  obtain ⟨first, v, between, rfl, hbefore, hafter⟩ := hlate.split.1.exists_change
    (P := fun table => (practiceOf tenant table).map (·.visibility) = some .pending)
    (by rw [hhidden]; simp) hpending
  exact ⟨first, v, between, w, last, rfl,
    completes_of_pending (htimely v (by simp)) (hrun.exec_eq (by simp)) hbefore hafter, hpublish⟩

end Runs

/-! ### A late decision -/

/-- The practice that somebody opens at moment 5. -/
def openedPractice : Table PracticeRow :=
  (PracticeCall.exec (.open_ ⟨repeated 7, ascii "p"⟩ ⟨ascii "UTC"⟩
    (Practice.opened (repeated 7) 5)) .empty).2

/-- Its owner asks at moment 10 that it be found. -/
def practiceInReview : Table PracticeRow :=
  ((askToPublish (fun _ => 10) (repeated 7)).run publicationStore openedPractice).2

/-- The moderator publishes it at moment 20, or the owner hides it at moment 30. -/
def publishOrHide (hides : Bool) : PublicationOrder :=
  ⟨repeated 7, fun _ => if hides then 30 else 20, if hides then .hide else .publish⟩

/-- The moderator publishes, and then the owner hides. -/
def hiddenInTurn : List (PublicationStep Bool) × (Bool → Publishing) × Table PracticeRow :=
  play publicationStore [false, false, true, true] (fun i => (publishOrHide i).program)
    practiceInReview

/-- The moderator has found the practice; the owner hides it; the moderator saves. -/
def hiddenAndPublished : List (PublicationStep Bool) × (Bool → Publishing) × Table PracticeRow :=
  play publicationStore [false, true, true, false] (fun i => (publishOrHide i).program)
    practiceInReview

/-- In turn the decisions are timely, the run is serial, and the practice stays hidden. -/
theorem hidden_after_publishing :
    (∃ order, IsSerial publicationStore (fun i => (publishOrHide i).program) hiddenInTurn.2.1
      practiceInReview hiddenInTurn.2.2 order) ∧
      isDiscoverableIn (repeated 7) hiddenInTurn.2.2 = false := by
  have hrun : Runs publicationStore (fun i => (publishOrHide i).program) practiceInReview
      hiddenInTurn.1 hiddenInTurn.2.1 hiddenInTurn.2.2 := play_runs _ _ _ _
  refine ⟨(publication_is_serial hrun ?_).1, by decide +kernel⟩
  rintro t (- | ⟨-, - | ⟨-, - | ⟨-, - | ⟨-, ⟨⟩⟩⟩⟩⟩) changed hsave
  · cases hsave
  · obtain rfl := PublicationCall.save.inj hsave
    exact ⟨_, rfl, rfl⟩
  · cases hsave
  · obtain rfl := PublicationCall.save.inj hsave
    exact ⟨_, rfl, rfl⟩

/-- **Published after hiding.** The owner's hiding is completed, nobody asks any more, and the
practice is in the search; no order of the two calls ends like this. -/
theorem published_after_hiding :
    Runs publicationStore (fun i => (publishOrHide i).program) practiceInReview
        hiddenAndPublished.1 hiddenAndPublished.2.1 hiddenAndPublished.2.2 ∧
      (∃ early u late, hiddenAndPublished.1 = early ++ u :: late ∧
        Completes publishOrHide .hide (repeated 7) u ∧
        ∀ v ∈ late, ¬ Completes publishOrHide .ask (repeated 7) v) ∧
      isDiscoverableIn (repeated 7) hiddenAndPublished.2.2 = true ∧
      ¬ ∃ order, IsSerial publicationStore (fun i => (publishOrHide i).program)
        hiddenAndPublished.2.1 practiceInReview hiddenAndPublished.2.2 order := by
  refine ⟨play_runs _ _ _ _, ?_, by decide +kernel, ?_⟩
  · refine ⟨hiddenAndPublished.1.take 2, _, hiddenAndPublished.1.drop 3, rfl, ?_, ?_⟩
    · exact ⟨rfl, rfl, _, rfl⟩
    · rintro v - ⟨hask, -⟩
      cases hthread : v.thread <;> rw [hthread] at hask <;> cases hask
  · rintro ⟨order, honce, hover, hends, -⟩
    have hall : ∀ a b : Bool, a ≠ b → isDiscoverableIn (repeated 7)
        (turns (publicationStore.whole fun i => (publishOrHide i).program) [a, b]
          practiceInReview).2 = false := by
      decide +kernel
    have hperm : order.Perm [false, true] := by
      refine (List.perm_ext_iff_of_nodup honce (by decide)).2 fun i => ?_
      refine (hover i).trans ?_
      revert i
      decide +kernel
    obtain ⟨a, b, rfl⟩ := List.length_eq_two.1 hperm.length_eq
    have hhidden := hall a b (by simpa using honce)
    have hshown : isDiscoverableIn (repeated 7) hiddenAndPublished.2.2 = true := by
      decide +kernel
    rw [hends, hshown] at hhidden
    cases hhidden

end Pdr.Identity
