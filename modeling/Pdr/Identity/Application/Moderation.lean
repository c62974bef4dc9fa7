import Pdr.Identity.Application.ConfirmedMail
import Pdr.Identity.Application.Footprint
import Pdr.Identity.Application.ManagePublication
import Pdr.StoreProgram.TwoRuns

/-!
# A practice is found only after moderation

The owner of a practice asks, hides and asks again; a moderator publishes or refuses. Taken one
after another these calls keep the practice in order: what its fields say is what the latest of the
calls that succeeded has left, and a moderator decides only on what was asked for just before. Each
call that succeeds saves and announces one state, and a refused one does nothing.

That a practice has a moment of decision does not mean that anybody decided: hiding sets it too.

## Main definitions

* `Pdr.Identity.changeAndTell`: one of the four calls, with the event it publishes.
* `Pdr.Identity.transitions`: the calls about a practice that succeeded, in their order.
* `Pdr.Identity.Practice.IsLeftBy`: the fields of a practice after these calls.

## Main results

* `Pdr.Identity.changeAndTell_cases`: what one call does.
* `Pdr.Identity.Practice.IsLeftBy.change`: what a change makes of the fields.
* `Pdr.Identity.practice_is_moderated`: every run after a practice was opened.
* `Pdr.Identity.hidden_without_a_decision`: a moment of decision, and nobody decided.
-/

namespace Pdr.Identity

open StoreProgram Program

/-! ### The calls with their events -/

/-- A call of the practices, or of the bus. -/
inductive PublishingCall where
  | store (asked : PublicationCall)
  | publish (event : PracticeVisibilityChanged)

/-- What each call answers. -/
@[reducible] def PublishingCall.Answer : PublishingCall → Type
  | .store asked => asked.Answer
  | .publish _ => Unit

/-- The practices, and the events that went out. -/
structure PublicationBoard where
  practices : Table PracticeRow
  published : List PracticeVisibilityChanged

/-- What the calls do to the practices and to the events. -/
def publicationBoard : Machine PublishingCall.Answer Fault PublicationBoard where
  exec call board := match call with
    | .store asked =>
      let done := publicationStore.exec asked board.practices
      (done.1, { board with practices := done.2 })
    | .publish event => (.ok (), { board with published := board.published ++ [event] })

/-- Make a call of the practices, with the bus at hand. -/
abbrev askBoard (asked : PublicationCall) : Program PublishingCall.Answer Fault asked.Answer :=
  perform (PublishingCall.store asked)

/-- What the four calls have in common: find, change, save, announce. -/
def changeAndTell (tenant : TenantId) (change : Practice → Result Practice) (announcedAt : Int) :
    Program PublishingCall.Answer Fault Practice := do
  match ← askBoard (.find tenant) with
  | none => raise (.refused practiceUnknown)
  | some found =>
    let changed ← ofExcept (change found).orRefuse
    askBoard (.save changed)
    perform (PublishingCall.publish (announce changed announcedAt))
    return changed

/-- The call as a program that announces what it has saved. -/
def PublicationOrder.telling (order : PublicationOrder) :
    Program PublishingCall.Answer Fault Practice :=
  changeAndTell order.tenant order.change (order.clock 1)

theorem run_askBoard_find (tenant : TenantId) (board : PublicationBoard) :
    (askBoard (.find tenant)).run publicationBoard board =
      (.ok (practiceOf tenant board.practices), board) := rfl

theorem exec_board_save {changed : Practice} {board : PublicationBoard}
    {outcome : Except Fault Unit} {practices : Table PracticeRow}
    (h : publicationStore.exec (.save changed) board.practices = (outcome, practices)) :
    publicationBoard.exec (.store (.save changed)) board =
      (outcome, ⟨practices, board.published⟩) := by
  simp only [publicationBoard, h]

/-! ### What one call does -/

section Call

variable {tenant : TenantId} {found changed : Practice} {order : PublicationOrder}

/-- A change leaves the tenant and the opening, and a reason only where it refuses. -/
theorem PublicationOrder.change_spec (h : order.change found = .ok changed) :
    changed.tenant = found.tenant ∧ changed.openedAt = found.openedAt ∧
      (changed.refusal.isNone || decide (changed.visibility = .refused)) = true := by
  obtain ⟨tenant, clock, intent⟩ := order
  cases intent with
  | ask =>
    simp only [change, Practice.askedToPublish] at h
    split at h
    · cases h
    · cases h
    · cases h
      simp
  | hide =>
    cases h
    simp [Practice.hidden]
  | publish =>
    simp only [change, Practice.published] at h
    split at h
    · cases h
    · cases h
      simp
  | refuse reason =>
    simp only [change, Practice.refusedBecause] at h
    split at h
    · cases h
    · cases h
      simp

/-- A save whose reason is in order is never in the way of the schema. -/
theorem exec_save_ok (practice : Practice) (table : Table PracticeRow)
    (hreason : (practice.refusal.isNone || decide (practice.visibility = .refused)) = true) :
    ∃ table', publicationStore.exec (.save practice) table = (.ok (), table') := by
  obtain ⟨table', htable⟩ : ∃ table', table.updateWhere (·.practice.tenant = practice.tenant)
      (PublicationCall.withVisibilityOf practice) = some table' := by
    refine Table.exists_updateWhere (fun row hrow _ => ?_) fun a b hclash => ?_
    · have hchecked := table.checked row hrow
      simp only [Schema.check, Bool.and_eq_true] at hchecked
      simp only [Schema.check, PublicationCall.withVisibilityOf, hchecked.1.1, hchecked.1.2,
        Bool.and_self, Bool.true_and]
      exact hreason
    · simp only [Schema.clash, decide_eq_true_eq] at hclash ⊢
      split at hclash <;> split at hclash <;> exact hclash
  refine ⟨table', ?_⟩
  simp only [publicationStore, PublicationCall.exec, htable]
  rfl

variable {change : Practice → Result Practice} {announcedAt : Int} {board : PublicationBoard}
  {practices : Table PracticeRow}

theorem changeAndTell_of_none (hfound : practiceOf tenant board.practices = none) :
    (changeAndTell tenant change announcedAt).run publicationBoard board =
        (.error (.refused practiceUnknown), board) ∧
      (changeAndTell tenant change announcedAt).calls publicationBoard board =
        [.store (.find tenant)] := by
  rw [changeAndTell, run_bind, calls_bind, run_askBoard_find, hfound]
  exact ⟨rfl, rfl⟩

theorem changeAndTell_of_error {error : Error}
    (hfound : practiceOf tenant board.practices = some found)
    (hchange : change found = .error error) :
    (changeAndTell tenant change announcedAt).run publicationBoard board =
        (.error (.refused error), board) ∧
      (changeAndTell tenant change announcedAt).calls publicationBoard board =
        [.store (.find tenant)] := by
  rw [changeAndTell, run_bind, calls_bind, run_askBoard_find, hfound]
  simp [hchange]

theorem changeAndTell_of_ok (hfound : practiceOf tenant board.practices = some found)
    (hchange : change found = .ok changed)
    (hsave : publicationStore.exec (.save changed) board.practices = (.ok (), practices)) :
    (changeAndTell tenant change announcedAt).run publicationBoard board =
        (.ok changed, ⟨practices, board.published ++ [announce changed announcedAt]⟩) ∧
      (changeAndTell tenant change announcedAt).calls publicationBoard board =
        [.store (.find tenant), .store (.save changed),
          .publish (announce changed announcedAt)] := by
  rw [changeAndTell, run_bind, calls_bind, run_askBoard_find, hfound]
  simp only [hchange, Result.orRefuse_ok, ofExcept_ok, done_bind]
  rw [run_bind, calls_bind, run_perform, exec_board_save hsave]
  refine ⟨rfl, ?_⟩
  simp only [calls_bind, calls_perform]
  rfl

/-- The states a run saves. -/
def savedBy (made : List PublishingCall) : List Practice :=
  made.filterMap fun
    | .store (.save practice) => some practice
    | _ => none

/-- The events a run publishes. -/
def toldBy (made : List PublishingCall) : List PracticeVisibilityChanged :=
  made.filterMap fun
    | .publish event => some event
    | _ => none

/-- **What one call does.** Either it is refused and does nothing; or it changes the practice that
is stored, saves that and announces it, and the practices of others stay. -/
theorem changeAndTell_cases (order : PublicationOrder) (board : PublicationBoard) :
    (∃ error, order.telling.run publicationBoard board = (.error (.refused error), board) ∧
      savedBy (order.telling.calls publicationBoard board) = [] ∧
      toldBy (order.telling.calls publicationBoard board) = []) ∨
    ∃ found changed practices, practiceOf order.tenant board.practices = some found ∧
      order.change found = .ok changed ∧
      order.telling.run publicationBoard board =
        (.ok changed, ⟨practices, board.published ++ [announce changed (order.clock 1)]⟩) ∧
      (∀ tenant, practiceOf tenant practices =
        if tenant = order.tenant then some changed else practiceOf tenant board.practices) ∧
      savedBy (order.telling.calls publicationBoard board) = [changed] ∧
      toldBy (order.telling.calls publicationBoard board) =
        [announce changed (order.clock 1)] := by
  rw [PublicationOrder.telling]
  cases hfound : practiceOf order.tenant board.practices with
  | none =>
    refine Or.inl ⟨practiceUnknown, (changeAndTell_of_none hfound).1, ?_, ?_⟩
    · rw [(changeAndTell_of_none hfound).2]
      rfl
    · rw [(changeAndTell_of_none hfound).2]
      rfl
  | some found =>
    cases hchange : order.change found with
    | error error =>
      refine Or.inl ⟨error, (changeAndTell_of_error hfound hchange).1, ?_, ?_⟩
      · rw [(changeAndTell_of_error hfound hchange).2]
        rfl
      · rw [(changeAndTell_of_error hfound hchange).2]
        rfl
    | ok changed =>
      obtain ⟨htenant, hopened, hreason⟩ := PublicationOrder.change_spec hchange
      obtain ⟨practices, hsave⟩ := exec_save_ok changed board.practices hreason
      refine Or.inr ⟨found, changed, practices, rfl, hchange,
        (changeAndTell_of_ok hfound hchange hsave).1, fun tenant => ?_, ?_, ?_⟩
      rotate_left
      · rw [(changeAndTell_of_ok hfound hchange hsave).2]
        rfl
      · rw [(changeAndTell_of_ok hfound hchange hsave).2]
        rfl
      have hown := tenant_of_practiceOf hfound
      rw [practiceOf_of_save hsave]
      split
      · rename_i hsame
        rw [hsame, hfound, Option.map_some, if_pos htenant.symm, ← htenant, ← hopened]
      · rename_i hother
        cases hstored : practiceOf tenant board.practices with
        | none => rfl
        | some stored =>
          have hforeign := tenant_of_practiceOf hstored
          rw [Option.map_some, if_neg]
          rw [htenant, hown, hforeign]
          exact hother

end Call

/-! ### What the calls that succeeded have left -/

/-- A moderator decides; the owner asks and hides. -/
def PublicationIntent.isDecision : PublicationIntent → Bool
  | .publish | .refuse _ => true
  | .ask | .hide => false

/-- What followed the latest request, or the opening if nothing was asked. -/
def sinceRequest (done : List PublicationIntent) : List PublicationIntent :=
  (done.reverse.takeWhile (· ≠ .ask)).reverse

/-- The fields of a practice after these calls, as the latest of them has left them. -/
def Practice.IsLeftBy (done : List PublicationIntent) (practice : Practice) : Prop :=
  match done.getLast? with
  | none => practice.visibility = .hidden ∧ practice.decidedAt = none ∧ practice.refusal = none
  | some .ask =>
    practice.visibility = .pending ∧ practice.decidedAt = none ∧ practice.refusal = none
  | some .hide =>
    practice.visibility = .hidden ∧ practice.decidedAt.isSome ∧ practice.refusal = none
  | some .publish =>
    practice.visibility = .published ∧ practice.decidedAt.isSome ∧ practice.refusal = none
  | some (.refuse reason) =>
    practice.visibility = .refused ∧ practice.decidedAt.isSome ∧ practice.refusal = some reason

/-- Each decision comes right after a request. -/
def AreAskedFor (done : List PublicationIntent) : Prop :=
  ∀ early intent late, done = early ++ intent :: late → intent.isDecision = true →
    early.getLast? = some .ask

section Fields

variable {done : List PublicationIntent} {found changed practice : Practice}
  {order : PublicationOrder}

theorem Practice.IsLeftBy.getLast?_eq_ask (h : practice.IsLeftBy done)
    (hpending : practice.visibility = .pending) : done.getLast? = some .ask := by
  unfold IsLeftBy at h
  split at h <;> simp_all

/-- **What a change makes of the fields.** It leaves them as its own call does, and a decision
comes right after a request. -/
theorem Practice.IsLeftBy.change (h : found.IsLeftBy done)
    (hchange : order.change found = .ok changed) :
    changed.IsLeftBy (done ++ [order.intent]) ∧
      (order.intent.isDecision = true → done.getLast? = some .ask) := by
  obtain ⟨tenant, clock, intent⟩ := order
  rw [IsLeftBy, List.getLast?_concat]
  cases intent with
  | ask =>
    simp only [PublicationOrder.change, askedToPublish] at hchange
    split at hchange
    · cases hchange
    · cases hchange
    · cases hchange
      exact ⟨⟨rfl, rfl, rfl⟩, by simp [PublicationIntent.isDecision]⟩
  | hide =>
    cases hchange
    exact ⟨⟨rfl, rfl, rfl⟩, by simp [PublicationIntent.isDecision]⟩
  | publish =>
    simp only [PublicationOrder.change, published] at hchange
    split at hchange
    · cases hchange
    · rename_i hpending
      cases hchange
      exact ⟨⟨rfl, rfl, rfl⟩, fun _ => h.getLast?_eq_ask (not_not.1 hpending)⟩
  | refuse reason =>
    simp only [PublicationOrder.change, refusedBecause] at hchange
    split at hchange
    · cases hchange
    · rename_i hpending
      cases hchange
      exact ⟨⟨rfl, rfl, rfl⟩, fun _ => h.getLast?_eq_ask (not_not.1 hpending)⟩

theorem AreAskedFor.concat (h : AreAskedFor done) {intent : PublicationIntent}
    (hasked : intent.isDecision = true → done.getLast? = some .ask) :
    AreAskedFor (done ++ [intent]) := by
  intro early other late hsplit hdecision
  rcases late.eq_nil_or_concat with rfl | ⟨late, last, rfl⟩
  · obtain ⟨rfl, hsame⟩ := List.append_inj' hsplit rfl
    obtain rfl := List.singleton_inj.1 hsame
    exact hasked hdecision
  · rw [List.concat_eq_append, ← List.cons_append, ← List.append_assoc] at hsplit
    exact h early other late (List.append_inj' hsplit rfl).1 hdecision

theorem sinceRequest_eq_nil_iff :
    sinceRequest done = [] ↔ done.getLast? = none ∨ done.getLast? = some .ask := by
  rcases done.eq_nil_or_concat with rfl | ⟨early, last, rfl⟩
  · simp [sinceRequest]
  · rw [List.concat_eq_append, List.getLast?_concat, sinceRequest, List.reverse_concat,
      List.takeWhile_cons]
    cases last <;> simp

theorem Practice.IsLeftBy.fields (h : practice.IsLeftBy done) :
    (practice.isDiscoverable = true ↔ done.getLast? = some .publish) ∧
      (practice.refusal.isSome = true ↔ practice.visibility = .refused) ∧
      (practice.decidedAt = none ↔ sinceRequest done = []) := by
  rw [sinceRequest_eq_nil_iff, isDiscoverable]
  unfold IsLeftBy at h
  split at h <;> simp_all [Option.isSome_iff_ne_none]

end Fields

/-! ### Runs -/

/-- A call that was made alone, with its outcome and the boards around it. -/
abbrev PublicationTurn : Type := Turn (fun _ : PublicationOrder => Practice) Fault PublicationBoard

/-- The boards before and after each call. -/
abbrev publicationCalls : Machine (fun _ : PublicationOrder => Practice) Fault PublicationBoard :=
  publicationBoard.whole PublicationOrder.telling

/-- The calls about a practice that succeeded, in their order. -/
def transitions (tenant : TenantId) (steps : List PublicationTurn) : List PublicationIntent :=
  steps.filterMap fun t =>
    if t.entry.op.tenant = tenant && t.entry.answer.isOk then some t.entry.op.intent else none

/-- A call that succeeds saves the state it returns and publishes one event with its name and
whether it can be found; one that is refused saves and publishes nothing. -/
def SavesAndTells (t : PublicationTurn) : Prop :=
  let made := t.entry.op.telling.calls publicationBoard t.before
  match t.entry.answer with
  | .ok practice =>
    practiceOf t.entry.op.tenant t.after.practices = some practice ∧ savedBy made = [practice] ∧
      ∃ event, toldBy made = [event] ∧ t.after.published = t.before.published ++ [event] ∧
        event.tenant = t.entry.op.tenant ∧ event.visibility = practice.visibility.name ∧
        event.discoverable = practice.isDiscoverable
  | .error fault => (∃ error, fault = .refused error) ∧ t.after = t.before ∧ savedBy made = [] ∧
      toldBy made = []

section Runs

variable {ports : AuthPorts} {drawn : Drawn} {request : OpenPracticeRequest} {db db' : Database}
  {opened : OpenedPractice} {tenant : TenantId} {board board' : PublicationBoard}
  {steps : List PublicationTurn}

/-- Each call does so, in every state. -/
theorem savesAndTells (t : PublicationTurn)
    (hexec : publicationCalls.exec t.entry.op t.before = (t.entry.answer, t.after)) :
    SavesAndTells t := by
  obtain ⟨⟨⟩, ⟨order, answer⟩, before, after⟩ := t
  dsimp only at hexec
  have hrun : order.telling.run publicationBoard before = (answer, after) := hexec
  rcases changeAndTell_cases order before with
    ⟨error, hrefused, hsaved, htold⟩ | ⟨found, changed, practices, hfound, hchange, hdone, hstored,
      hsaved, htold⟩
  · obtain ⟨rfl, rfl⟩ := Prod.mk.inj (hrefused.symm.trans hrun)
    exact ⟨⟨error, rfl⟩, rfl, hsaved, htold⟩
  · obtain ⟨rfl, rfl⟩ := Prod.mk.inj (hdone.symm.trans hrun)
    refine ⟨by rw [hstored, if_pos rfl], hsaved, _, htold, rfl, ?_, rfl, rfl⟩
    exact (PublicationOrder.change_spec hchange).1.trans (tenant_of_practiceOf hfound)

theorem transitions_concat_of_ok {t : PublicationTurn} (seen : List PublicationTurn)
    {practice : Practice} (hown : t.entry.op.tenant = tenant)
    (hok : t.entry.answer = .ok practice) :
    transitions tenant (seen ++ [t]) = transitions tenant seen ++ [t.entry.op.intent] := by
  simp [transitions, hown, hok, Except.isOk, Except.toBool]

theorem transitions_concat_of_error {t : PublicationTurn} (seen : List PublicationTurn)
    {fault : Fault} (herror : t.entry.answer = .error fault) :
    transitions tenant (seen ++ [t]) = transitions tenant seen := by
  simp [transitions, herror, Except.isOk, Except.toBool]

theorem transitions_concat_of_other {t : PublicationTurn} (seen : List PublicationTurn)
    (hother : t.entry.op.tenant ≠ tenant) :
    transitions tenant (seen ++ [t]) = transitions tenant seen := by
  simp [transitions, hother]

/-- The practice is as the calls about it have left it, and each decision was asked for. -/
def IsModerated (tenant : TenantId) (steps : List PublicationTurn) (board : PublicationBoard) :
    Prop :=
  AreAskedFor (transitions tenant steps) ∧ ∃ practice,
    practiceOf tenant board.practices = some practice ∧
      practice.IsLeftBy (transitions tenant steps)

/-- One call, carried on from the practice that the calls before have left. -/
theorem isModerated_step (seen : List PublicationTurn) (t : PublicationTurn)
    (hexec : publicationCalls.exec t.entry.op t.before = (t.entry.answer, t.after))
    (hbefore : IsModerated tenant seen t.before) : IsModerated tenant (seen ++ [t]) t.after := by
  obtain ⟨hasked, practice, hpractice, hleft⟩ := hbefore
  have hrun : t.entry.op.telling.run publicationBoard t.before = (t.entry.answer, t.after) := hexec
  rcases changeAndTell_cases t.entry.op t.before with
    ⟨error, hrefused, -, -⟩ | ⟨found, changed, practices, hfound, hchange, hdone, hstored, -, -⟩
  · obtain ⟨hanswer, hafter⟩ := Prod.mk.inj (hrun.symm.trans hrefused)
    rw [IsModerated, transitions_concat_of_error seen hanswer, hafter]
    exact ⟨hasked, practice, hpractice, hleft⟩
  · obtain ⟨hanswer, hafter⟩ := Prod.mk.inj (hrun.symm.trans hdone)
    rw [IsModerated, hafter]
    by_cases hown : t.entry.op.tenant = tenant
    · rw [hown] at hfound
      obtain rfl := Option.some.inj (hfound.symm.trans hpractice)
      obtain ⟨hleft', hrequest⟩ := hleft.change hchange
      rw [transitions_concat_of_ok seen hown hanswer]
      exact ⟨hasked.concat hrequest, changed, by rw [hstored, if_pos hown.symm], hleft'⟩
    · rw [transitions_concat_of_other seen hown]
      refine ⟨hasked, practice, ?_, hleft⟩
      rw [hstored, if_neg (Ne.symm hown), hpractice]

/-- An opening that is accepted leaves the practice in the table. -/
theorem practiceOf_of_open {home : Tenant} {zone : TimeZone} {practice : Practice}
    (hown : practice.tenant = home.id)
    (h : database.exec (.practices (.open_ home zone practice)) db = (.ok (.ok ()), db')) :
    practiceOf home.id db'.practices = some practice := by
  rw [exec_practices] at h
  simp only [PracticeCall.exec] at h
  split at h
  · cases congrArg Prod.fst h
  · cases congrArg Prod.fst h
  · rename_i table hinsert
    obtain ⟨-, rfl⟩ := Prod.mk.inj h
    rcases Table.insertUnless_cases hinsert with ⟨⟨⟩, -⟩ | ⟨-, habsent, hinserted⟩
    have hnone : db.practices.find? (fun row => row.practice.tenant = home.id) = none :=
      List.find?_eq_none.2 fun row hrow => Bool.eq_false_iff.1 (habsent row hrow)
    dsimp only
    rw [practiceOf, Table.find?_insert hinserted, hnone, Option.none_or]
    simp [hown]

/-- A practice that was opened is there, hidden. -/
theorem practiceOf_openPractice
    (h : (openPractice ports drawn request).run database db = (.ok opened, db')) :
    practiceOf opened.tenant db'.practices =
      some (Practice.opened opened.tenant (drawn.clock 0)) := by
  have hyields : (openPractice ports drawn request).Yields database (fun outcome after =>
      ∀ opened, outcome = .ok opened → practiceOf opened.tenant after.practices =
        some (Practice.opened opened.tenant (drawn.clock 0))) db := by
    refine yields_ofExcept_bind (fun _ _ => nofun) fun rules _ => ?_
    refine yields_ofExcept_bind (fun _ _ => nofun) fun lifetimes _ => ?_
    refine yields_ofExcept_bind (fun _ _ => nofun) fun chosen _ => ?_
    refine yields_ofExcept_bind (fun _ _ => nofun) fun hash _ => ?_
    refine Yields.bind (fun _ _ _ => nofun) fun account db₁ _ => ?_
    refine yields_ofExcept_bind (fun _ _ => nofun) fun home _ => ?_
    refine yields_perform_bind (fun _ _ _ => nofun) fun answer db₂ hopen => ?_
    refine yields_ofExcept_bind (fun _ _ => nofun) fun done hdone => ?_
    rw [Result.orRefuse_eq_ok] at hdone
    subst hdone
    have hthere := practiceOf_of_open rfl hopen
    refine yields_perform_bind (fun _ _ _ => nofun) fun enrolled db₃ henrol => ?_
    refine yields_ofExcept_bind (fun _ _ => nofun) fun _ _ => ?_
    refine yields_perform_bind (fun _ _ _ => nofun) fun _ db₄ hsave => ?_
    refine Yields.bind (fun _ _ _ => nofun) fun session db₅ hsession => ?_
    have henrolled : db₃.practices = db₂.practices :=
      (congrArg (fun done => done.2.practices) henrol).symm
    have hsaved : db₄.practices = db₃.practices :=
      (congrArg (fun done => done.2.practices) hsave).symm
    have hkept : db₅.practices = db₄.practices :=
      (practices_belong.yields (footprint_openSession _ _ _) (by decide) db₄).of_run hsession
    rintro opened hopened
    obtain rfl := Except.ok.inj hopened
    change practiceOf home.id db₅.practices = _
    rw [hkept, hsaved, henrolled]
    exact hthere
  exact hyields.of_run h opened rfl

/-- **A practice is found only after moderation.** After a practice was opened, in every state that
calls of owners and moderators lead to, one after another: it is found exactly if the latest call
that succeeded has published it; there is a reason of refusal exactly if it is refused; there is no
moment of decision exactly if neither a decision nor hiding followed the latest request, or the
opening if nothing was asked. Each decision comes right after a request, each call that succeeds
saves and announces one state, and a refused one saves and announces nothing. -/
theorem practice_is_moderated
    (hopened : (openPractice ports drawn request).run database db = (.ok opened, db'))
    (hboard : board.practices = db'.practices) (hrun : Linked publicationCalls board steps board') :
    let done := transitions opened.tenant steps
    (∃ practice, practiceOf opened.tenant board'.practices = some practice ∧
      (practice.isDiscoverable = true ↔ done.getLast? = some .publish) ∧
      (practice.refusal.isSome = true ↔ practice.visibility = .refused) ∧
      (practice.decidedAt = none ↔ sinceRequest done = [])) ∧
    (∀ early intent late, done = early ++ intent :: late → intent.isDecision = true →
      early.getLast? = some .ask) ∧
    ∀ t ∈ steps, SavesAndTells t := by
  intro done
  have hstart : IsModerated opened.tenant [] board := by
    refine ⟨fun early intent late hsplit => ?_, Practice.opened opened.tenant (drawn.clock 0), ?_,
      rfl, rfl, rfl⟩
    · simp [transitions] at hsplit
    · rw [hboard]
      exact practiceOf_openPractice hopened
  obtain ⟨hasked, practice, hpractice, hleft⟩ : IsModerated opened.tenant steps board' :=
    hrun.history hstart fun seen t _ => isModerated_step seen t
  exact ⟨⟨practice, hpractice, hleft.fields⟩, hasked,
    fun t ht => savesAndTells t (hrun.exec_eq ht)⟩

end Runs

/-! ### A practice of its own -/

/-- What is asked for the practice that `openPractice` opens here. -/
def practiceOrder (now : Int) (intent : PublicationIntent) : PublicationOrder :=
  ⟨repeated 7, fun _ => now, intent⟩

/-- A practice that was just opened, with nothing announced. -/
def justOpened : PublicationBoard :=
  ⟨((openPractice standIn (drawnAt 10 7) (practiceOpened ownerMail)).run database {}).2.practices,
    []⟩

theorem openPractice_justOpened : ∃ opened db',
    (openPractice standIn (drawnAt 10 7) (practiceOpened ownerMail)).run database {} =
        (.ok opened, db') ∧
      justOpened.practices = db'.practices ∧ opened.tenant = repeated 7 :=
  ⟨_, _, rfl, rfl, rfl⟩

/-- It is published when that was asked for, and hidden again. -/
def publishedAndHidden : List PublicationTurn × PublicationBoard :=
  turns publicationCalls [practiceOrder 20 .publish, practiceOrder 30 .ask,
    practiceOrder 40 .publish, practiceOrder 50 .hide] justOpened

/-- A decision that nobody asked for is refused, and a practice that is hidden is not found. -/
theorem hidden_practice_is_not_found :
    transitions (repeated 7) publishedAndHidden.1 = [.ask, .publish, .hide] ∧
      ∃ practice, practiceOf (repeated 7) publishedAndHidden.2.practices = some practice ∧
        practice.isDiscoverable = false ∧ practice.decidedAt ≠ none := by
  obtain ⟨opened, db', hopened, hboard, htenant⟩ := openPractice_justOpened
  have hdone : transitions (repeated 7) publishedAndHidden.1 = [.ask, .publish, .hide] := by
    decide +kernel
  obtain ⟨⟨practice, hpractice, hfound, -, hdecided⟩, -, -⟩ :=
    practice_is_moderated hopened hboard (turns_linked publicationCalls
      [practiceOrder 20 .publish, practiceOrder 30 .ask, practiceOrder 40 .publish,
        practiceOrder 50 .hide] justOpened)
  rw [htenant] at hpractice hfound hdecided
  refine ⟨hdone, practice, hpractice, Bool.eq_false_iff.2 fun hyes => ?_, fun hnone => ?_⟩
  · exact absurd ((congrArg List.getLast? hdone).symm.trans (hfound.1 hyes)) (by decide)
  · exact absurd ((congrArg sinceRequest hdone).symm.trans (hdecided.1 hnone)) (by decide)

/-- Asked for and hidden: nobody decided since, and there is a moment of decision. -/
theorem hidden_without_a_decision :
    let run := turns publicationCalls [practiceOrder 20 .ask, practiceOrder 30 .hide] justOpened
    ∃ practice, practiceOf (repeated 7) run.2.practices = some practice ∧
      ¬ (practice.decidedAt = none ↔
        (sinceRequest (transitions (repeated 7) run.1)).filter (·.isDecision) = []) := by
  refine ⟨⟨repeated 7, .hidden, 10, some 20, some 30, none⟩, ?_, ?_⟩
  · decide +kernel
  · rw [show (sinceRequest (transitions (repeated 7) (turns publicationCalls
      [practiceOrder 20 .ask, practiceOrder 30 .hide] justOpened).1)).filter (·.isDecision) = [] by
        decide +kernel]
    exact fun h => Option.some_ne_none 30 (h.2 rfl)

end Pdr.Identity
