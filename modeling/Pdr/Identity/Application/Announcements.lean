import Pdr.Events.Registry

/-!
# Scenarios that tell others

What happens to a guardianship, and what a student comes of age to, is news to others. The
scenarios ask their ports as all scenarios do, and publish events on the bus; who listens is not
their business.

## Main definitions

* `Pdr.Identity.NewsCall`, `Pdr.Identity.News`: calls of the ports and of the bus.
* `Pdr.Identity.revokeAndTell`: `RevokeGuardianship`, with the event it publishes.
* `Pdr.Identity.notifyGuardianOfAct`
* `Pdr.Identity.announceComingOfAge`
* `Pdr.Identity.announceGuardianHandover`
* `Pdr.Identity.board`: ports that answer, and the events that go out.

## Main results

* `Pdr.Identity.earliestClosing_isSome`: where something is being decided there is a term for it.
-/

namespace Pdr.Identity

open StoreProgram Program Events

/-! ### The calls of a scenario that tells others -/

/-- A call of one of the ports, or of the bus. -/
inductive NewsCall where
  | store (asked : Call)
  | publish (event : DomainEvent)

/-- What each call answers. -/
@[reducible] def NewsCall.Answer : NewsCall → Type
  | store asked => asked.Answer
  | publish _ => Unit

/-- A scenario that may publish events. -/
abbrev News (α : Type) : Type := Program NewsCall.Answer Fault α

/-- Make a call of a port. -/
abbrev consult (asked : Call) : News asked.Answer := perform (NewsCall.store asked)

/-- Publish an event. -/
abbrev tell (event : DomainEvent) : News Unit := perform (NewsCall.publish event)

/-- Publish events one after another. -/
def tellAll : List DomainEvent → News Unit
  | [] => pure ()
  | event :: events => do
    tell event
    tellAll events

/-- A scenario that publishes nothing itself. -/
def onStore {α : Type} : Scenario α → News α
  | .done value => .done value
  | .raise error => .raise error
  | .call op rest => .call (.store op) fun answer => onStore (rest answer)

/-! ### What happens to a guardianship -/

/-- `RevokeGuardianship::Execute`: the event is published after the row is saved. -/
def revokeAndTell (drawn : Drawn) (request : RevokeGuardianshipRequest) : News Unit := do
  let event ← onStore (revokeGuardianship drawn request)
  tell ⟨.guardianshipRevoked, event⟩

/-- What a ward does alone, as the domain has it; `boundary` marks the end of the source's list. -/
inductive IndependentAct where
  | lessonRescheduled
  | lessonCancelled
  | reviewWritten
  | boundary
deriving DecidableEq, Repr

/-- `Published`: an act of the domain as the code of the event. -/
def IndependentAct.published : IndependentAct → WardAct
  | lessonRescheduled => .lessonRescheduled
  | lessonCancelled => .lessonCancelled
  | reviewWritten | boundary => .reviewWritten

/-- Which act of a student his guardians hear of. -/
structure NotifyGuardianOfActRequest where
  tenant : TenantId
  student : PersonId
  act : IndependentAct

/-- The event of an act for one guardian. -/
def actEvent (now : Int) (request : NotifyGuardianOfActRequest) (guardian : PersonId) :
    DomainEvent :=
  ⟨.wardActedAlone, ⟨request.tenant, now, guardian, request.student, request.act.published⟩⟩

/-- `NotifyGuardianOfAct::Execute`. It returns how many guardians were told. -/
def notifyGuardianOfAct (drawn : Drawn) (request : NotifyGuardianOfActRequest) : News Nat := do
  let now := drawn.clock 0
  let guardians ← consult (.guardianships (.guardiansOf request.tenant request.student))
  tellAll (guardians.map (actEvent now request))
  return guardians.length

/-! ### What a student comes of age to -/

/-- `Name`, of a threshold. -/
def AgeThreshold.name : AgeThreshold → String
  | slotsAndReviews => "slots_and_reviews"
  | ownPayments => "own_payments"
  | majority => "majority"
  | boundary => "boundary"

/-- `kEveryAgeThreshold`. -/
def everyAgeThreshold : List AgeThreshold := [.slotsAndReviews, .ownPayments, .majority]

/-- `JustCrossed`: the last threshold of the list that was not reached and now is. -/
def justCrossed (before now : AgeStatus) (thresholds : AgeThresholds) : Option AgeThreshold :=
  everyAgeThreshold.foldl (fun crossed threshold =>
    let years := thresholds.years threshold
    if !before.reached years && now.reached years then some threshold else crossed) none

/-- The events of a threshold: one for each guardian, or one without. -/
def comingOfAgeEvents (tenant : TenantId) (student : PersonId) (now : Int)
    (crossed : AgeThreshold) (years : Int) (guardians : List PersonId) : List DomainEvent :=
  if guardians.isEmpty then
    [⟨.capabilitiesWidened, ⟨tenant, now, student, none, crossed.name, years⟩⟩]
  else guardians.map fun guardian =>
    ⟨.capabilitiesWidened, ⟨tenant, now, student, some guardian, crossed.name, years⟩⟩

/-- The threshold that was crossed within a day, with the years of age. -/
def crossedToday (rule : MaturityRule) (born : BirthDate) (now : Int) :
    Option (AgeThreshold × Int) :=
  match AgeStatus.at born now, AgeStatus.at born (now - microsOfDay) with
  | .ok today, .ok yesterday =>
    (justCrossed yesterday today rule.thresholds).map fun crossed => (crossed, today.years)
  | _, _ => none

/-- `AnnounceComingOfAge::Execute`. It returns how many events went out. -/
def announceComingOfAge (rule : Result MaturityRule) (drawn : Drawn) (tenant : TenantId)
    (student : PersonId) : News Nat := do
  let rule ← ofExcept rule.orRefuse
  match ← consult (.directory (.bornOn tenant student)) with
  | none => return 0
  | some born =>
    let now := drawn.clock 0
    match crossedToday rule born now with
    | none => return 0
    | some (crossed, years) =>
      let guardians ← consult (.guardianships (.guardiansOf tenant student))
      let events := comingOfAgeEvents tenant student now crossed years guardians
      tellAll events
      return events.length

/-! ### The term of a decision -/

/-- `kEveryGuardianScope`. -/
def everyGuardianScope : List GuardianScope :=
  [.schedule, .payments, .notesAndHomework, .recordings]

/-- The earlier of a term and the moment at which a scope that is being decided closes. -/
def orCloses (rule : MaturityRule) (born : BirthDate) (deciding : GuardianScopeSet)
    (decideBy : Option Int) (scope : GuardianScope) : Option Int :=
  if !deciding.has scope then decideBy
  else
    let closesAt := AgeStatus.turnsAt born (rule.thresholdYears scope) + rule.grace
    if decideBy.all (closesAt < ·) then some closesAt else decideBy

/-- The earliest moment at which one of the scopes that are being decided closes. -/
def earliestClosing (rule : MaturityRule) (born : BirthDate) (deciding : GuardianScopeSet) :
    Option Int :=
  everyGuardianScope.foldl (orCloses rule born deciding) none

/-- What is being decided is some scope of the list, or nothing. -/
theorem deciding_cases (consents : List GuardianConsent) (bornOn : Option BirthDate)
    (rule : MaturityRule) (now : Int) (guardianshipHolds : Bool) :
    (weighConsents consents bornOn rule now guardianshipHolds).deciding = BitSet.empty ∨
      ∃ scope ∈ everyGuardianScope,
        (weighConsents consents bornOn rule now guardianshipHolds).deciding.has scope = true := by
  rw [weighConsents]
  induction consents using List.reverseRecOn with
  | nil => exact Or.inl rfl
  | append_singleton consents consent ih =>
    rw [List.foldl_append, List.foldl_cons, List.foldl_nil, weighConsent_eq]
    by_cases hasks : consent.asks bornOn rule now guardianshipHolds = true
    · refine Or.inr ⟨consent.scope, ?_, ?_⟩
      · have hlisted := consent.listed.1
        cases hscope : consent.scope <;> simp_all [everyGuardianScope]
      · rw [if_pos hasks, BitSet.has_insert]
        simp
    · rw [if_neg hasks]
      exact ih

/-- There is a term as soon as there was one or the scope is being decided. -/
theorem isSome_orCloses {rule : MaturityRule} {born : BirthDate} {deciding : GuardianScopeSet}
    {decideBy : Option Int} {scope : GuardianScope}
    (h : decideBy.isSome = true ∨ deciding.has scope = true) :
    (orCloses rule born deciding decideBy scope).isSome = true := by
  unfold orCloses
  dsimp only
  cases decideBy with
  | none =>
    have hhas : deciding.has scope = true := h.resolve_left nofun
    simp [hhas]
  | some decideBy =>
    split_ifs <;> rfl

/-- Where something is being decided there is a term for it. -/
theorem earliestClosing_isSome {consents : List GuardianConsent} {bornOn : Option BirthDate}
    {rule : MaturityRule} {now : Int} {guardianshipHolds : Bool} (born : BirthDate)
    (h : (weighConsents consents bornOn rule now guardianshipHolds).deciding ≠ BitSet.empty) :
    (earliestClosing rule born
      (weighConsents consents bornOn rule now guardianshipHolds).deciding).isSome = true := by
  obtain ⟨scope, hscope, hhas⟩ := (deciding_cases consents bornOn rule now
    guardianshipHolds).resolve_left h
  generalize (weighConsents consents bornOn rule now guardianshipHolds).deciding = deciding at hhas
  have general : ∀ (scopes : List GuardianScope) (decideBy : Option Int),
      (decideBy.isSome = true ∨ scope ∈ scopes) →
        (scopes.foldl (orCloses rule born deciding) decideBy).isSome = true := by
    intro scopes
    induction scopes with
    | nil => simp
    | cons first scopes ih =>
      intro decideBy hknown
      refine ih _ ?_
      rcases hknown with hsome | hmem
      · exact Or.inl (isSome_orCloses (Or.inl hsome))
      · rcases List.mem_cons.1 hmem with rfl | hlater
        · exact Or.inl (isSome_orCloses (Or.inr hhas))
        · exact Or.inr hlater
  exact general everyGuardianScope none (Or.inr hscope)

/-- `AnnounceGuardianHandover::Execute`. It returns whether the event went out. The term is read
without asking whether there is one; `earliestClosing_isSome` says that there is. -/
def announceGuardianHandover (rule : Result MaturityRule) (drawn : Drawn) (tenant : TenantId)
    (guardian student : PersonId) : News Bool := do
  let rule ← ofExcept rule.orRefuse
  match ← consult (.directory (.bornOn tenant student)) with
  | none => return false
  | some born =>
    let now := drawn.clock 0
    let consents ← consult (.consents (.activeFor tenant guardian student))
    let guardianship ← consult (.guardianships (.findActive tenant guardian student))
    let access := weighConsents consents (some born) rule now guardianship.isSome
    if access.deciding = BitSet.empty then return false
    else
      let decideBy := (earliestClosing rule born access.deciding).getD 0
      tell ⟨.guardianHandoverStarted, ⟨tenant, now, guardian, student, decideBy⟩⟩
      return true

/-! ### What goes out -/

/-- Ports that answer as they do, and a board on which the events stand in their order. -/
def board (answers : (asked : Call) → Except Fault asked.Answer) :
    Machine NewsCall.Answer Fault (List DomainEvent) where
  exec asked events := match asked with
    | .store asked => (answers asked, events)
    | .publish event => (.ok (), events ++ [event])

section Board

variable {answers : (asked : Call) → Except Fault asked.Answer} {events : List DomainEvent}

@[simp] theorem exec_board_store (asked : Call) :
    (board answers).exec (.store asked) events = (answers asked, events) := rfl

@[simp] theorem exec_board_publish (event : DomainEvent) :
    (board answers).exec (.publish event) events = (.ok (), events ++ [event]) := rfl

theorem run_tellAll_board (more : List DomainEvent) :
    (tellAll more).run (board answers) events = (.ok (), events ++ more) := by
  induction more generalizing events with
  | nil => simp [tellAll]
  | cons event more ih =>
    rw [tellAll, run_bind, run_perform, exec_board_publish]
    simp only [ih, List.append_assoc, List.singleton_append]

end Board

end Pdr.Identity
