import Pdr.Identity.Application.Announcements
import Pdr.Identity.Application.GrowingUp
import Pdr.Notifications.DeliverDomainEvents
import Pdr.StoreProgram.Sequence

/-!
# Who is written to

One process has the tables, the bus and the outgoing queue. The scenarios of identity publish
what happened, and the subscriptions of notifications turn it into rows of the queue.

## Main definitions

* `Pdr.Notifications.Service`, `Pdr.Notifications.service`: the process.
* `Pdr.Notifications.ToldOnce`: a student and his guardians each get one row, and nobody else.
* `Pdr.Notifications.Announcement`, `Pdr.Notifications.announcements`: what may happen.
* `Pdr.Notifications.warned`: the persons an event warns.
* `Pdr.Notifications.EverybodyIsWrittenTo`: each of them gets a row about it.

## Main results

* `Pdr.Notifications.told_once_iff`: exactly when a student who comes of age is told once.
* `Pdr.Notifications.told_twice`: a student with two guardians is told twice.
* `Pdr.Notifications.everybody_is_written_to_iff`: exactly when everybody is written to.
* `Pdr.Notifications.nobody_is_written_to`: a term that starts, of which nobody hears.
-/

namespace Pdr.Notifications

open StoreProgram Program Events EventBus Identity

/-! ### The process -/

/-- The tables, the bus and the outgoing queue of one process. -/
structure Service where
  db : Database := {}
  bus : Bus := subscribeTo {}
  outbox : Outbox := []

/-- What the calls do: those of the ports to the tables, and an event to the queue. -/
def service : Machine NewsCall.Answer Fault Service where
  exec asked s := match asked with
    | .store asked =>
      let done := database.exec asked s.db
      (done.1, { s with db := done.2 })
    | .publish event =>
      let heard := InMemoryBus.publish event s.bus s.outbox
      (.ok (), { s with bus := heard.1, outbox := heard.2 })

namespace Service

/-- `DeliverDomainEvents`, and nobody else, listens to the bus. -/
def Listens (s : Service) : Prop := s.bus.handlers = (subscribeTo {}).handlers

/-- The process after events that went through the bus, the tables left alone. -/
def told (events : List DomainEvent) (s : Service) : Service :=
  { s with
    bus := { s.bus with published := s.bus.published ++ events }
    outbox := s.outbox ++ events.flatMap fun event => letters event.1 event.2 }

variable {s s' : Service}

@[simp] theorem told_nil (s : Service) : s.told [] = s := by
  simp [told]

theorem told_told (events more : List DomainEvent) (s : Service) :
    (s.told events).told more = s.told (events ++ more) := by
  simp [told]

theorem Listens.told (h : s.Listens) (events : List DomainEvent) : (s.told events).Listens := h

theorem Listens.appends (h : s.Listens) : s.bus.Appends letters := by
  intro kind payload outbox
  rw [show s.bus.handlers kind = (subscribeTo {}).handlers kind from congrFun h kind]
  exact appends_subscribeTo kind payload outbox

end Service

section Runs

variable {s : Service}

theorem run_onStore {α : Type} (scenario : Scenario α) (s : Service) :
    (onStore scenario).run service s =
      ((scenario.run database s.db).1, { s with db := (scenario.run database s.db).2 }) := by
  induction scenario generalizing s with
  | done value => rfl
  | raise error => rfl
  | call op rest ih => exact ih _ { s with db := (database.exec op s.db).2 }

theorem exec_publish (h : s.Listens) (event : DomainEvent) :
    service.exec (.publish event) s = (.ok (), s.told [event]) := by
  have hletters := h.appends event.1 event.2 s.outbox
  simp only [service, InMemoryBus.publish, hletters, Service.told, List.flatMap_cons,
    List.flatMap_nil, List.append_nil]

/-- **Events that are published** go through the bus and put their rows into the queue. -/
theorem run_tellAll (h : s.Listens) (events : List DomainEvent) :
    (tellAll events).run service s = (.ok (), s.told events) := by
  induction events generalizing s with
  | nil => simp [tellAll]
  | cons event events ih =>
    have hrest := ih (h.told [event])
    rw [Service.told_told] at hrest
    rw [tellAll, run_bind, run_perform, exec_publish h]
    exact hrest

end Runs

/-! ### Coming of age -/

/-- The guardians of a student, each as often as he has an active row. -/
def guardiansOf (tenant : TenantId) (student : PersonId) (db : Database) : List PersonId :=
  (db.guardianships.rows.filter fun row =>
    row.tenant = tenant && row.student = student && row.isActive).map (·.guardian)

/-- The day of birth that is stored. -/
def bornOn (tenant : TenantId) (person : PersonId) (db : Database) : Option BirthDate :=
  (db.people.find? fun row => row.tenant = tenant && row.id = person).bind (·.bornOn)

/-- The student and each guardian get one new row of their tenant, and nobody else does. -/
structure ToldOnce (tenant : TenantId) (student : PersonId) (guardians : List PersonId)
    (before after : Outbox) : Prop where
  grown : before <+: after
  toStudent : (after.drop before.length).countP (·.recipient = student) = 1
  toGuardians : ∀ guardian ∈ guardians,
    (after.drop before.length).countP (·.recipient = guardian) = 1
  toNobodyElse : ∀ delivery ∈ after.drop before.length, delivery.tenant = tenant ∧
    (delivery.recipient = student ∨ delivery.recipient ∈ guardians)

theorem eq_singleton_of_mem {α : Type} {a : α} {members : List α} (h : a ∈ members)
    (hone : members.length ≤ 1) : members = [a] := by
  rcases members with _ | ⟨b, _ | ⟨c, members⟩⟩
  · cases h
  · rw [List.mem_singleton.1 h]
  · simp at hone

section ComingOfAge

variable {s s' : Service} {tenant : TenantId} {student : PersonId} {now years : Int}
  {crossed : AgeThreshold} {guardians : List PersonId}

theorem guardian_ne_student {db : Database} {guardian : PersonId}
    (h : guardian ∈ guardiansOf tenant student db) : guardian ≠ student := by
  obtain ⟨row, hrow, rfl⟩ := List.mem_map.1 h
  have hfields := (List.mem_filter.1 hrow).2
  simp only [Bool.and_eq_true, decide_eq_true_eq] at hfields
  rw [← hfields.1.2]
  exact row.notSelf

/-- What an announcement of age does: it publishes the events of the threshold that was crossed,
or nothing. -/
theorem run_announceComingOfAge (h : s.Listens) (rule : Result MaturityRule) (drawn : Drawn)
    (tenant : TenantId) (student : PersonId) :
    (∃ crossed years, (announceComingOfAge rule drawn tenant student).run service s =
        (.ok (comingOfAgeEvents tenant student (drawn.clock 0) crossed years
            (guardiansOf tenant student s.db)).length,
          s.told (comingOfAgeEvents tenant student (drawn.clock 0) crossed years
            (guardiansOf tenant student s.db)))) ∨
      ∃ answer, (announceComingOfAge rule drawn tenant student).run service s = (answer, s) ∧
        ∀ announced, answer = .ok announced → announced = 0 := by
  unfold announceComingOfAge
  cases rule with
  | error error => exact Or.inr ⟨_, rfl, nofun⟩
  | ok rule =>
    have hborn : service.exec (.store (.directory (.bornOn tenant student))) s =
        (.ok (bornOn tenant student s.db), s) := rfl
    have hguardians : service.exec (.store (.guardianships (.guardiansOf tenant student))) s =
        (.ok (guardiansOf tenant student s.db), s) := rfl
    rw [Result.orRefuse_ok, ofExcept_ok, done_bind, run_bind, run_perform, hborn]
    cases bornOn tenant student s.db with
    | none => exact Or.inr ⟨.ok 0, rfl, fun announced hzero => (Except.ok.inj hzero).symm⟩
    | some born =>
      cases hcrossed : crossedToday rule born (drawn.clock 0) with
      | none =>
        refine Or.inr ⟨.ok 0, ?_, fun announced hzero => (Except.ok.inj hzero).symm⟩
        simp only [hcrossed]
        rfl
      | some found =>
        obtain ⟨crossed, years⟩ := found
        refine Or.inl ⟨crossed, years, ?_⟩
        simp only [hcrossed]
        rw [run_bind, run_perform, hguardians]
        simp only
        rw [run_bind, run_tellAll h]
        rfl

/-- The rows that the events of a threshold put into the queue. -/
def comingOfAgeRows (tenant : TenantId) (student : PersonId) (now : Int) (crossed : AgeThreshold)
    (years : Int) (guardians : List PersonId) : List Delivery :=
  (comingOfAgeEvents tenant student now crossed years guardians).flatMap fun event =>
    letters event.1 event.2

/-- A row about an age that was reached. -/
def ageRow (tenant : TenantId) (channel : Channel) (now : Int) (recipient : PersonId) : Delivery :=
  ⟨tenant, recipient, channel, Kind.capabilitiesWidened.type, now,
    Kind.capabilitiesWidened.type_ne_empty⟩

/-- Without a guardian there is one row; with guardians there are two for each of them. -/
theorem comingOfAgeRows_eq : comingOfAgeRows tenant student now crossed years guardians =
    if guardians.isEmpty then [ageRow tenant .push now student]
    else guardians.flatMap fun guardian =>
      [ageRow tenant .push now student, ageRow tenant .email now guardian] := by
  unfold comingOfAgeRows comingOfAgeEvents
  split
  · simp [letters, letter_type, ageRow]
  · rw [List.flatMap_map]
    simp [letters, letter_type, ageRow]

/-- Only the student and his guardians get rows. -/
theorem recipient_of_ageRow {delivery : Delivery}
    (h : delivery ∈ comingOfAgeRows tenant student now crossed years guardians) :
    delivery.tenant = tenant ∧
      (delivery.recipient = student ∨ delivery.recipient ∈ guardians) := by
  rw [comingOfAgeRows_eq] at h
  split at h
  · obtain rfl := List.mem_singleton.1 h
    exact ⟨rfl, Or.inl rfl⟩
  · obtain ⟨guardian, hguardian, hrow⟩ := List.mem_flatMap.1 h
    simp only [List.mem_cons, List.not_mem_nil, or_false] at hrow
    rcases hrow with rfl | rfl
    · exact ⟨rfl, Or.inl rfl⟩
    · exact ⟨rfl, Or.inr hguardian⟩

/-- The student gets a row for each guardian, or one if there is none. -/
theorem countP_student (hothers : ∀ guardian ∈ guardians, guardian ≠ student) :
    (comingOfAgeRows tenant student now crossed years guardians).countP (·.recipient = student) =
      max 1 guardians.length := by
  have general : ∀ guardians : List PersonId, (∀ guardian ∈ guardians, guardian ≠ student) →
      (guardians.flatMap fun guardian => [ageRow tenant .push now student,
        ageRow tenant .email now guardian]).countP (·.recipient = student) = guardians.length := by
    intro guardians hothers
    induction guardians with
    | nil => rfl
    | cons guardian guardians ih =>
      have hfirst := hothers guardian List.mem_cons_self
      rw [List.flatMap_cons, List.countP_append, ih fun other hother =>
        hothers other (List.mem_cons_of_mem _ hother)]
      simp [ageRow, hfirst]
      omega
  rw [comingOfAgeRows_eq]
  cases guardians with
  | nil => simp [ageRow]
  | cons guardian guardians =>
    rw [if_neg (by simp), general _ hothers, List.length_cons]
    omega

/-- **When a student who comes of age is told once.** An announcement that goes out adds one row
for the student and one for each guardian, and no others, exactly if there is one guardian at
most. -/
theorem told_once_iff (hlistens : s.Listens) {rule : Result MaturityRule} {drawn : Drawn}
    {announced : Nat}
    (hrun : (announceComingOfAge rule drawn tenant student).run service s = (.ok announced, s'))
    (hannounced : announced ≠ 0) :
    ToldOnce tenant student (guardiansOf tenant student s.db) s.outbox s'.outbox ↔
      (guardiansOf tenant student s.db).length ≤ 1 := by
  rcases run_announceComingOfAge hlistens rule drawn tenant student with
    ⟨crossed, years, htold⟩ | ⟨answer, hnone, hzero⟩
  · obtain ⟨-, rfl⟩ := Prod.mk.inj (htold.symm.trans hrun)
    have hadded : (s.told (comingOfAgeEvents tenant student (drawn.clock 0) crossed years
        (guardiansOf tenant student s.db))).outbox.drop s.outbox.length =
          comingOfAgeRows tenant student (drawn.clock 0) crossed years
            (guardiansOf tenant student s.db) := List.drop_left
    have hothers : ∀ guardian ∈ guardiansOf tenant student s.db, guardian ≠ student :=
      fun guardian => guardian_ne_student
    constructor
    · intro htoldOnce
      have hone := htoldOnce.toStudent
      rw [hadded, countP_student hothers] at hone
      omega
    · intro hfew
      refine ⟨List.prefix_append _ _, ?_, ?_, ?_⟩
      · rw [hadded, countP_student hothers]
        omega
      · intro guardian hguardian
        rw [hadded, comingOfAgeRows_eq, eq_singleton_of_mem hguardian hfew]
        have hother : student ≠ guardian := (hothers guardian hguardian).symm
        simp [ageRow, hother]
      · intro delivery hdelivery
        rw [hadded] at hdelivery
        exact recipient_of_ageRow hdelivery
  · obtain ⟨rfl, -⟩ := Prod.mk.inj (hnone.symm.trans hrun)
    exact absurd (hzero announced rfl) hannounced

end ComingOfAge

/-- The school of a child with one parent. -/
def oneParent : Service := { db := schoolDays }

theorem listens_oneParent : oneParent.Listens := rfl

theorem parent_ne_child : (repeated 3 : PersonId) ≠ repeated 1 := by decide

theorem parent_stays : ∀ revoked ∈ (none : Option Int), (0 : Int) ≤ revoked := fun _ h =>
  absurd h (Option.not_mem_none _)

/-- The child gets a second guardian. -/
def twoParents : Service where
  db := (database.exec (.guardianships (.save
    ⟨repeated 7, repeated 3, repeated 1, 0, none, parent_ne_child, parent_stays⟩)) schoolDays).2

/-- The announcement on the day the child turns 14. -/
def announcedAt14 (s : Service) : Except Fault Nat × Service :=
  (announceComingOfAge (.ok schoolRule) (drawnAt (afterBirthday 14 0) 5) (repeated 7)
    (repeated 1)).run service s

/-- A child and its parent are told once. -/
theorem told_once_of_one_parent :
    ToldOnce (repeated 7) (repeated 1) (guardiansOf (repeated 7) (repeated 1) oneParent.db)
      oneParent.outbox (announcedAt14 oneParent).2.outbox := by
  have hrun : announcedAt14 oneParent = (.ok 1, (announcedAt14 oneParent).2) :=
    Prod.ext (by decide +kernel) rfl
  exact (told_once_iff listens_oneParent hrun Nat.one_ne_zero).2 (by decide +kernel)

/-- **A child with two guardians is told twice.** -/
theorem told_twice :
    twoParents.Listens ∧ (announcedAt14 twoParents).1 = .ok 2 ∧
      guardiansOf (repeated 7) (repeated 1) twoParents.db = [repeated 2, repeated 3] ∧
      ((announcedAt14 twoParents).2.outbox.countP (·.recipient = repeated 1)) = 2 ∧
      ¬ ToldOnce (repeated 7) (repeated 1) (guardiansOf (repeated 7) (repeated 1) twoParents.db)
        twoParents.outbox (announcedAt14 twoParents).2.outbox := by
  have htwice : (announcedAt14 twoParents).2.outbox.countP (·.recipient = repeated 1) = 2 := by
    decide +kernel
  refine ⟨rfl, by decide +kernel, by decide +kernel, htwice, fun htold => ?_⟩
  have hone := htold.toStudent
  rw [show twoParents.outbox.length = 0 from rfl, List.drop_zero, htwice] at hone
  omega

/-! ### Everybody who is warned -/

/-- What may happen. -/
inductive Announcement where
  | revokeGuardianship (drawn : Drawn) (request : RevokeGuardianshipRequest)
  | notifyGuardianOfAct (drawn : Drawn) (request : NotifyGuardianOfActRequest)
  | announceComingOfAge (rule : Result MaturityRule) (drawn : Drawn) (tenant : TenantId)
      (student : PersonId)
  | announceGuardianHandover (rule : Result MaturityRule) (drawn : Drawn) (tenant : TenantId)
      (guardian student : PersonId)

/-- The scenario, whatever it returns. -/
def attend : Announcement → News Unit
  | .revokeGuardianship drawn request => revokeAndTell drawn request
  | .notifyGuardianOfAct drawn request => do
    let _ ← notifyGuardianOfAct drawn request
    return ()
  | .announceComingOfAge rule drawn tenant student => do
    let _ ← announceComingOfAge rule drawn tenant student
    return ()
  | .announceGuardianHandover rule drawn tenant guardian student => do
    let _ ← announceGuardianHandover rule drawn tenant guardian student
    return ()

/-- The scenarios as calls of one machine. -/
def announcements : Machine (fun _ : Announcement => Unit) Fault Service :=
  service.whole attend

/-- A turn of a sequential run. -/
abbrev AnnouncementTurn : Type := Turn (fun _ : Announcement => Unit) Fault Service

/-- The persons whom an event warns. -/
def warned : DomainEvent → List PersonId
  | ⟨.guardianshipRevoked, event⟩ => [event.guardian]
  | ⟨.capabilitiesWidened, event⟩ => event.student :: event.guardian.toList
  | ⟨.wardActedAlone, event⟩ => [event.guardian]
  | ⟨.guardianHandoverStarted, event⟩ => [event.guardian, event.student]
  | ⟨.practiceVisibilityChanged, _⟩ => []
  | ⟨.lessonBooked, event⟩ => [event.student, event.tutor]

/-- The words by which a row names an event: its act, if it is one, or its kind. -/
def reasonOf : DomainEvent → String
  | ⟨.wardActedAlone, event⟩ => event.act.name
  | ⟨kind, _⟩ => kind.type

/-- Each person whom an event of the time warns gets a row about it. -/
def EverybodyIsWrittenTo (before after : Service) : Prop :=
  ∀ event ∈ after.bus.published.drop before.bus.published.length, ∀ person ∈ warned event,
    ∃ delivery ∈ after.outbox.drop before.outbox.length, delivery.tenant = tenantOf event ∧
      delivery.recipient = person ∧ delivery.reason = reasonOf event

/-- What the stored consents of a guardian open at a moment. -/
def storedAccess (db : Database) (rule : MaturityRule) (born : BirthDate) (now : Int)
    (tenant : TenantId) (guardian student : PersonId) : GuardianAccess :=
  weighConsents (ConsentCall.activeRows tenant guardian student db.consents.rows) (some born) rule
    now (db.guardianships.find? fun row =>
      GuardianshipCall.isOf tenant guardian student row && row.isActive).isSome

/-- The announcement of a term is made while some scope is being decided about. -/
def Announcement.StartsHandover (db : Database) : Announcement → Prop
  | .announceGuardianHandover rule drawn tenant guardian student => ∃ rule' born,
      rule = .ok rule' ∧ bornOn tenant student db = some born ∧
        (storedAccess db rule' born (drawn.clock 0) tenant guardian student).deciding ≠
          BitSet.empty
  | _ => False

section Letters

theorem act_name_ne_empty (act : WardAct) : act.name ≠ "" := by
  cases act <;> decide

/-- **What the rows of an event are**: one for each person it warns, in its tenant and naming it;
and none about the start of a term. -/
theorem rows_of_letters (event : DomainEvent) :
    (letters event.1 event.2).map (fun row => (row.tenant, row.recipient, row.reason)) =
      if event.1 = .guardianHandoverStarted then []
      else (warned event).map fun person => (tenantOf event, person, reasonOf event) := by
  obtain ⟨kind, event⟩ := event
  cases kind with
  | capabilitiesWidened =>
    cases hguardian : event.guardian <;>
      simp [letters, letter_type, hguardian, warned, tenantOf, reasonOf]
  | wardActedAlone => simp [letters, letter, act_name_ne_empty, warned, tenantOf, reasonOf]
  | guardianHandoverStarted => rfl
  | practiceVisibilityChanged => rfl
  | guardianshipRevoked => simp [letters, letter_type, warned, tenantOf, reasonOf]
  | lessonBooked => simp [letters, letter_type, warned, tenantOf, reasonOf]

theorem reasonOf_ne {event : DomainEvent} (h : event.1 ≠ .guardianHandoverStarted) :
    reasonOf event ≠ Kind.guardianHandoverStarted.type := by
  obtain ⟨kind, event⟩ := event
  cases kind with
  | wardActedAlone => cases hact : event.act <;> simp [reasonOf, hact, WardAct.name, Kind.type]
  | guardianHandoverStarted => exact absurd rfl h
  | _ => simp [reasonOf, Kind.type]

/-- No row of the queue is about the start of a term. -/
theorem reason_of_letter {event : DomainEvent} {row : Delivery}
    (h : row ∈ letters event.1 event.2) : row.reason ≠ Kind.guardianHandoverStarted.type := by
  have hrow := List.mem_map_of_mem (f := fun row => (row.tenant, row.recipient, row.reason)) h
  rw [rows_of_letters] at hrow
  split at hrow
  · cases hrow
  · rename_i hkind
    obtain ⟨person, -, hsame⟩ := List.mem_map.1 hrow
    have hreason : reasonOf event = row.reason := congrArg (fun fields => fields.2.2) hsame
    rw [← hreason]
    exact reasonOf_ne hkind

/-- Every other event puts a row into the queue for each person it warns. -/
theorem exists_letter {event : DomainEvent} (hkind : event.1 ≠ .guardianHandoverStarted)
    {person : PersonId} (hperson : person ∈ warned event) :
    ∃ row ∈ letters event.1 event.2, row.tenant = tenantOf event ∧ row.recipient = person ∧
      row.reason = reasonOf event := by
  have hfields := List.mem_map_of_mem
    (f := fun person => (tenantOf event, person, reasonOf event)) hperson
  have hrows := rows_of_letters event
  rw [if_neg hkind] at hrows
  rw [← hrows] at hfields
  obtain ⟨row, hrow, hsame⟩ := List.mem_map.1 hfields
  exact ⟨row, hrow, congrArg Prod.fst hsame, congrArg (fun fields => fields.2.1) hsame,
    congrArg (fun fields => fields.2.2) hsame⟩

end Letters

section Turns

variable {s s' : Service} {steps : List AnnouncementTurn}

/-- An announcement of a term publishes it exactly if some scope is being decided about. -/
theorem run_announceGuardianHandover (h : s.Listens) (rule : Result MaturityRule) (drawn : Drawn)
    (tenant : TenantId) (guardian student : PersonId) :
    (∃ decideBy, ((announceGuardianHandover rule drawn tenant guardian student).run service s) =
        (.ok true, s.told [⟨.guardianHandoverStarted,
          ⟨tenant, drawn.clock 0, guardian, student, decideBy⟩⟩]) ∧
        (Announcement.announceGuardianHandover rule drawn tenant guardian student).StartsHandover
          s.db) ∨
      ((announceGuardianHandover rule drawn tenant guardian student).run service s).2 = s ∧
        ¬ (Announcement.announceGuardianHandover rule drawn tenant guardian
          student).StartsHandover s.db := by
  unfold announceGuardianHandover
  cases rule with
  | error error =>
    refine Or.inr ⟨rfl, ?_⟩
    rintro ⟨rule, born, hrule, -⟩
    cases hrule
  | ok rule =>
    have hborn : service.exec (.store (.directory (.bornOn tenant student))) s =
        (.ok (bornOn tenant student s.db), s) := rfl
    have hconsents : service.exec (.store (.consents (.activeFor tenant guardian student))) s =
        (.ok (ConsentCall.activeRows tenant guardian student s.db.consents.rows), s) := rfl
    have hguardianship :
        service.exec (.store (.guardianships (.findActive tenant guardian student))) s =
          (.ok (s.db.guardianships.find? fun row =>
            GuardianshipCall.isOf tenant guardian student row && row.isActive), s) := rfl
    rw [Result.orRefuse_ok, ofExcept_ok, done_bind, run_bind, run_perform, hborn]
    cases hknown : bornOn tenant student s.db with
    | none =>
      refine Or.inr ⟨rfl, ?_⟩
      rintro ⟨_, born, -, hsome, -⟩
      rw [hknown] at hsome
      cases hsome
    | some born =>
      simp only [run_bind, run_perform, hconsents, hguardianship]
      rw [← storedAccess]
      by_cases hdeciding : (storedAccess s.db rule born (drawn.clock 0) tenant guardian
          student).deciding = BitSet.empty
      · rw [if_pos hdeciding]
        refine Or.inr ⟨rfl, ?_⟩
        rintro ⟨rule', born', hrule, hsome, hstarts⟩
        obtain rfl := Except.ok.inj hrule
        rw [hknown] at hsome
        obtain rfl := Option.some.inj hsome
        exact hstarts hdeciding
      · rw [if_neg hdeciding, run_bind, run_perform, exec_publish h]
        exact Or.inl ⟨_, rfl, rule, born, rfl, hknown, hdeciding⟩

theorem state_of_dropped {α : Type} (program : News α) (s : Service) :
    ((program >>= fun _ => (pure () : News Unit)).run service s).2 = (program.run service s).2 := by
  rw [run_bind]
  rcases program.run service s with ⟨_ | _, _⟩ <;> rfl

/-- What an announcement does: events go through the bus, and one of them is the start of a term
exactly if the announcement starts one. -/
theorem told_of_attend (h : s.Listens) (announcement : Announcement) :
    ∃ db events, ((attend announcement).run service s).2 = ({ s with db := db }).told events ∧
      ((∃ event ∈ events, event.1 = .guardianHandoverStarted) ↔
        announcement.StartsHandover s.db) := by
  cases announcement with
  | revokeGuardianship drawn request =>
    rw [attend, revokeAndTell, run_bind, run_onStore]
    cases (revokeGuardianship drawn request).run database s.db with
    | mk answer db =>
      cases answer with
      | error error => exact ⟨db, [], by simp, by simp [Announcement.StartsHandover]⟩
      | ok event =>
        have hlistens : ({ s with db := db } : Service).Listens := h
        refine ⟨db, [⟨.guardianshipRevoked, event⟩], ?_, by simp [Announcement.StartsHandover]⟩
        simp only [run_perform, exec_publish hlistens]
  | notifyGuardianOfAct drawn request =>
    have hguardians : service.exec
        (.store (.guardianships (.guardiansOf request.tenant request.student))) s =
          (.ok (guardiansOf request.tenant request.student s.db), s) := rfl
    refine ⟨s.db, (guardiansOf request.tenant request.student s.db).map
      (actEvent (drawn.clock 0) request), ?_, by simp [Announcement.StartsHandover, actEvent]⟩
    rw [attend, state_of_dropped, notifyGuardianOfAct, run_bind, run_perform, hguardians]
    simp only
    rw [run_bind, run_tellAll h]
    rfl
  | announceComingOfAge rule drawn tenant student =>
    have hnever : ¬ (Announcement.announceComingOfAge rule drawn tenant student).StartsHandover
        s.db := fun hstarts => hstarts
    rw [attend, state_of_dropped]
    rcases run_announceComingOfAge h rule drawn tenant student with
      ⟨crossed, years, htold⟩ | ⟨answer, hsame, -⟩
    · refine ⟨s.db, _, congrArg Prod.snd htold, iff_of_false ?_ hnever⟩
      rintro ⟨event, hevent, hkind⟩
      unfold comingOfAgeEvents at hevent
      split at hevent
      · obtain rfl := List.mem_singleton.1 hevent
        cases hkind
      · obtain ⟨guardian, -, rfl⟩ := List.mem_map.1 hevent
        cases hkind
    · refine ⟨s.db, [], ?_, iff_of_false (by simp) hnever⟩
      rw [hsame, Service.told_nil]
  | announceGuardianHandover rule drawn tenant guardian student =>
    rw [attend, state_of_dropped]
    rcases run_announceGuardianHandover h rule drawn tenant guardian student with
      ⟨decideBy, htold, hstarts⟩ | ⟨hsame, hnot⟩
    · refine ⟨s.db, _, congrArg Prod.snd htold, iff_of_true ?_ hstarts⟩
      exact ⟨_, List.mem_singleton_self _, rfl⟩
    · refine ⟨s.db, [], ?_, iff_of_false (by simp) hnot⟩
      rw [hsame, Service.told_nil]

/-- What a run does: events go through the bus, and one of them is the start of a term exactly if
some announcement of the run started one. -/
theorem told_of_run (hlistens : s.Listens) (h : Linked announcements s steps s') :
    ∃ db events, s' = ({ s with db := db }).told events ∧
      ((∃ event ∈ events, event.1 = .guardianHandoverStarted) ↔
        ∃ t ∈ steps, t.entry.op.StartsHandover t.before.db) := by
  refine h.history (H := fun seen now => ∃ db events, now = ({ s with db := db }).told events ∧
    ((∃ event ∈ events, event.1 = .guardianHandoverStarted) ↔
      ∃ t ∈ seen, t.entry.op.StartsHandover t.before.db)) ⟨s.db, [], by simp, by simp⟩ ?_
  rintro seen t ht hexec ⟨db, events, hbefore, hseen⟩
  have hnow : t.before.Listens := by
    rw [hbefore]
    exact hlistens
  obtain ⟨db', more, hafter, hstarts⟩ := told_of_attend hnow t.entry.op
  have hsame : ((attend t.entry.op).run service t.before).2 = t.after := congrArg Prod.snd hexec
  refine ⟨db', events ++ more, ?_, ?_⟩
  · rw [← hsame, hafter, hbefore, ← Service.told_told]
    rfl
  · simp only [List.mem_append, List.mem_singleton, or_and_right, exists_or, exists_eq_left, hseen,
      hstarts]

/-- **When everybody is written to.** Over any tables, in every run of these scenarios, each
person whom an event warns gets a row about it exactly if no announcement of the run started a
term: the start of a term has no subscriber. -/
theorem everybody_is_written_to_iff (hlistens : s.Listens) (h : Linked announcements s steps s') :
    EverybodyIsWrittenTo s s' ↔ ∀ t ∈ steps, ¬ t.entry.op.StartsHandover t.before.db := by
  obtain ⟨db, events, rfl, hstarts⟩ := told_of_run hlistens h
  have hpublished : (({ s with db := db }).told events).bus.published.drop
      s.bus.published.length = events := List.drop_left
  have hrows : (({ s with db := db }).told events).outbox.drop s.outbox.length =
      events.flatMap fun event => letters event.1 event.2 := List.drop_left
  rw [EverybodyIsWrittenTo, hpublished, hrows]
  have hnone : (∀ t ∈ steps, ¬ t.entry.op.StartsHandover t.before.db) ↔
      ∀ event ∈ events, event.1 ≠ .guardianHandoverStarted := by
    rw [← not_iff_not]
    simp only [not_forall, not_not, exists_prop, ne_eq]
    exact hstarts.symm
  rw [hnone]
  constructor
  · intro hwritten event hevent hkind
    obtain ⟨kind, payload⟩ := event
    obtain rfl : kind = .guardianHandoverStarted := hkind
    obtain ⟨row, hrow, -, -, hreason⟩ := hwritten _ hevent payload.guardian List.mem_cons_self
    obtain ⟨other, -, hletter⟩ := List.mem_flatMap.1 hrow
    exact reason_of_letter hletter hreason
  · intro hnone event hevent person hperson
    obtain ⟨row, hrow, hfields⟩ := exists_letter (hnone event hevent) hperson
    exact ⟨row, List.mem_flatMap.2 ⟨event, hevent, hrow⟩, hfields⟩

end Turns

/-- The parent is told of a lesson that was moved, and the announcement of a term is tried the day
before the child turns 14. -/
def quietWeek : List AnnouncementTurn × Service :=
  turns announcements
    [.notifyGuardianOfAct (drawnAt (afterBirthday 13 0) 5)
        ⟨repeated 7, repeated 1, .lessonRescheduled⟩,
      .announceGuardianHandover (.ok schoolRule) (drawnAt (afterBirthday 14 (-1)) 5) (repeated 7)
        (repeated 2) (repeated 1)] oneParent

/-- The term starts when the child turns 14. -/
def termStarts : List AnnouncementTurn × Service :=
  turns announcements
    [.announceGuardianHandover (.ok schoolRule) (drawnAt (afterBirthday 14 0) 5) (repeated 7)
        (repeated 2) (repeated 1)] oneParent

/-- Before the term everybody is written to. -/
theorem written_to_in_quiet_week : EverybodyIsWrittenTo oneParent quietWeek.2 := by
  refine (everybody_is_written_to_iff listens_oneParent
    (turns_linked announcements _ oneParent)).2 ?_
  have hyoung : (storedAccess schoolDays schoolRule childEnrolled.bornOn (afterBirthday 14 (-1))
      (repeated 7) (repeated 2) (repeated 1)).deciding = BitSet.empty := by decide +kernel
  have hborn : bornOn (repeated 7) (repeated 1) schoolDays = some childEnrolled.bornOn := by
    decide +kernel
  rintro t (- | ⟨-, - | ⟨-, ⟨⟩⟩⟩)
  · exact id
  · rintro ⟨rule, born, hrule, hknown, hdeciding⟩
    obtain rfl := Except.ok.inj hrule
    obtain rfl : childEnrolled.bornOn = born := Option.some.inj (hborn.symm.trans hknown)
    exact hdeciding hyoung

/-- **Nobody hears that the term starts.** -/
theorem nobody_is_written_to :
    oneParent.Listens ∧ Linked announcements oneParent termStarts.1 termStarts.2 ∧
      termStarts.2.bus.published.map (·.1) = [.guardianHandoverStarted] ∧
      termStarts.2.outbox = [] ∧ ¬ EverybodyIsWrittenTo oneParent termStarts.2 := by
  have hpublished : termStarts.2.bus.published.map (·.1) = [.guardianHandoverStarted] := by
    decide +kernel
  have hnothing : termStarts.2.outbox = [] := by decide +kernel
  refine ⟨listens_oneParent, turns_linked announcements _ oneParent, hpublished, hnothing,
    fun hwritten => ?_⟩
  obtain ⟨event, hevent, hkind⟩ := List.mem_map.1
    (hpublished ▸ List.mem_singleton_self Kind.guardianHandoverStarted)
  obtain ⟨kind, payload⟩ := event
  obtain rfl : kind = .guardianHandoverStarted := hkind
  obtain ⟨row, hrow, -⟩ := hwritten _ hevent payload.guardian List.mem_cons_self
  rw [hnothing] at hrow
  cases hrow

end Pdr.Notifications
