import Pdr.Http.Errand

/-!
# What holds of a key, whatever the requests do

Any number of errands run at once. This module ties the stage of each to what the database
holds under one key: who has written its row and not committed it, whose answer the
committed row carries, and which scenarios have left their work behind. The invariant is
kept by every call of every errand, so it holds in every run.

## Main definitions

* `Pdr.Http.Stage.took`: the answer with which an errand has committed its key.
* `Pdr.Http.Fits`: what the database holds of one errand in each of its stages.
* `Pdr.Http.KeyInvariant`: the invariant.

## Main results

* `Pdr.Http.KeyInvariant.start`: it holds before anybody came.
* `Pdr.Http.keyInvariant_preserved`: every call keeps it.
-/

namespace Pdr.Http

open StoreProgram Program

variable {ι E : Type}

/-- The scenario returned a value, and this is how it is saved. -/
def Errand.Saves (platform : Platform) (errand : Errand E) (saved : SavedAnswer) : Prop :=
  ∃ value, errand.script.outcome = .ok (.ok value) ∧ saved = ⟨kOk, platform.toText value⟩

/-- The row that the errand writes under the key, if that is its key. -/
def Errand.rowAt (errand : Errand E) (k : KeyId) (state : KeyState) : Option KeyRow :=
  if errand.id = k then some ⟨errand.fingerprint, state, errand.expiresAt⟩ else none

/-- The answer with which the errand has committed its key. -/
def Stage.took : Stage → Option SavedAnswer
  | .ended (.ok ⟨.taken, saved⟩) => some saved
  | _ => none

/-- The errand found the key committed, and goes by its row. -/
def FromRow (k : KeyId) (errand : Errand E) (served : Served) (committed : Option KeyRow) : Prop :=
  errand.id = k → ∃ row, committed = some row ∧ row.fingerprint = errand.fingerprint ∧
    (served.outcome = .replay ∧ row.state = .completed served.answer ∨
      served.outcome = .inFlight ∧ row.state = .inProgress)

/-- What the database holds of an errand: the row that it has written under the key and not
committed, its transaction, and the committed row of the key. -/
def Fits (platform : Platform) (k : KeyId) (errand : Errand E) (held : Option KeyRow)
    (transaction : Option (Transaction E)) (committed : Option KeyRow) : Stage → Prop
  | .idle => held = none ∧ transaction = none
  | .opened => held = none ∧ ∃ snapshot, transaction = some ⟨errand.tenant, snapshot, none⟩
  | .asking => held = none ∧ ∃ snapshot, transaction = some ⟨errand.tenant, snapshot, none⟩ ∧
      ∀ row, snapshot k = some row → committed = some row
  | .holding => held = errand.rowAt k .inProgress ∧
      ∃ snapshot, transaction = some ⟨errand.tenant, snapshot, none⟩
  | .worked saved => held = errand.rowAt k .inProgress ∧ errand.Saves platform saved ∧
      ∃ snapshot, transaction = some ⟨errand.tenant, snapshot, some errand.script.effect⟩
  | .settled ⟨.taken, saved⟩ => held = errand.rowAt k (.completed saved) ∧
      errand.Saves platform saved ∧
      ∃ snapshot, transaction = some ⟨errand.tenant, snapshot, some errand.script.effect⟩
  | .settled served => held = none ∧ FromRow k errand served committed ∧
      ∃ snapshot, transaction = some ⟨errand.tenant, snapshot, none⟩
  | .failed _ => errand.id ≠ k → held = none
  | .ended (.ok ⟨.taken, saved⟩) => held = none ∧ transaction = none ∧ errand.Saves platform saved
  | .ended (.ok served) => held = none ∧ transaction = none ∧ FromRow k errand served committed
  | .ended (.error _) => held = none ∧ transaction = none

/-- What the database holds of a request; one that was turned away leaves nothing. -/
def FitsRequest (platform : Platform) (k : KeyId) (held : Option KeyRow)
    (transaction : Option (Transaction E)) (committed : Option KeyRow) (stage : Stage) :
    Option (Errand E) → Prop
  | none => stage = .idle ∧ held = none ∧ transaction = none
  | some errand => Fits platform k errand held transaction committed stage

theorem FromRow.mono {k : KeyId} {errand : Errand E} {served : Served}
    {committed committed' : Option KeyRow} (h : FromRow k errand served committed)
    (hmono : ∀ row, committed = some row → committed' = some row) :
    FromRow k errand served committed' := by
  intro hid
  obtain ⟨row, hrow, hrest⟩ := h hid
  exact ⟨row, hmono row hrow, hrest⟩

/-- What fits goes on to fit when the key is committed by somebody else. -/
theorem Fits.mono {platform : Platform} {k : KeyId} {errand : Errand E} {held : Option KeyRow}
    {transaction : Option (Transaction E)} {committed committed' : Option KeyRow} {stage : Stage}
    (h : Fits platform k errand held transaction committed stage)
    (hmono : ∀ row, committed = some row → committed' = some row) :
    Fits platform k errand held transaction committed' stage := by
  cases stage with
  | idle => exact h
  | opened => exact h
  | asking =>
    obtain ⟨hheld, snapshot, htransaction, hsnapshot⟩ := h
    exact ⟨hheld, snapshot, htransaction, fun row hrow => hmono row (hsnapshot row hrow)⟩
  | holding => exact h
  | worked saved => exact h
  | settled served =>
    obtain ⟨outcome, saved⟩ := served
    cases outcome with
    | taken => exact h
    | replay => exact ⟨h.1, h.2.1.mono hmono, h.2.2⟩
    | inFlight => exact ⟨h.1, h.2.1.mono hmono, h.2.2⟩
  | failed fault => exact h
  | ended outcome =>
    cases outcome with
    | error fault => exact h
    | ok served =>
      obtain ⟨outcome, saved⟩ := served
      cases outcome with
      | taken => exact h
      | replay => exact ⟨h.1, h.2.1, h.2.2.mono hmono⟩
      | inFlight => exact ⟨h.1, h.2.1, h.2.2.mono hmono⟩

section Invariant

variable [DecidableEq ι]

/-- **The invariant of a key** over the errands that are under way: what fits each of them,
whose the committed row is, and whose work the database has. -/
structure KeyInvariant (platform : Platform) (errands : ι → Option (Errand E)) (k : KeyId)
    (before : List (ι × E)) (stages : ι → Stage) (db : Postgres ι E) : Prop where
  fits : ∀ i, FitsRequest platform k (db.keys.heldBy i k) (db.transactions i)
    (db.keys.committed k) (stages i) (errands i)
  /-- A key that somebody is writing is not committed. -/
  fresh : ∀ i row, db.keys.heldBy i k = some row → db.keys.committed k = none
  /-- A committed row is that of an errand that has committed it. -/
  owned : ∀ row, db.keys.committed k = some row → ∃ i errand saved, errands i = some errand ∧
    errand.id = k ∧ (stages i).took = some saved ∧
    row = ⟨errand.fingerprint, .completed saved, errand.expiresAt⟩
  unowned : db.keys.committed k = none → ∀ i errand, errands i = some errand → errand.id = k →
    (stages i).took = none
  sole : ∀ i j ei ej, errands i = some ei → errands j = some ej → ei.id = k → ej.id = k →
    (stages i).took.isSome = true → (stages j).took.isSome = true → i = j
  /-- The work that was added is that of the errands that have committed. -/
  recorded : ∃ added, db.effects = before ++ added ∧ (added.map Prod.fst).Nodup ∧
    ∀ i effect, (i, effect) ∈ added ↔ ∃ errand, errands i = some errand ∧
      (stages i).took.isSome = true ∧ effect = errand.script.effect

variable {platform : Platform} {errands : ι → Option (Errand E)} {k : KeyId}
  {before : List (ι × E)} {stages : ι → Stage} {db db' : Postgres ι E}

/-- Nobody is in a transaction. -/
def Postgres.Idle (db : Postgres ι E) : Prop :=
  (∀ i, db.transactions i = none) ∧ ∀ i key, db.keys.heldBy i key = none

/-- Before anybody came, under a key that is not taken. -/
theorem KeyInvariant.start (hidle : db.Idle) (hfree : db.keys.committed k = none) :
    KeyInvariant platform errands k db.effects (fun _ => .idle) db where
  fits i := by
    cases errands i with
    | none => exact ⟨rfl, hidle.2 i k, hidle.1 i⟩
    | some errand => exact ⟨hidle.2 i k, hidle.1 i⟩
  fresh i row hheld := hfree
  owned row hrow := by
    rw [hfree] at hrow
    cases hrow
  unowned _ _ _ _ _ := rfl
  sole i j ei ej _ _ _ _ htook _ := by cases htook
  recorded := ⟨[], by simp, List.nodup_nil, by simp [Stage.took]⟩

/-- A call of one errand that commits nothing keeps the invariant if it keeps what fits
that errand. -/
theorem KeyInvariant.quiet (h : KeyInvariant platform errands k before stages db) {i : ι}
    {stage : Stage} (hcommitted : db'.keys.committed k = db.keys.committed k)
    (heffects : db'.effects = db.effects)
    (hheld : ∀ j, j ≠ i → db'.keys.heldBy j k = db.keys.heldBy j k)
    (htransaction : ∀ j, j ≠ i → db'.transactions j = db.transactions j)
    (hold : (stages i).took = none) (hnew : stage.took = none)
    (hfits : FitsRequest platform k (db'.keys.heldBy i k) (db'.transactions i)
      (db'.keys.committed k) stage (errands i))
    (hfresh : ∀ row, db'.keys.heldBy i k = some row → db.keys.committed k = none) :
    KeyInvariant platform errands k before (Function.update stages i stage) db' := by
  have htook : ∀ j, (Function.update stages i stage j).took = (stages j).took := by
    intro j
    by_cases hj : j = i
    · subst hj
      rw [Function.update_self, hold, hnew]
    · rw [Function.update_of_ne hj]
  refine ⟨fun j => ?_, fun j row hrow => ?_, ?_, ?_, ?_, ?_⟩
  · by_cases hj : j = i
    · subst hj
      rwa [Function.update_self]
    · rw [Function.update_of_ne hj, hheld j hj, htransaction j hj, hcommitted]
      exact h.fits j
  · rw [hcommitted]
    by_cases hj : j = i
    · subst hj
      exact hfresh row hrow
    · rw [hheld j hj] at hrow
      exact h.fresh j row hrow
  · simpa only [htook, hcommitted] using h.owned
  · simpa only [htook, hcommitted] using h.unowned
  · simpa only [htook] using h.sole
  · simpa only [htook, heffects] using h.recorded

/-- The commit of an errand that holds its key keeps the invariant. -/
theorem KeyInvariant.commit (h : KeyInvariant platform errands k before stages db) {i : ι}
    {errand : Errand E} {saved : SavedAnswer} (herrand : errands i = some errand)
    (hstage : stages i = .settled ⟨.taken, saved⟩) :
    KeyInvariant platform errands k before
      (Function.update stages i (.ended (.ok ⟨.taken, saved⟩)))
      { db.withTransaction i none with
        keys := db.keys.publish i
        effects := db.effects ++ [(i, errand.script.effect)] } := by
  have hfits := h.fits i
  rw [herrand, hstage] at hfits
  obtain ⟨hheld, hsaves, -, -⟩ := hfits
  have hnone : (stages i).took = none := by rw [hstage]; rfl
  have htook_self : (Function.update stages i (.ended (.ok ⟨.taken, saved⟩)) i).took =
      some saved := by
    rw [Function.update_self]
    rfl
  have htook_other : ∀ j, j ≠ i →
      (Function.update stages i (.ended (.ok ⟨.taken, saved⟩)) j).took = (stages j).took :=
    fun j hj => by rw [Function.update_of_ne hj]
  -- The errand's own key was not committed, so nobody else has committed it.
  have hmine : errand.id = k → db.keys.committed k = none ∧ db.keys.visible i k =
      some ⟨errand.fingerprint, .completed saved, errand.expiresAt⟩ := by
    intro hid
    rw [Errand.rowAt, if_pos hid] at hheld
    exact ⟨h.fresh i _ hheld, by rw [Versions.visible, hheld]; rfl⟩
  have hother : errand.id ≠ k → db.keys.visible i k = db.keys.committed k := by
    intro hid
    rw [Errand.rowAt, if_neg hid] at hheld
    rw [Versions.visible_of_not_heldBy hheld]
  have hnobody : ∀ j ej, errands j = some ej → ej.id = k → errand.id = k →
      (stages j).took = none := fun j ej hj hid hk => h.unowned (hmine hk).1 j ej hj hid
  refine ⟨fun j => ?_, fun j row hrow => ?_, fun row hrow => ?_, fun hrow j ej hj hid => ?_,
    fun j l ej el hj hl hjid hlid hjtook hltook => ?_, ?_⟩
  · by_cases hj : j = i
    · subst hj
      rw [Function.update_self, herrand]
      exact ⟨Versions.heldBy_publish_self, Function.update_self .., hsaves⟩
    · rw [Function.update_of_ne hj]
      have hkept : (db.withTransaction i none).transactions j = db.transactions j :=
        Function.update_of_ne hj ..
      show FitsRequest platform k ((db.keys.publish i).heldBy j k)
        ((db.withTransaction i none).transactions j) (db.keys.visible i k) (stages j) (errands j)
      rw [hkept, Versions.heldBy_publish_of_ne hj]
      have hfits := h.fits j
      cases hej : errands j with
      | none =>
        rw [hej] at hfits
        exact hfits
      | some ej =>
        rw [hej] at hfits
        refine Fits.mono hfits fun row hrow => ?_
        by_cases hid : errand.id = k
        · rw [(hmine hid).1] at hrow
          cases hrow
        · rwa [hother hid]
  · by_cases hj : j = i
    · subst hj
      rw [Versions.heldBy_publish_self] at hrow
      cases hrow
    · rw [Versions.heldBy_publish_of_ne hj] at hrow
      by_cases hid : errand.id = k
      · rw [Errand.rowAt, if_pos hid] at hheld
        exact absurd (Versions.eq_of_heldBy hrow hheld) hj
      · show db.keys.visible i k = none
        rw [hother hid]
        exact h.fresh j row hrow
  · have hrow : db.keys.visible i k = some row := hrow
    by_cases hid : errand.id = k
    · rw [(hmine hid).2] at hrow
      exact ⟨i, errand, saved, herrand, hid, htook_self, (Option.some.inj hrow).symm⟩
    · rw [hother hid] at hrow
      obtain ⟨j, ej, saved', hej, hjid, hjtook, hjrow⟩ := h.owned row hrow
      have hj : j ≠ i := by
        rintro rfl
        rw [hnone] at hjtook
        cases hjtook
      exact ⟨j, ej, saved', hej, hjid, by rw [htook_other j hj, hjtook], hjrow⟩
  · have hrow : db.keys.visible i k = none := hrow
    by_cases hk : errand.id = k
    · rw [(hmine hk).2] at hrow
      cases hrow
    · have hne : j ≠ i := by
        rintro rfl
        rw [herrand] at hj
        cases hj
        exact hk hid
      rw [htook_other j hne]
      rw [hother hk] at hrow
      exact h.unowned hrow j ej hj hid
  · by_cases hk : errand.id = k
    · have honly : ∀ m em, errands m = some em → em.id = k →
          (Function.update stages i (.ended (.ok ⟨.taken, saved⟩)) m).took.isSome = true →
          m = i := by
        intro m em hm hmid hmtook
        by_contra hmi
        rw [htook_other m hmi, hnobody m em hm hmid hk] at hmtook
        cases hmtook
      rw [honly j ej hj hjid hjtook, honly l el hl hlid hltook]
    · have hne : ∀ m em, errands m = some em → em.id = k → m ≠ i := by
        rintro m em hm hmid rfl
        rw [herrand] at hm
        cases hm
        exact hk hmid
      rw [htook_other j (hne j ej hj hjid)] at hjtook
      rw [htook_other l (hne l el hl hlid)] at hltook
      exact h.sole j l ej el hj hl hjid hlid hjtook hltook
  · obtain ⟨added, heffects, hnodup, hadded⟩ := h.recorded
    have hnew : ∀ effect, (i, effect) ∉ added := by
      intro effect hmem
      obtain ⟨_, -, htook, -⟩ := (hadded i effect).1 hmem
      rw [hnone] at htook
      cases htook
    refine ⟨added ++ [(i, errand.script.effect)], ?_, ?_, fun j effect => ?_⟩
    · show db.effects ++ _ = _
      rw [heffects, List.append_assoc]
    · rw [List.map_append, List.nodup_append]
      refine ⟨hnodup, List.nodup_singleton _, fun a ha b hb => ?_⟩
      obtain rfl := List.mem_singleton.1 hb
      rintro rfl
      obtain ⟨⟨_, effect⟩, hmem, rfl⟩ := List.mem_map.1 ha
      exact hnew effect hmem
    · rw [List.mem_append, hadded, List.mem_singleton]
      by_cases hj : j = i
      · subst hj
        rw [htook_self, hnone, herrand]
        simp
      · rw [htook_other j hj]
        simp [hj]

/-! ### Every call keeps the invariant -/

/-- The rows under other keys may change. -/
theorem Fits.claim {held : Option KeyRow} {transaction : Option (Transaction E)}
    {committed : Option KeyRow} {errand : Errand E} (hid : errand.id ≠ k) (hheld : held = none)
    {snapshot : KeyId → Option KeyRow}
    (htransaction : transaction = some ⟨errand.tenant, snapshot, none⟩)
    (claim : Except Fault (Result Claim)) :
    Fits platform k errand held transaction committed (Errand.claimed claim) := by
  have hrow : ∀ state, held = errand.rowAt k state := fun state => by
    rw [hheld, Errand.rowAt, if_neg hid]
  rcases claim with fault | refusal | ⟨outcome, answer⟩
  · exact fun _ => hheld
  · exact fun _ => hheld
  · cases outcome with
    | taken => exact ⟨hrow _, snapshot, htransaction⟩
    | replay => exact ⟨hheld, fun h => absurd h hid, snapshot, htransaction⟩
    | inFlight => exact ⟨hheld, fun h => absurd h hid, snapshot, htransaction⟩

theorem took_claimed (claim : Except Fault (Result Claim)) :
    (Errand.claimed claim).took = none := by
  rcases claim with fault | refusal | ⟨outcome, answer⟩
  · rfl
  · rfl
  · cases outcome <;> rfl

theorem took_recorded (saved : SavedAnswer) (changed : Nat) :
    (Errand.recorded saved changed).took = none := by
  unfold Errand.recorded
  split <;> rfl

/-- An errand that writes the row of its own key, which nobody has committed, keeps the
invariant. -/
theorem KeyInvariant.write (h : KeyInvariant platform errands k before stages db) {i : ι}
    {errand : Errand E} (herrand : errands i = some errand) {stage : Stage} {state : KeyState}
    {row : KeyRow} (hready : db.keys.isFree i errand.id = true) (hold : (stages i).took = none)
    (hnew : stage.took = none)
    (hrow : errand.id = k → row = ⟨errand.fingerprint, state, errand.expiresAt⟩)
    (hfree : errand.id = k → db.keys.committed k = none)
    (hheld : errand.id ≠ k → db.keys.heldBy i k = none)
    (hfits : Fits platform k errand (errand.rowAt k state) (db.transactions i)
      (db.keys.committed k) stage) :
    KeyInvariant platform errands k before (Function.update stages i stage)
      { db with keys := db.keys.write i errand.id row } := by
  have hwritten : (db.keys.write i errand.id row).heldBy i k = errand.rowAt k state := by
    rw [Versions.heldBy_write, Errand.rowAt]
    by_cases hid : errand.id = k
    · rw [if_pos hid, if_pos hid, hrow hid]
    · rw [if_neg hid, if_neg hid, hheld hid]
  refine h.quiet rfl rfl (fun j hj => Versions.heldBy_write_of_ne hready hj) (fun j hj => rfl)
    hold hnew ?_ fun held hwas => ?_
  · rw [herrand]
    show Fits platform k errand ((db.keys.write i errand.id row).heldBy i k) _ _ stage
    rwa [hwritten]
  · have hwas : (db.keys.write i errand.id row).heldBy i k = some held := hwas
    rw [hwritten, Errand.rowAt] at hwas
    by_cases hid : errand.id = k
    · exact hfree hid
    · rw [if_neg hid] at hwas
      cases hwas

/-- The claiming statement keeps the invariant. -/
theorem KeyInvariant.claim (h : KeyInvariant platform errands k before stages db) {i : ι}
    {errand : Errand E} (herrand : errands i = some errand) (hstage : stages i = .asking)
    (hready : db.keys.isFree i errand.id = true) {snapshot : KeyId → Option KeyRow}
    (htransaction : db.transactions i = some ⟨errand.tenant, snapshot, none⟩) :
    KeyInvariant platform errands k before
      (Function.update stages i (errand.next platform .asking
        (.claim i errand.tenant errand.key errand.fingerprint errand.expiresAt)
        (db.claim ⟨errand.tenant, snapshot, none⟩ i errand.tenant errand.key errand.fingerprint
          errand.expiresAt).1))
      (db.claim ⟨errand.tenant, snapshot, none⟩ i errand.tenant errand.key errand.fingerprint
        errand.expiresAt).2 := by
  have hfits := h.fits i
  rw [herrand, hstage] at hfits
  obtain ⟨hheld, snapshot', hsame, hsnapshot⟩ := hfits
  rw [htransaction] at hsame
  obtain rfl : snapshot = snapshot' := by simpa using hsame
  have hnone : (stages i).took = none := by rw [hstage]; rfl
  simp only [Postgres.claim, if_true]
  split
  · rename_i hvisible
    -- The key was free: the row is inserted.
    refine h.write herrand hready hnone rfl (fun _ => rfl) (fun hid => ?_) (fun _ => hheld)
      ⟨rfl, snapshot, htransaction⟩
    subst hid
    exact (Versions.visible_eq_none.1 hvisible).2
  · rename_i found hvisible
    -- The key was there: what is returned is what the snapshot has.
    refine h.quiet rfl rfl (fun j hj => rfl) (fun j hj => rfl) hnone (took_claimed _) ?_
      (h.fresh i)
    rw [herrand]
    by_cases hid : errand.id = k
    · subst hid
      show Fits platform errand.id errand _ _ _ (Errand.claimed _)
      cases hrow : snapshot (errand.tenant, errand.key) with
      | none => exact fun _ => hheld
      | some row =>
        have hcommitted := hsnapshot row hrow
        simp only [claimOf, Option.toList_some, List.map_cons, Bool.false_eq_true, if_false]
        by_cases hfingerprint : row.fingerprint = errand.fingerprint
        · rw [if_neg (not_not_intro hfingerprint)]
          have hrows : ∀ served : Served,
              (served.outcome = .replay ∧ row.state = .completed served.answer ∨
                served.outcome = .inFlight ∧ row.state = .inProgress) →
              FromRow errand.id errand served (db.keys.committed errand.id) :=
            fun served hserved _ => ⟨row, hcommitted, hfingerprint, hserved⟩
          cases hstate : row.state with
          | inProgress => exact ⟨hheld, hrows _ (Or.inr ⟨rfl, hstate⟩), snapshot, htransaction⟩
          | completed answer =>
            exact ⟨hheld, hrows _ (Or.inl ⟨rfl, hstate⟩), snapshot, htransaction⟩
        · rw [if_pos hfingerprint]
          exact fun _ => hheld
    · exact Fits.claim hid hheld htransaction _

/-- The statement that records the answer keeps the invariant. -/
theorem KeyInvariant.complete (h : KeyInvariant platform errands k before stages db) {i : ι}
    {errand : Errand E} {saved : SavedAnswer} (herrand : errands i = some errand)
    (hstage : stages i = .worked saved) (hready : db.keys.isFree i errand.id = true)
    {snapshot : KeyId → Option KeyRow}
    (htransaction : db.transactions i =
      some ⟨errand.tenant, snapshot, some errand.script.effect⟩) :
    KeyInvariant platform errands k before
      (Function.update stages i (errand.next platform (.worked saved)
        (.complete i errand.tenant errand.key saved)
        (db.complete ⟨errand.tenant, snapshot, some errand.script.effect⟩ i errand.tenant
          errand.key saved).1))
      (db.complete ⟨errand.tenant, snapshot, some errand.script.effect⟩ i errand.tenant errand.key
        saved).2 := by
  have hfits := h.fits i
  rw [herrand, hstage] at hfits
  obtain ⟨hheld, hsaves, -⟩ := hfits
  have hnone : (stages i).took = none := by rw [hstage]; rfl
  have hnotHeld : errand.id ≠ k → db.keys.heldBy i k = none := fun hid => by
    rw [hheld, Errand.rowAt, if_neg hid]
  have hfailed : ∀ fault, FitsRequest platform k (db.keys.heldBy i k) (db.transactions i)
      (db.keys.committed k) (.failed fault) (errands i) := by
    intro fault
    rw [herrand]
    exact hnotHeld
  simp only [Postgres.complete, if_true]
  split
  · rename_i fingerprint expiresAt hvisible
    split
    · -- One row was there in progress: it is completed.
      refine h.write herrand hready hnone (took_recorded saved 1) (fun hid => ?_) (fun hid => ?_)
        hnotHeld ⟨rfl, hsaves, snapshot, htransaction⟩
      · subst hid
        have hmine : db.keys.visible i errand.id =
            some ⟨errand.fingerprint, .inProgress, errand.expiresAt⟩ := by
          rw [Versions.visible, hheld, Errand.rowAt, if_pos rfl]
          rfl
        have hsame := hmine.symm.trans hvisible
        simp only [Option.some.injEq, KeyRow.mk.injEq] at hsame
        rw [hsame.1, hsame.2.2]
      · rw [Errand.rowAt, if_pos hid] at hheld
        exact h.fresh i _ hheld
    · exact h.quiet rfl rfl (fun j hj => rfl) (fun j hj => rfl) hnone rfl (hfailed _)
        (h.fresh i)
  · exact h.quiet rfl rfl (fun j hj => rfl) (fun j hj => rfl) hnone (took_recorded saved 0)
      (hfailed _) (h.fresh i)

/-- The end of a transaction that commits nothing under the key keeps the invariant. -/
theorem KeyInvariant.finish (h : KeyInvariant platform errands k before stages db) {i : ι}
    {errand : Errand E} (herrand : errands i = some errand) {outcome : Except Fault Served}
    (hold : (stages i).took = none) (hnew : (Stage.ended outcome).took = none)
    (hcommitted : db'.keys.committed k = db.keys.committed k) (heffects : db'.effects = db.effects)
    (hself : db'.keys.heldBy i k = none)
    (hheld : ∀ j, j ≠ i → db'.keys.heldBy j k = db.keys.heldBy j k)
    (htransactions : db'.transactions = Function.update db.transactions i none)
    (hfits : Fits platform k errand none none (db.keys.committed k) (.ended outcome)) :
    KeyInvariant platform errands k before (Function.update stages i (.ended outcome)) db' := by
  refine h.quiet hcommitted heffects hheld (fun j hj => ?_) hold hnew ?_ fun row hrow => ?_
  · rw [htransactions, Function.update_of_ne hj]
  · rw [herrand, hself, htransactions, Function.update_self, hcommitted]
    exact hfits
  · rw [hself] at hrow
    cases hrow

/-- **Every call keeps the invariant.** -/
theorem keyInvariant_preserved (platform : Platform) (errands : ι → Option (Errand E)) (k : KeyId)
    (before : List (ι × E)) :
    Automaton.Preserves (fun i => servingAutomaton platform i (errands i)) postgres
      (KeyInvariant platform errands k before) := by
  intro stages db i op h hallowed hready
  have hfits := h.fits i
  cases herrand : errands i with
  | none =>
    simp only [herrand] at hallowed
    exact hallowed.elim
  | some errand =>
    have hadvance : ∀ answer, Automaton.advance (fun i => servingAutomaton platform i (errands i))
        stages i op answer =
          Function.update stages i (errand.next platform (stages i) op answer) := by
      intro answer
      simp only [Automaton.advance, herrand]
      rfl
    have hdue : errand.due i (stages i) = some op := by
      simp only [herrand] at hallowed
      exact hallowed
    rw [herrand] at hfits
    rw [hadvance]
    cases hstage : stages i with
    | idle =>
      rw [hstage] at hdue hfits
      obtain rfl := Option.some.inj hdue
      refine h.quiet rfl rfl (fun j hj => rfl) (fun j hj => Function.update_of_ne hj ..)
        (by rw [hstage]; rfl) rfl ?_ (h.fresh i)
      rw [herrand]
      exact ⟨hfits.1, _, Function.update_self ..⟩
    | opened =>
      rw [hstage] at hdue hfits
      obtain rfl := Option.some.inj hdue
      obtain ⟨hheld, snapshot, htransaction⟩ := hfits
      simp only [postgres, Postgres.exec, htransaction]
      refine h.quiet rfl rfl (fun j hj => rfl) (fun j hj => Function.update_of_ne hj ..)
        (by rw [hstage]; rfl) rfl ?_ (h.fresh i)
      rw [herrand]
      refine ⟨hheld, _, Function.update_self .., fun row hrow => ?_⟩
      rwa [Versions.visible_of_not_heldBy hheld] at hrow
    | asking =>
      rw [hstage] at hdue hfits
      obtain rfl := Option.some.inj hdue
      obtain ⟨-, snapshot, htransaction, -⟩ := hfits
      simp only [postgres, Postgres.exec, htransaction]
      exact h.claim herrand hstage hready htransaction
    | holding =>
      rw [hstage] at hdue hfits
      obtain rfl := Option.some.inj hdue
      obtain ⟨hheld, snapshot, htransaction⟩ := hfits
      simp only [postgres, Postgres.exec, htransaction]
      have hend : ∀ stage : Stage, stage.took = none →
          Fits platform k errand (db.keys.heldBy i k)
            (some ⟨errand.tenant, snapshot, some errand.script.effect⟩) (db.keys.committed k)
              stage →
          KeyInvariant platform errands k before (Function.update stages i stage)
            (db.withTransaction i
              (some ⟨errand.tenant, snapshot, some errand.script.effect⟩)) := by
        intro stage htook hstageFits
        refine h.quiet rfl rfl (fun j hj => rfl) (fun j hj => Function.update_of_ne hj ..)
          (by rw [hstage]; rfl) htook ?_ (h.fresh i)
        have hself : (db.withTransaction i
            (some ⟨errand.tenant, snapshot, some errand.script.effect⟩)).transactions i =
            some ⟨errand.tenant, snapshot, some errand.script.effect⟩ := Function.update_self ..
        rw [herrand, hself]
        exact hstageFits
      have hfailed : errand.id ≠ k → db.keys.heldBy i k = none := fun hid => by
        rw [hheld, Errand.rowAt, if_neg hid]
      cases houtcome : errand.script.outcome with
      | error exception => exact hend _ rfl hfailed
      | ok result =>
        cases result with
        | error refusal => exact hend _ rfl hfailed
        | ok value => exact hend _ rfl ⟨hheld, ⟨value, houtcome, rfl⟩, snapshot, rfl⟩
    | worked saved =>
      rw [hstage] at hdue hfits
      obtain rfl := Option.some.inj hdue
      obtain ⟨-, -, snapshot, htransaction⟩ := hfits
      simp only [postgres, Postgres.exec, htransaction]
      exact h.complete herrand hstage hready htransaction
    | settled served =>
      rw [hstage] at hdue hfits
      obtain rfl := Option.some.inj hdue
      have hnone : (stages i).took = none := by rw [hstage]; rfl
      obtain ⟨outcome, saved⟩ := served
      cases outcome with
      | taken =>
        obtain ⟨-, -, snapshot, htransaction⟩ := hfits
        simp only [postgres, Postgres.exec, htransaction]
        exact h.commit herrand hstage
      | replay =>
        obtain ⟨hheld, hrow, snapshot, htransaction⟩ := hfits
        simp only [postgres, Postgres.exec, htransaction]
        exact h.finish herrand hnone rfl (Versions.visible_of_not_heldBy hheld)
          (List.append_nil _) Versions.heldBy_publish_self
          (fun j hj => Versions.heldBy_publish_of_ne hj) rfl ⟨rfl, rfl, hrow⟩
      | inFlight =>
        obtain ⟨hheld, hrow, snapshot, htransaction⟩ := hfits
        simp only [postgres, Postgres.exec, htransaction]
        exact h.finish herrand hnone rfl (Versions.visible_of_not_heldBy hheld)
          (List.append_nil _) Versions.heldBy_publish_self
          (fun j hj => Versions.heldBy_publish_of_ne hj) rfl ⟨rfl, rfl, hrow⟩
    | failed fault =>
      rw [hstage] at hdue
      obtain rfl := Option.some.inj hdue
      exact h.finish herrand (by rw [hstage]; rfl) rfl rfl rfl Versions.heldBy_discard_self
        (fun j hj => Versions.heldBy_discard_of_ne hj) rfl ⟨rfl, rfl⟩
    | ended outcome =>
      rw [hstage] at hdue
      cases hdue

end Invariant

/-! ### Runs of handlers -/

/-- Requests on their way through handlers: of each, its handler, what it meets and what
the client sent. -/
structure Traffic (ι E : Type) where
  handler : ι → Handler
  arrival : ι → Arrival E
  request : ι → Request

/-- A step of a run over the database of keys. -/
abbrev KeyStep (ι E : Type) : Type :=
  Step ι (Statement.Answer : Statement ι E → Type) Fault (Postgres ι E)

namespace Traffic

variable (traffic : Traffic ι E) (platform : Platform)

/-- How each request leaves the way up to the tenant's area. -/
def entrance (i : ι) : Except Exception Entrance :=
  enter platform (traffic.handler i) (traffic.arrival i) (traffic.request i)

/-- The errand of each request that is let in to change something. -/
def errand (i : ι) : Option (Errand E) :=
  errandOf platform (traffic.handler i) (traffic.arrival i) (traffic.request i)

/-- The requests, each served by its handler in a transaction of its own. -/
def pool (i : ι) : Work ι E Response :=
  serve platform (traffic.handler i) (traffic.arrival i) (traffic.request i) i

/-- Every request changes something. -/
def Mutating : Prop := ∀ i, (traffic.request i).method.mutating = true

/-- The stage of each request after some steps. -/
def stages [DecidableEq ι] (steps : List (KeyStep ι E)) (i : ι) : Stage :=
  (servingAutomaton platform i (traffic.errand platform i)).after .idle (historyOf i steps)

variable {traffic}

theorem conforms (hmutating : traffic.Mutating) (i : ι) :
    (servingAutomaton platform i (traffic.errand platform i)).Conforms
      (servingEnds platform (traffic.arrival i) (traffic.request i) (traffic.errand platform i))
      .idle (traffic.pool platform i) :=
  conforms_serve (hmutating i) i

section Runs

variable {platform} [DecidableEq ι] {k : KeyId} {db db' : Postgres ι E} {steps : List (KeyStep ι E)}
  {pool' : ι → Work ι E Response}

theorem keyInvariant (hmutating : traffic.Mutating) (hidle : db.Idle)
    (hfree : db.keys.committed k = none)
    (hrun : Runs postgres (traffic.pool platform) db steps pool' db') :
    KeyInvariant platform (traffic.errand platform) k db.effects
      (traffic.stages platform steps) db' :=
  hrun.preserves (conforms platform hmutating)
    (keyInvariant_preserved platform (traffic.errand platform) k db.effects) (.start hidle hfree)

/-- Before each step the invariant holds too, and the call that is made is the one that is
due in the stage of its request. -/
theorem keyInvariant_at (hmutating : traffic.Mutating) (hidle : db.Idle)
    (hfree : db.keys.committed k = none) {early late : List (KeyStep ι E)} {t : KeyStep ι E}
    (hrun : Runs postgres (traffic.pool platform) db (early ++ t :: late) pool' db') :
    KeyInvariant platform (traffic.errand platform) k db.effects
        (traffic.stages platform early) t.before ∧
      ∃ errand, traffic.errand platform t.thread = some errand ∧
        errand.due t.thread (traffic.stages platform early t.thread) = some t.entry.op := by
  obtain ⟨hinvariant, hallowed, -⟩ := hrun.preserves_at (conforms platform hmutating)
    (keyInvariant_preserved platform (traffic.errand platform) k db.effects) (.start hidle hfree)
  refine ⟨hinvariant, ?_⟩
  cases herrand : traffic.errand platform t.thread with
  | none =>
    simp only [herrand] at hallowed
    exact hallowed.elim
  | some errand =>
    refine ⟨errand, rfl, ?_⟩
    have hdue : (servingAutomaton platform t.thread (traffic.errand platform t.thread)).allows
        (traffic.stages platform early t.thread) t.entry.op := hallowed
    simp only [herrand] at hdue
    exact hdue

/-- How a request that is done was answered: with a refusal on its way, or from the end of
its errand. -/
theorem answered_of_done (hmutating : traffic.Mutating)
    (hrun : Runs postgres (traffic.pool platform) db steps pool' db') {i : ι}
    {response : Response} (hdone : pool' i = .done response) :
    (traffic.errand platform i = none ∧ response.status ≠ kOk) ∨
      ∃ errand result, traffic.errand platform i = some errand ∧
        response = answer platform (headersOf (traffic.arrival i) (traffic.request i)) result
          (occasionOf (traffic.arrival i) (traffic.request i)) (some errand.key) ∧
        traffic.stages platform steps i = .ended (result.mapError .refused) := by
  have hconforms := hrun.conforms (conforms platform hmutating) i
  rw [hdone] at hconforms
  have hends : servingEnds platform (traffic.arrival i) (traffic.request i)
      (traffic.errand platform i) (traffic.stages platform steps i) (.ok response) := hconforms
  cases herrand : traffic.errand platform i with
  | none =>
    rw [herrand] at hends
    exact Or.inl ⟨rfl, hends response rfl⟩
  | some errand =>
    rw [herrand] at hends
    refine Or.inr ⟨errand, ?_⟩
    cases hstage : traffic.stages platform steps i with
    | ended outcome =>
      rw [hstage] at hends
      rcases outcome with (failure | exception) | served
      · exact ⟨.error failure, rfl, Except.ok.inj hends, rfl⟩
      · cases hends
      · exact ⟨.ok served, rfl, Except.ok.inj hends, rfl⟩
    | _ =>
      rw [hstage] at hends
      exact hends.elim

end Runs

end Traffic

end Pdr.Http
