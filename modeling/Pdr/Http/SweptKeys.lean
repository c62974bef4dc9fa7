import Pdr.Http.ConcurrentTake
import Pdr.Http.SavedAnswers
import Pdr.StoreProgram.Beside

/-!
# Keys that are swept

`db/http/prune.sql` deletes the keys whose time has passed. It is run beside the service, as
often as somebody likes, at any moment of the requests under way. Nothing else in the service
looks at the time of a key: a key protects from repetition until it is swept.

## Main definitions

* `Pdr.Http.Upkeep`, `Pdr.Http.Postgres.prune`: the sweep.
* `Pdr.Http.Traffic.sweptPool`: requests and sweeps, all at once.
* `Pdr.Http.Errand.Holds`: what a request has of the database in each of its stages.
* `Pdr.Http.Stands`: a row that an answered request has left.

## Main results

* `Pdr.Http.key_is_taken_iff_swept`: when a request gets a key that was used before.
* `Pdr.Http.one_effect_until_swept`: between two works done under one key there is a sweep.
-/

namespace Pdr.Http

open StoreProgram Program

variable {ι κ E : Type}

/-! ### The sweep -/

/-- What is asked of the database beside the service. -/
inductive Upkeep where
  /-- `db/http/prune.sql`, run at `now`. -/
  | prune (now : Int)

/-- What the upkeep returns. -/
abbrev Upkeep.Answer : Upkeep → Type := fun _ => Unit

/-- `delete from http_idempotency_key where expires_at <= now()`, of all tenants at once. Rows
that are not committed are not seen, and no transaction changes a committed row that has its
answer, so there is nobody to wait for. -/
def Postgres.prune (db : Postgres ι E) (now : Int) : Postgres ι E :=
  { db with
    keys := { db.keys with
      committed := fun k =>
        (db.keys.committed k).filter fun row => !decide (row.expiresAt ≤ now) } }

/-- The database as those see it who look after it. -/
def upkeep : Machine Upkeep.Answer Fault (Postgres ι E) where
  exec
    | .prune now, db => (.ok (), db.prune now)

/-- A computation among requests and sweeps. -/
abbrev SweptWork (ι E α : Type) : Type :=
  Program (Both (Statement.Answer : Statement ι E → Type) Upkeep.Answer) Fault α

/-- A step of a run of requests and sweeps. -/
abbrev SweptStep (ι κ E : Type) : Type :=
  Step (ι ⊕ κ) (Both (Statement.Answer : Statement ι E → Type) Upkeep.Answer) Fault (Postgres ι E)

/-- A sweep that takes what expires at the time. -/
def SweptStep.Sweeps (t : SweptStep ι κ E) (expiresAt : Int) : Prop :=
  ∃ now, t.entry.op = .inr (.prune now) ∧ expiresAt ≤ now

/-- The requests, each served by its handler, and sweeps at the given times. -/
def Traffic.sweptPool (traffic : Traffic ι E) (platform : Platform) (times : κ → Int) :
    ι ⊕ κ → SweptWork ι E (Option Response)
  | .inl i => (traffic.pool platform i).beside some
  | .inr j => .call (.inr (.prune (times j))) fun _ => .done none

/-- The automata of requests and sweeps. A sweep has no stages of its own. -/
def Traffic.sweptAutomaton (traffic : Traffic ι E) (platform : Platform) (times : κ → Int) :
    ι ⊕ κ → Automaton (Both (Statement.Answer : Statement ι E → Type) Upkeep.Answer) Fault Stage
  | .inl i => (servingAutomaton platform i (traffic.errand platform i)).beside
  | .inr j => ⟨fun _ op => op = .inr (.prune (times j)), fun stage _ _ => stage⟩

/-- How requests and sweeps may end. -/
def Traffic.sweptEnds (traffic : Traffic ι E) (platform : Platform) :
    ι ⊕ κ → Stage → Except Fault (Option Response) → Prop
  | .inl i => fun stage outcome => ∃ own, outcome = own.map some ∧
    servingEnds platform (traffic.arrival i) (traffic.request i) (traffic.errand platform i) stage
      own
  | .inr _ => fun _ outcome => outcome = .ok none

theorem Traffic.conforms_swept {traffic : Traffic ι E} (platform : Platform) (times : κ → Int)
    (hmutating : traffic.Mutating) (thread : ι ⊕ κ) :
    (traffic.sweptAutomaton platform times thread).Conforms (traffic.sweptEnds platform thread)
      .idle (traffic.sweptPool platform times thread) := by
  cases thread with
  | inl i => exact (traffic.conforms platform hmutating i).beside some
  | inr j => exact ⟨rfl, fun _ => rfl⟩

/-! ### What a request has of the database -/

/-- The row that a request has written under the key and not committed, and its transaction,
in each of its stages. -/
def Errand.Holds (errand : Errand E) (k : KeyId) (held : Option KeyRow)
    (transaction : Option (Transaction E)) : Stage → Prop
  | .idle | .ended _ => held = none
  | .opened | .asking => held = none ∧
      ∃ snapshot, transaction = some ⟨errand.tenant, snapshot, none⟩
  | .holding => held = errand.rowAt k .inProgress ∧
      ∃ snapshot, transaction = some ⟨errand.tenant, snapshot, none⟩
  | .worked _ => held = errand.rowAt k .inProgress ∧
      ∃ snapshot, transaction = some ⟨errand.tenant, snapshot, some errand.script.effect⟩
  | .settled ⟨.taken, saved⟩ => held = errand.rowAt k (.completed saved) ∧
      ∃ snapshot, transaction = some ⟨errand.tenant, snapshot, some errand.script.effect⟩
  | .settled _ => held = none ∧ ∃ snapshot, transaction = some ⟨errand.tenant, snapshot, none⟩
  | .failed _ => True

section Steps

variable [DecidableEq ι] {db : Postgres ι E} {errand : Errand E} {i : ι} {k : KeyId}

/-- Whatever the claim was answered with, the request that got no key has written nothing. -/
theorem Errand.holds_claimed {held : Option KeyRow} {transaction : Option (Transaction E)}
    (hheld : held = none) {snapshot : KeyId → Option KeyRow}
    (htransaction : transaction = some ⟨errand.tenant, snapshot, none⟩) {rows : List ClaimRow}
    (hrows : ∀ row ∈ rows, row.mine = false) :
    errand.Holds k held transaction (Errand.claimed (claimOf rows errand.fingerprint)) := by
  cases rows with
  | nil => trivial
  | cons row rows =>
    have hmine := hrows row List.mem_cons_self
    rw [claimOf, if_neg (by rw [hmine]; exact Bool.false_ne_true)]
    by_cases hsame : row.fingerprint = errand.fingerprint
    · rw [if_neg (not_not_intro hsame)]
      cases row.state with
      | inProgress => exact ⟨hheld, snapshot, htransaction⟩
      | completed answer => exact ⟨hheld, snapshot, htransaction⟩
    · rw [if_pos hsame]
      trivial

theorem Errand.heldBy_write_id (state : KeyState) (h : errand.id ≠ k → db.keys.heldBy i k = none) :
    (db.keys.write i errand.id ⟨errand.fingerprint, state, errand.expiresAt⟩).heldBy i k =
      errand.rowAt k state := by
  rw [Versions.heldBy_write, Errand.rowAt]
  by_cases hid : errand.id = k
  · rw [if_pos hid, if_pos hid]
  · rw [if_neg hid, if_neg hid, h hid]

/-- **The next call of a request**: what it has afterwards is what the next stage asks for. -/
theorem Errand.holds_next {stage : Stage} {op : Statement ι E} (platform : Platform)
    (hdue : errand.due i stage = some op)
    (h : ∀ k, errand.Holds k (db.keys.heldBy i k) (db.transactions i) stage) :
    errand.Holds k ((postgres.exec op db).2.keys.heldBy i k)
      ((postgres.exec op db).2.transactions i)
      (errand.next platform stage op (postgres.exec op db).1) := by
  cases stage with
  | idle =>
    obtain rfl := Option.some.inj hdue
    exact ⟨h k, _, Function.update_self ..⟩
  | opened =>
    obtain rfl := Option.some.inj hdue
    obtain ⟨hheld, snapshot, htransaction⟩ := h k
    simp only [postgres, Postgres.exec, htransaction]
    exact ⟨hheld, _, Function.update_self ..⟩
  | asking =>
    obtain rfl := Option.some.inj hdue
    obtain ⟨hheld, snapshot, htransaction⟩ := h k
    simp only [postgres, Postgres.exec, htransaction, Postgres.claim, if_true]
    split
    · exact ⟨Errand.heldBy_write_id _ fun _ => hheld, snapshot, htransaction⟩
    · refine Errand.holds_claimed hheld htransaction fun row hrow => ?_
      obtain ⟨found, -, rfl⟩ := List.mem_map.1 hrow
      rfl
  | holding =>
    obtain rfl := Option.some.inj hdue
    obtain ⟨hheld, snapshot, htransaction⟩ := h k
    simp only [postgres, Postgres.exec, htransaction]
    cases errand.script.outcome with
    | error exception => trivial
    | ok result =>
      cases result with
      | error refusal => trivial
      | ok value => exact ⟨hheld, snapshot, Function.update_self ..⟩
  | worked saved =>
    obtain rfl := Option.some.inj hdue
    obtain ⟨hheld, snapshot, htransaction⟩ := h k
    obtain ⟨hown, -⟩ := h errand.id
    have hnotHeld : errand.id ≠ k → db.keys.heldBy i k = none := fun hid => by
      rw [hheld, Errand.rowAt, if_neg hid]
    have hvisible : db.keys.visible i (errand.tenant, errand.key) =
        some ⟨errand.fingerprint, .inProgress, errand.expiresAt⟩ := by
      rw [show (errand.tenant, errand.key) = errand.id from rfl, Versions.visible, hown,
        Errand.rowAt, if_pos rfl, Option.some_or]
    simp only [postgres, Postgres.exec, htransaction, Postgres.complete, if_true, hvisible]
    split
    · exact ⟨Errand.heldBy_write_id _ hnotHeld, snapshot, htransaction⟩
    · trivial
  | settled served =>
    obtain rfl := Option.some.inj hdue
    have htransaction : ∃ transaction, db.transactions i = some transaction := by
      obtain ⟨outcome, saved⟩ := served
      cases outcome with
      | taken => exact ⟨_, (h k).2.choose_spec⟩
      | replay => exact ⟨_, (h k).2.choose_spec⟩
      | inFlight => exact ⟨_, (h k).2.choose_spec⟩
    obtain ⟨transaction, htransaction⟩ := htransaction
    simp only [postgres, Postgres.exec, htransaction]
    exact Versions.heldBy_publish_self
  | failed fault =>
    obtain rfl := Option.some.inj hdue
    exact Versions.heldBy_discard_self
  | ended outcome => cases hdue

omit [DecidableEq ι] in
theorem Errand.session_of_due {stage : Stage} {op : Statement ι E}
    (h : errand.due i stage = some op) : op.session = i := by
  cases stage with
  | ended outcome => cases h
  | _ =>
    obtain rfl := Option.some.inj h
    rfl

/-- What every request has of the database, under every key. -/
def Held (errands : ι → Option (Errand E)) (stages : ι → Stage) (db : Postgres ι E) : Prop :=
  ∀ i k, match errands i with
    | none => db.keys.heldBy i k = none
    | some errand => errand.Holds k (db.keys.heldBy i k) (db.transactions i) (stages i)

theorem Held.start (errands : ι → Option (Errand E)) (hidle : db.Idle) :
    Held errands (fun _ => .idle) db := by
  intro i k
  cases errands i with
  | none => exact hidle.2 i k
  | some errand => exact hidle.2 i k

/-- **Every call keeps what the requests have**, the sweeps among them. -/
theorem held_preserved [DecidableEq κ] (traffic : Traffic ι E) (platform : Platform)
    (times : κ → Int) :
    Automaton.Preserves (traffic.sweptAutomaton platform times) (postgres.beside upkeep)
      fun stages => Held (traffic.errand platform) fun i => stages (.inl i) := by
  intro stages db thread op h hallowed hready
  cases thread with
  | inr j =>
    obtain rfl : op = .inr (.prune (times j)) := hallowed
    intro i k
    simp only [Automaton.advance, Function.update_of_ne (Sum.inl_ne_inr : Sum.inl i ≠ Sum.inr j)]
    exact h i k
  | inl i =>
    cases op with
    | inr swept => exact hallowed.elim
    | inl op =>
      have hallowed : (servingAutomaton platform i (traffic.errand platform i)).allows
          (stages (.inl i)) op := hallowed
      have hready : postgres.ready op db = true := hready
      intro j k
      cases herrand : traffic.errand platform i with
      | none =>
        rw [herrand] at hallowed
        exact hallowed.elim
      | some errand =>
        rw [herrand] at hallowed
        have hdue : errand.due i (stages (.inl i)) = some op := hallowed
        by_cases hj : j = i
        · subst hj
          have hown : ∀ k, errand.Holds k (db.keys.heldBy j k) (db.transactions j)
              (stages (.inl j)) := fun k => by simpa only [herrand] using h j k
          simp only [Automaton.advance, Function.update_self, herrand, Traffic.sweptAutomaton]
          exact errand.holds_next platform hdue hown
        · have hsession : op.session = i := errand.session_of_due hdue
          obtain ⟨htransaction, hheld⟩ := Postgres.exec_of_ne (by rwa [hsession]) hready
          have hne : (Sum.inl j : ι ⊕ κ) ≠ Sum.inl i := fun h => hj (Sum.inl.inj h)
          simp only [Automaton.advance, Function.update_of_ne hne]
          have hwas := h j k
          simp only [← htransaction, ← hheld k] at hwas
          exact hwas

/-! ### A row that stands -/

/-- The row is committed with its answer, and nobody is writing the key. -/
structure Stands (k : KeyId) (row : KeyRow) (db : Postgres ι E) : Prop where
  committed : db.keys.committed k = some row
  quiet : db.keys.pending k = none
  answered : row.state ≠ .inProgress

variable {row : KeyRow}

theorem Stands.visible (h : Stands k row db) (i : ι) : db.keys.visible i k = some row := by
  have hheld : db.keys.heldBy i k = none := by rw [Versions.heldBy, h.quiet]
  rw [Versions.visible, hheld, h.committed, Option.none_or]

omit [DecidableEq ι] in
theorem Stands.write (h : Stands k row db) {other : KeyId} {written : KeyRow} (hne : other ≠ k) :
    Stands k row { db with keys := db.keys.write i other written } where
  committed := h.committed
  quiet := (Function.update_of_ne (Ne.symm hne) ..).trans h.quiet
  answered := h.answered

/-- No call of the service takes a row that stands. -/
theorem Stands.exec (h : Stands k row db) (op : Statement ι E) :
    Stands k row (postgres.exec op db).2 := by
  have hkept : ∀ {db' : Postgres ι E}, db'.keys = db.keys → Stands k row db' := by
    intro db' hkeys
    exact ⟨hkeys ▸ h.committed, hkeys ▸ h.quiet, h.answered⟩
  have hunheld : ∀ i, db.keys.heldBy i k = none := fun i => by rw [Versions.heldBy, h.quiet]
  cases op with
  | open_ session tenant => exact hkept rfl
  | snapshot session =>
    simp only [postgres, Postgres.exec]
    split <;> exact hkept rfl
  | run session script =>
    simp only [postgres, Postgres.exec]
    split <;> exact hkept rfl
  | claim session tenant key fingerprint expiresAt =>
    simp only [postgres, Postgres.exec, Postgres.claim]
    split
    · exact h
    · split
      · split
        · rename_i hvisible
          refine h.write ?_
          rintro rfl
          rw [h.visible] at hvisible
          cases hvisible
        · exact h
      · exact h
  | complete session tenant key answer =>
    simp only [postgres, Postgres.exec, Postgres.complete]
    split
    · exact h
    · split
      · split
        · rename_i hvisible
          split
          · refine h.write ?_
            rintro rfl
            rw [h.visible] at hvisible
            exact h.answered (congrArg KeyRow.state (Option.some.inj hvisible))
          · exact h
        · exact h
      · exact h
  | commit session =>
    simp only [postgres, Postgres.exec]
    split
    · exact h
    · refine ⟨(h.visible session), ?_, h.answered⟩
      show (if (db.keys.heldBy session k).isSome then none else db.keys.pending k) = none
      rw [h.quiet, ite_self]
  | rollback session =>
    refine ⟨h.committed, ?_, h.answered⟩
    show (if (db.keys.heldBy session k).isSome then none else db.keys.pending k) = none
    rw [h.quiet, ite_self]

omit [DecidableEq ι] in
/-- A sweep takes no row before its time. -/
theorem Stands.prune (h : Stands k row db) {now : Int} (hnow : now < row.expiresAt) :
    Stands k row (db.prune now) where
  committed := by
    show (db.keys.committed k).filter _ = some row
    rw [h.committed, Option.filter_some, if_pos (by simpa using hnow)]
  quiet := h.quiet
  answered := h.answered

omit [DecidableEq ι] in
theorem Postgres.committed_prune {now : Int} (h : (db.prune now).keys.committed k = some row) :
    db.keys.committed k = some row ∧ now < row.expiresAt := by
  obtain ⟨hrow, hkept⟩ := Option.filter_eq_some_iff.1 h
  exact ⟨hrow, by simpa using hkept⟩

end Steps

/-! ### Runs with sweeps -/

/-- The step commits what request `i` has done. -/
structure LeavesWork (t : SweptStep ι κ E) (i : ι) (effect : E) : Prop where
  commits : t.entry.op = .inl (.commit i)
  works : t.after.effects = t.before.effects ++ [(i, effect)]

/-- Everything that was done under the key in the given steps has been swept in them since, by a
sweep not earlier than the time to which it was kept. -/
def SweptSince (traffic : Traffic ι E) (platform : Platform) (k : KeyId)
    (steps : List (SweptStep ι κ E)) : Prop :=
  ∀ before t between, steps = before ++ t :: between → ∀ i errand,
    traffic.errand platform i = some errand → errand.id = k →
    LeavesWork t i errand.script.effect → ∃ v ∈ between, v.Sweeps errand.expiresAt

section Runs

variable [DecidableEq ι] [DecidableEq κ] {traffic : Traffic ι E} {platform : Platform}
  {times : κ → Int} {k : KeyId} {row : KeyRow} {db db' : Postgres ι E}
  {pool' : ι ⊕ κ → SweptWork ι E (Option Response)} {early middle late : List (SweptStep ι κ E)}
  {t u : SweptStep ι κ E}

/-- Before each step of a run the requests have what they should, and a call of the service is
the one that is due. -/
theorem held_at (hmutating : traffic.Mutating) (hidle : db.Idle)
    (hrun : Runs (postgres.beside upkeep) (traffic.sweptPool platform times) db
      (early ++ t :: late) pool' db') :
    ∃ stages : ι → Stage, Held (traffic.errand platform) stages t.before ∧
      ∀ op, t.entry.op = .inl op → ∃ i errand, traffic.errand platform i = some errand ∧
        errand.due i (stages i) = some op := by
  obtain ⟨hheld, hallowed, -⟩ := hrun.preserves_at (traffic.conforms_swept platform times hmutating)
    (held_preserved traffic platform times) (Held.start _ hidle)
  refine ⟨_, hheld, fun op hop => ?_⟩
  generalize t.thread = thread at hallowed
  rw [hop] at hallowed
  cases thread with
  | inr j => cases hallowed
  | inl i =>
    have hdue : (servingAutomaton platform i (traffic.errand platform i)).allows
        ((traffic.sweptAutomaton platform times (.inl i)).after .idle (historyOf (.inl i) early))
          op := hallowed
    cases herrand : traffic.errand platform i with
    | none =>
      rw [herrand] at hdue
      exact hdue.elim
    | some errand =>
      rw [herrand] at hdue
      exact ⟨i, errand, herrand, hdue⟩

omit [DecidableEq ι] [DecidableEq κ] in
theorem settled_of_due_commit {i j : ι} {errand : Errand E} {stage : Stage}
    (h : errand.due i stage = some (.commit j)) : i = j ∧ ∃ served, stage = .settled served := by
  cases stage with
  | settled served => exact ⟨by simpa [Errand.due] using h, served, rfl⟩
  | _ => simp [Errand.due] at h

/-- **A commit of the service**: the request leaves its work and the row of its key with the
answer; or it had found an answer, and leaves nothing. -/
theorem commit_cases (early late : List (SweptStep ι κ E)) (hmutating : traffic.Mutating)
    (hidle : db.Idle)
    (hrun : Runs (postgres.beside upkeep) (traffic.sweptPool platform times) db
      (early ++ t :: late) pool' db') {i : ι} (hcommit : t.entry.op = .inl (.commit i)) :
    ∃ errand, traffic.errand platform i = some errand ∧
      ((∃ saved, LeavesWork t i errand.script.effect ∧
          t.before.keys.heldBy i errand.id =
            some ⟨errand.fingerprint, .completed saved, errand.expiresAt⟩ ∧
          Stands errand.id ⟨errand.fingerprint, .completed saved, errand.expiresAt⟩ t.after ∧
          ∀ k, k ≠ errand.id → t.after.keys.committed k = t.before.keys.committed k) ∨
        t.after.effects = t.before.effects ∧
          t.after.keys.committed = t.before.keys.committed) := by
  obtain ⟨stages, hheld, hdue⟩ := held_at hmutating hidle hrun
  obtain ⟨j, errand, herrand, hdue⟩ := hdue _ hcommit
  obtain ⟨rfl, ⟨outcome, saved⟩, hstage⟩ := settled_of_due_commit hdue
  have hown : ∀ k, errand.Holds k (t.before.keys.heldBy j k) (t.before.transactions j)
      (.settled ⟨outcome, saved⟩) := fun k => by simpa only [herrand, hstage] using hheld j k
  have hafter : t.after = (postgres.exec (.commit j) t.before).2 :=
    hrun.after_eq (List.mem_append_right _ List.mem_cons_self) hcommit
  refine ⟨errand, herrand, ?_⟩
  have hnothing : (∀ k, t.before.keys.heldBy j k = none) →
      (∃ snapshot, t.before.transactions j = some ⟨errand.tenant, snapshot, none⟩) →
      t.after.effects = t.before.effects ∧ t.after.keys.committed = t.before.keys.committed := by
    rintro hnone ⟨snapshot, htransaction⟩
    rw [hafter]
    simp only [postgres, Postgres.exec, htransaction]
    refine ⟨List.append_nil _, funext fun k => ?_⟩
    exact Versions.visible_of_not_heldBy (hnone k)
  cases outcome with
  | replay => exact Or.inr (hnothing (fun k => (hown k).1) (hown errand.id).2)
  | inFlight => exact Or.inr (hnothing (fun k => (hown k).1) (hown errand.id).2)
  | taken =>
    obtain ⟨hmine, snapshot, htransaction⟩ := hown errand.id
    rw [Errand.rowAt, if_pos rfl] at hmine
    have heffects : t.after.effects = t.before.effects ++ [(j, errand.script.effect)] := by
      rw [hafter]
      simp only [postgres, Postgres.exec, htransaction]
      rfl
    have hkeys : t.after.keys = t.before.keys.publish j := by
      rw [hafter]
      simp only [postgres, Postgres.exec, htransaction]
    refine Or.inl ⟨saved, ⟨hcommit, heffects⟩, hmine, ⟨?_, ?_, by simp⟩, fun k hk => ?_⟩
    · rw [hkeys, Versions.committed_publish, Versions.visible, hmine, Option.some_or]
    · rw [hkeys]
      show (if (t.before.keys.heldBy j errand.id).isSome then none else _) = none
      rw [hmine, Option.isSome_some, if_pos rfl]
    · rw [hkeys, Versions.committed_publish]
      refine Versions.visible_of_not_heldBy ?_
      rw [(hown k).1, Errand.rowAt, if_neg (Ne.symm hk)]

/-- A row that comes to be committed is left by a request with its work. -/
theorem leavesWork_of_committed (early late : List (SweptStep ι κ E))
    (hmutating : traffic.Mutating) (hidle : db.Idle)
    (hrun : Runs (postgres.beside upkeep) (traffic.sweptPool platform times) db
      (early ++ t :: late) pool' db')
    (hwas : t.before.keys.committed k ≠ some row) (his : t.after.keys.committed k = some row) :
    ∃ i errand, traffic.errand platform i = some errand ∧ errand.id = k ∧
      LeavesWork t i errand.script.effect ∧ row.expiresAt = errand.expiresAt := by
  have ht : t ∈ early ++ t :: late := List.mem_append_right _ List.mem_cons_self
  cases hop : t.entry.op with
  | inr swept =>
    obtain ⟨now⟩ := swept
    have hafter : t.after = t.before.prune now := hrun.after_eq ht hop
    rw [hafter] at his
    exact absurd (Postgres.committed_prune his).1 hwas
  | inl op =>
    by_cases hcommits : ∃ i, op = .commit i
    · obtain ⟨i, rfl⟩ := hcommits
      obtain ⟨errand, herrand, ⟨saved, hwork, -, hstands, hothers⟩ | ⟨-, hsame⟩⟩ :=
        commit_cases early late hmutating hidle hrun hop
      · by_cases hid : errand.id = k
        · subst hid
          rw [hstands.committed] at his
          exact ⟨i, errand, herrand, rfl, hwork, by rw [← Option.some.inj his]⟩
        · rw [hothers k (Ne.symm hid)] at his
          exact absurd his hwas
      · rw [hsame] at his
        exact absurd his hwas
    · have hafter : t.after = (postgres.exec op t.before).2 := hrun.after_eq ht hop
      rw [hafter, (Postgres.exec_of_not_commit (fun i h => hcommits ⟨i, h⟩) t.before).1] at his
      exact absurd his hwas

/-- A row that stands goes on to stand until it is swept. -/
theorem stands_until_swept (early middle late : List (SweptStep ι κ E))
    (hrun : Runs (postgres.beside upkeep) (traffic.sweptPool platform times) db
      (early ++ t :: middle ++ u :: late) pool' db') (h : Stands k row t.after)
    (hkept : ∀ v ∈ middle, ¬ v.Sweeps row.expiresAt) : Stands k row u.before := by
  refine hrun.keeps_between (fun v hv hstands => ?_) h
  have hmem : v ∈ early ++ t :: middle ++ u :: late := by simp [hv]
  cases hop : v.entry.op with
  | inl op =>
    have hafter : v.after = (postgres.exec op v.before).2 := hrun.after_eq hmem hop
    exact hafter ▸ hstands.exec op
  | inr swept =>
    obtain ⟨now⟩ := swept
    have hafter : v.after = v.before.prune now := hrun.after_eq hmem hop
    refine hafter ▸ hstands.prune ?_
    have hearly := hkept v hv
    by_contra hlate
    exact hearly ⟨now, hop, by omega⟩

/-- A claim takes its key where no row is committed. -/
theorem claim_takes_iff {i : ι} {snapshot : KeyId → Option KeyRow} {effect : Option E}
    (htransaction : db.transactions i = some ⟨k.1, snapshot, effect⟩)
    (hheld : db.keys.heldBy i k = none) (fingerprint : RequestFingerprint) (expiresAt : Int) :
    (∃ rows, (postgres.exec (.claim i k.1 k.2 fingerprint expiresAt) db).1 = .ok rows ∧
      rows.any (·.mine) = true) ↔ db.keys.committed k = none := by
  have hvisible : db.keys.visible i (k.1, k.2) = db.keys.committed k :=
    Versions.visible_of_not_heldBy hheld
  simp only [postgres, Postgres.exec, htransaction, Postgres.claim, if_true, hvisible]
  cases hcommitted : db.keys.committed k with
  | none => exact iff_of_true ⟨_, rfl, rfl⟩ rfl
  | some row =>
    refine iff_of_false ?_ (Option.some_ne_none row)
    rintro ⟨rows, hrows, hmine⟩
    obtain rfl := Except.ok.inj hrows
    obtain ⟨claimed, hclaimed, hmine⟩ := List.any_eq_true.1 hmine
    obtain ⟨_, -, rfl⟩ := List.mem_map.1 hclaimed
    cases hmine

/-- **A key protects from repetition until it is swept.** Requests and sweeps run in any order.
A request gets its key exactly if everything that was done under the key before has been swept
since. -/
theorem key_is_taken_iff_swept (hmutating : traffic.Mutating) (hidle : db.Idle)
    (hfree : db.keys.committed k = none)
    (hrun : Runs (postgres.beside upkeep) (traffic.sweptPool platform times) db
      (early ++ u :: late) pool' db') {i : ι} {fingerprint : RequestFingerprint} {expiresAt : Int}
    {answer : Except Fault (List ClaimRow)}
    (hu : u.entry = ⟨.inl (.claim i k.1 k.2 fingerprint expiresAt), answer⟩) :
    (∃ rows, answer = .ok rows ∧ rows.any (·.mine) = true) ↔
      SweptSince traffic platform k early := by
  obtain ⟨stages, hheld, hdue⟩ := held_at hmutating hidle hrun
  have hop : u.entry.op = .inl (.claim i k.1 k.2 fingerprint expiresAt) := by rw [hu]
  obtain ⟨owner, errand, herrand, hdue⟩ := hdue _ hop
  obtain ⟨hstage, rfl, htenant, -⟩ := Errand.asking_of_due hdue
  have hown : ∀ k, errand.Holds k (u.before.keys.heldBy i k) (u.before.transactions i) .asking :=
    fun k => by simpa only [herrand, hstage] using hheld i k
  obtain ⟨hnone, snapshot, htransaction⟩ := hown k
  rw [← htenant] at htransaction
  have hanswer : answer = (postgres.exec (.claim i k.1 k.2 fingerprint expiresAt) u.before).1 := by
    have hentry := hrun.entry_eq (List.mem_append_right _ List.mem_cons_self) hop
    rw [hu] at hentry
    cases hentry
    rfl
  rw [hanswer, claim_takes_iff htransaction hnone]
  constructor
  · rintro hcommitted before t between rfl j other hother rfl hwork
    by_contra hswept
    obtain ⟨errand', herrand', ⟨saved, hwork', -, hstands, -⟩ | ⟨hsame, -⟩⟩ :=
      commit_cases before (between ++ u :: late) hmutating hidle (by simpa using hrun) hwork.commits
    · obtain rfl : other = errand' := Option.some.inj (hother.symm.trans herrand')
      have hstill := stands_until_swept before between late (by simpa using hrun) hstands
        fun v hv hsweeps => hswept ⟨v, hv, hsweeps⟩
      rw [hstill.committed] at hcommitted
      cases hcommitted
    · have hnew := hwork.works
      rw [hsame] at hnew
      simp at hnew
  · intro hswept
    by_contra hcommitted
    obtain ⟨row, hrow⟩ := Option.ne_none_iff_exists'.1 hcommitted
    obtain ⟨middle, hearly, hbefore, -⟩ := Linked.append.1 hrun.linked
    obtain rfl : u.before = middle := hbefore
    obtain ⟨before, t, between, rfl, hwas, his, hsince⟩ := hearly.last_change
      (P := fun db => db.keys.committed k = some row) (by simp [hfree]) hrow
    obtain ⟨j, other, hother, hid, hwork, hexpires⟩ :=
      leavesWork_of_committed before (between ++ u :: late) hmutating hidle (by simpa using hrun)
        hwas his
    obtain ⟨v, hv, now, hsweep, hnow⟩ := hswept before t between rfl j other hother hid hwork
    have hafter : v.after = v.before.prune now := hrun.after_eq (t := v) (by simp [hv]) hsweep
    have hkept := (hsince v hv).2
    rw [hafter] at hkept
    have htime := (Postgres.committed_prune hkept).2
    omega

/-- **Between two works done under one key** there was a sweep not earlier than the time to which
the first was kept. -/
theorem one_effect_until_swept (hmutating : traffic.Mutating) (hidle : db.Idle)
    (hrun : Runs (postgres.beside upkeep) (traffic.sweptPool platform times) db
      (early ++ t :: middle ++ u :: late) pool' db') {i j : ι} {first second : Errand E}
    (hfirst : traffic.errand platform i = some first)
    (hsecond : traffic.errand platform j = some second) (hsame : first.id = second.id)
    (ht : LeavesWork t i first.script.effect) (hu : LeavesWork u j second.script.effect) :
    ∃ v ∈ middle, v.Sweeps first.expiresAt := by
  by_contra hswept
  obtain ⟨owner, howner, ⟨saved, -, -, hstands, -⟩ | ⟨hunchanged, -⟩⟩ :=
    commit_cases early (middle ++ u :: late) hmutating hidle (by simpa using hrun) ht.commits
  · obtain rfl : first = owner := Option.some.inj (hfirst.symm.trans howner)
    have hstill := stands_until_swept early middle late hrun hstands
      fun v hv hsweeps => hswept ⟨v, hv, hsweeps⟩
    obtain ⟨owner, howner, ⟨saved, -, hheld, -, -⟩ | ⟨hunchanged, -⟩⟩ :=
      commit_cases _ late hmutating hidle hrun hu.commits
    · obtain rfl : second = owner := Option.some.inj (hsecond.symm.trans howner)
      have hpending := Versions.heldBy_eq_some.1 hheld
      rw [← hsame, hstill.quiet] at hpending
      cases hpending
    · have hnew := hu.works
      rw [hunchanged] at hnew
      simp at hnew
  · have hnew := ht.works
    rw [hunchanged] at hnew
    simp at hnew

end Runs

/-! ### A key used again -/

/-- A request and its repetition, with one sweep a day later. -/
def sentAgainPool : Bool ⊕ Unit → SweptWork Bool Nat (Option Response) :=
  sentTwice.sweptPool standInPlatform fun _ => 24 * KeyLifetime.hour

/-- The request is served, its key is swept, and the request is sent again. -/
def sentAgain : List (SweptStep Bool Unit Nat) ×
    (Bool ⊕ Unit → SweptWork Bool Nat (Option Response)) × Postgres Bool Nat :=
  play (postgres.beside upkeep)
    (List.replicate 6 (.inl false) ++ [.inr ()] ++ List.replicate 6 (.inl true)) sentAgainPool {}

theorem exists_cut_at {β : Type} {steps : List (SweptStep ι κ E)} (n : ℕ)
    (tell : SweptStep ι κ E → β) (told : β) (h : (steps.map tell)[n]? = some told) :
    ∃ t, steps = steps.take n ++ t :: steps.drop (n + 1) ∧ tell t = told := by
  rw [List.getElem?_map, Option.map_eq_some_iff] at h
  obtain ⟨t, ht, htold⟩ := h
  obtain ⟨hn, rfl⟩ := List.getElem?_eq_some_iff.1 ht
  refine ⟨_, ?_, htold⟩
  rw [List.getElem_cons_drop, List.take_append_drop]

/-- The second request gets the key: what the first did has been swept. -/
theorem sent_again_takes_the_key :
    SweptSince sentTwice standInPlatform (standInTenant, sentKey) (sentAgain.1.take 9) := by
  have hrun : Runs (postgres.beside upkeep) sentAgainPool {} sentAgain.1 sentAgain.2.1
      sentAgain.2.2 := play_runs (postgres.beside upkeep) _ sentAgainPool {}
  obtain ⟨u, hcut, hu⟩ := exists_cut_at 9 (fun t : SweptStep Bool Unit Nat => t.entry)
    ⟨.inl (.claim true standInTenant sentKey repeatedTakers.fingerprint
      (24 * KeyLifetime.hour)), .ok [⟨repeatedTakers.fingerprint, .inProgress, true⟩]⟩
    (show (sentAgain.1.map _)[9]? = _ from rfl)
  rw [hcut] at hrun
  exact (key_is_taken_iff_swept sentTwice_mutating emptyPostgres_idle rfl hrun hu).1 ⟨_, rfl, rfl⟩

/-- What the request and its repetition bring. -/
def sentAgainErrand (effect : Nat) : Errand Nat :=
  ⟨standInTenant, sentKey, repeatedTakers.fingerprint, 24 * KeyLifetime.hour,
    ⟨effect, .ok (.ok (.object []))⟩⟩

/-- Both leave their work, and the sweep is between them. -/
theorem sent_again_was_swept :
    sentAgain.2.2.effects = [(false, 1), (true, 2)] ∧
      ∃ v ∈ (sentAgain.1.drop 6).take 6, v.Sweeps (24 * KeyLifetime.hour) := by
  refine ⟨rfl, ?_⟩
  have hrun : Runs (postgres.beside upkeep) sentAgainPool {} sentAgain.1 sentAgain.2.1
      sentAgain.2.2 := play_runs (postgres.beside upkeep) _ sentAgainPool {}
  obtain ⟨t, hcut, ht⟩ := exists_cut_at 5
    (fun t : SweptStep Bool Unit Nat => (t.entry.op, t.before.effects, t.after.effects))
    (.inl (.commit false), [], [(false, 1)]) (show (sentAgain.1.map _)[5]? = _ from rfl)
  obtain ⟨u, hcut', hu⟩ := exists_cut_at 6
    (fun t : SweptStep Bool Unit Nat => (t.entry.op, t.before.effects, t.after.effects))
    (.inl (.commit true), [(false, 1)], [(false, 1), (true, 2)])
    (show ((sentAgain.1.drop 6).map _)[6]? = _ from rfl)
  simp only [Prod.mk.injEq] at ht hu
  rw [hcut, hcut', ← List.cons_append, ← List.append_assoc] at hrun
  have hfirst : LeavesWork t false (sentAgainErrand 1).script.effect :=
    ⟨ht.1, by rw [ht.2.1, ht.2.2]; rfl⟩
  have hsecond : LeavesWork u true (sentAgainErrand 2).script.effect :=
    ⟨hu.1, by rw [hu.2.1, hu.2.2]; rfl⟩
  exact one_effect_until_swept sentTwice_mutating emptyPostgres_idle hrun
    (show sentTwice.errand standInPlatform false = some (sentAgainErrand 1) from rfl)
    (show sentTwice.errand standInPlatform true = some (sentAgainErrand 2) from rfl) rfl hfirst
    hsecond

end Pdr.Http
