import Pdr.Http.OneEffect

/-!
# Two transactions that take one key

The statement that takes a key is one statement with one snapshot. Its insertion waits for a
transaction that has written the key and is not over; when that one commits, nothing is
inserted, and the row is looked for in the snapshot. The snapshot is older than the wait. So
the row is found only if the commit came before the statement began, and otherwise the
statement returns no row at all.

## Main definitions

* `Pdr.Http.Takers`: two transactions that take one key with one fingerprint.
* `Pdr.Http.Seat`, `Pdr.Http.Takers.automaton`: how far each of them is.
* `Pdr.Http.TakeInvariant`: what the table holds of the key meanwhile.

## Main results

* `Pdr.Http.takeInvariant_preserved`: every call of the two keeps the invariant.
* `Pdr.Http.second_claim_is_answered_iff`: when the second of them gets a claim.
* `Pdr.Http.early_repeat_crashes`: a repeat that began too early gets an exception.
-/

namespace Pdr.Http

open StoreProgram Program

variable {ι E α : Type}

/-! ### Sessions -/

/-- The transaction in which a statement is made. -/
def Statement.session : Statement ι E → ι
  | .open_ session _ | .snapshot session | .claim session .. | .run session _
  | .complete session .. | .commit session | .rollback session => session

/-- A statement that can be made leaves the other transactions and their rows alone. -/
theorem Postgres.exec_of_ne [DecidableEq ι] {op : Statement ι E} {db : Postgres ι E} {i : ι}
    (hi : i ≠ op.session) (hready : postgres.ready op db = true) :
    (postgres.exec op db).2.transactions i = db.transactions i ∧
      ∀ key, (postgres.exec op db).2.keys.heldBy i key = db.keys.heldBy i key := by
  cases op with
  | open_ session tenant => exact ⟨Function.update_of_ne hi .., fun _ => rfl⟩
  | snapshot session =>
    simp only [postgres, Postgres.exec]
    split
    · exact ⟨rfl, fun _ => rfl⟩
    · exact ⟨Function.update_of_ne hi .., fun _ => rfl⟩
  | claim session tenant key fingerprint expiresAt =>
    simp only [postgres, Postgres.exec, Postgres.claim]
    split
    · exact ⟨rfl, fun _ => rfl⟩
    · split
      · split
        · exact ⟨rfl, fun _ => Versions.heldBy_write_of_ne hready hi⟩
        · exact ⟨rfl, fun _ => rfl⟩
      · exact ⟨rfl, fun _ => rfl⟩
  | run session script =>
    simp only [postgres, Postgres.exec]
    split
    · exact ⟨rfl, fun _ => rfl⟩
    · exact ⟨Function.update_of_ne hi .., fun _ => rfl⟩
  | complete session tenant key answer =>
    simp only [postgres, Postgres.exec, Postgres.complete]
    split
    · exact ⟨rfl, fun _ => rfl⟩
    · split
      · split
        · split
          · exact ⟨rfl, fun _ => Versions.heldBy_write_of_ne hready hi⟩
          · exact ⟨rfl, fun _ => rfl⟩
        · exact ⟨rfl, fun _ => rfl⟩
      · exact ⟨rfl, fun _ => rfl⟩
  | commit session =>
    simp only [postgres, Postgres.exec]
    split
    · exact ⟨rfl, fun _ => rfl⟩
    · exact ⟨Function.update_of_ne hi .., fun _ => Versions.heldBy_publish_of_ne hi⟩
  | rollback session =>
    exact ⟨Function.update_of_ne hi .., fun _ => Versions.heldBy_discard_of_ne hi⟩

/-- The statement that closes a key changes nothing, or writes a row with the fingerprint of
the one that it found. -/
theorem Postgres.exec_complete_cases [DecidableEq ι] (db : Postgres ι E) (session : ι)
    (tenant : TenantId) (key : IdempotencyKey) (answer : SavedAnswer) :
    (postgres.exec (.complete session tenant key answer) db).2 = db ∨
      ∃ row row', db.keys.visible session (tenant, key) = some row ∧
        row'.fingerprint = row.fingerprint ∧
        (postgres.exec (.complete session tenant key answer) db).2 =
          { db with keys := db.keys.write session (tenant, key) row' } := by
  simp only [postgres, Postgres.exec, Postgres.complete]
  split
  · exact Or.inl rfl
  · split
    · split
      · rename_i fingerprint expiresAt hvisible
        split
        · exact Or.inr ⟨_, ⟨fingerprint, .completed answer, expiresAt⟩, hvisible, rfl, rfl⟩
        · exact Or.inl rfl
      · exact Or.inl rfl
    · exact Or.inl rfl

/-! ### The two transactions -/

/-- What a transaction does behind its claim: its own work, and the closing of keys. -/
def Statement.IsWork (session : ι) : Statement ι E → Prop
  | .run session' _ | .complete session' .. => session' = session
  | _ => False

/-- Two transactions that take one key with one fingerprint, each with its own work behind
the claim. -/
structure Takers (E α : Type) where
  tenant : TenantId
  key : IdempotencyKey
  fingerprint : RequestFingerprint
  expiresAt : Bool → Int
  rest : Bool → Claim → Work Bool E α
  works : ∀ who claim, (rest who claim).Only (Statement.IsWork who)

/-- How far a transaction is: it has not begun, it is open, its statement has its snapshot,
it is behind its claim, with the row its own or not, or it is over, committed or not. -/
inductive Seat where
  | idle
  | opened
  | asking
  | inside (mine : Bool)
  | left (mine committed : Bool)
deriving DecidableEq

namespace Seat

/-- Behind the claim: whether the row that was returned was the transaction's own. -/
def mine : Seat → Option Bool
  | .inside mine | .left mine _ => some mine
  | _ => none

end Seat

namespace Takers

variable (takers : Takers E α)

/-- The primary key of the row. -/
def id : KeyId := (takers.tenant, takers.key)

/-- The statement by which one of them takes the key, from its insertion on. -/
def claiming (who : Bool) : Statement Bool E :=
  .claim who takers.tenant takers.key takers.fingerprint (takers.expiresAt who)

/-- One of the transactions. -/
def program (who : Bool) : Work Bool E α :=
  inTenant who takers.tenant do
    let taken ← take who takers.tenant takers.key takers.fingerprint (takers.expiresAt who)
    let claim ← ofExcept taken.orRefuse
    takers.rest who claim

/-- What each of them may call. -/
def allows (who : Bool) : Seat → Statement Bool E → Prop
  | .idle, op => op = .open_ who takers.tenant
  | .opened, op => op = .snapshot who
  | .asking, op => op = takers.claiming who
  | .inside _, op => op.IsWork who ∨ op = .commit who ∨ op = .rollback who
  | .left .., _ => False

/-- Where the answers lead. -/
def next : Seat → (op : Statement Bool E) → Except Fault op.Answer → Seat
  | .idle, _, .ok _ => .opened
  | .idle, _, .error _ => .left false false
  | .opened, _, .ok _ => .asking
  | .opened, _, .error _ => .inside false
  | .asking, .claim .., .ok rows => .inside (rows.any (·.mine))
  | .asking, _, _ => .inside false
  | .inside mine, .commit _, _ => .left mine true
  | .inside mine, .rollback _, _ => .left mine false
  | .inside mine, _, _ => .inside mine
  | .left mine committed, _, _ => .left mine committed

/-- The calls of one of the two, by its seat. -/
def automaton (who : Bool) :
    Automaton (Statement.Answer : Statement Bool E → Type) Fault Seat :=
  ⟨takers.allows who, next⟩

variable {takers} {who : Bool}

theorem next_of_isWork {op : Statement Bool E} (hop : op.IsWork who) (mine : Bool)
    (answer : Except Fault op.Answer) : next (.inside mine) op answer = .inside mine := by
  cases op with
  | run _ _ => rfl
  | complete _ _ _ _ => rfl
  | _ => exact hop.elim

/-- The work behind a claim, and the end of its transaction. -/
theorem conforms_inside (mine : Bool) (work : Work Bool E α)
    (hwork : work.Only (Statement.IsWork who)) :
    (takers.automaton who).Conforms (fun _ (_ : Except Fault α) => True) (.inside mine) (do
      let result ← tryCatch work fun fault => do
        perform (Statement.rollback who)
        raise fault
      perform (Statement.commit who)
      pure result) := by
  induction work with
  | done value =>
    refine ⟨Or.inr (Or.inl rfl), fun answer => ?_⟩
    cases answer <;> trivial
  | raise fault =>
    refine ⟨Or.inr (Or.inr rfl), fun answer => ?_⟩
    cases answer <;> trivial
  | call op rest ih =>
    refine ⟨Or.inl hwork.1, fun answer => ?_⟩
    have hstays : (takers.automaton who).next (.inside mine) op answer = .inside mine :=
      next_of_isWork hwork.1 mine answer
    rw [hstays]
    exact ih answer (hwork.2 answer trivial)

/-- Each of the two transactions goes by its automaton. -/
theorem conforms_program (who : Bool) :
    (takers.automaton who).Conforms (fun _ (_ : Except Fault α) => True) .idle
      (takers.program who) := by
  refine ⟨rfl, fun answer => ?_⟩
  cases answer with
  | error fault => trivial
  | ok _ =>
    refine ⟨rfl, fun answer => ?_⟩
    cases answer with
    | error fault => exact conforms_inside false (raise fault) trivial
    | ok _ =>
      refine ⟨rfl, fun answer => ?_⟩
      cases answer with
      | error fault => exact conforms_inside false (raise fault) trivial
      | ok rows =>
        refine conforms_inside (rows.any (·.mine)) (do
          let taken ← ofExcept (claimOf rows takers.fingerprint)
          let claim ← ofExcept taken.orRefuse
          takers.rest who claim) ?_
        rcases claimOf rows takers.fingerprint with fault | refusal | claim
        · trivial
        · trivial
        · exact takers.works who claim

end Takers

/-! ### What the claiming statement returns -/

/-- The rows that were returned are not the transaction's own. -/
def olderRows (found : Option KeyRow) : List ClaimRow :=
  found.toList.map fun row => ⟨row.fingerprint, row.state, false⟩

theorem any_mine_olderRows (found : Option KeyRow) :
    (olderRows found).any (·.mine) = false := by
  cases found <;> rfl

namespace Postgres

variable {takers : Takers E α} {db : Postgres Bool E} {who : Bool} {transaction : Transaction E}

/-- A key that is there neither committed nor of the transaction's own is written. -/
theorem exec_claiming_free (htransaction : db.transactions who = some transaction)
    (htenant : transaction.tenant = takers.tenant)
    (hvisible : db.keys.visible who takers.id = none) :
    postgres.exec (takers.claiming who) db =
      (.ok [⟨takers.fingerprint, .inProgress, true⟩],
        { db with
          keys := db.keys.write who takers.id
            ⟨takers.fingerprint, .inProgress, takers.expiresAt who⟩ }) := by
  have hvisible : db.keys.visible who (takers.tenant, takers.key) = none := hvisible
  simp only [Takers.claiming, postgres, exec, htransaction, claim, htenant, if_true, hvisible]
  rfl

theorem exec_claiming_taken {row : KeyRow} (htransaction : db.transactions who = some transaction)
    (htenant : transaction.tenant = takers.tenant)
    (hvisible : db.keys.visible who takers.id = some row) :
    postgres.exec (takers.claiming who) db =
      (.ok (olderRows (transaction.snapshot takers.id)), db) := by
  have hvisible : db.keys.visible who (takers.tenant, takers.key) = some row := hvisible
  simp only [Takers.claiming, postgres, exec, htransaction, claim, htenant, if_true, hvisible]
  rfl

end Postgres

/-! ### What the table holds of the key -/

/-- What the database holds of one transaction. -/
def Takers.Sits (takers : Takers E α) (db : Postgres Bool E) (who : Bool) : Seat → Prop
  | .idle => db.keys.heldBy who takers.id = none
  | .opened | .asking => db.keys.heldBy who takers.id = none ∧
      ∃ transaction, db.transactions who = some transaction ∧ transaction.tenant = takers.tenant
  | .inside true => (db.keys.heldBy who takers.id).isSome = true ∧
      (db.transactions who).isSome = true
  | _ => True

/-- The invariant of the key that both transactions take. -/
structure TakeInvariant (takers : Takers E α) (seats : Bool → Seat) (db : Postgres Bool E) :
    Prop where
  sits : ∀ who, takers.Sits db who (seats who)
  /-- A transaction that was not given the row was behind the commit of the other. -/
  lost : ∀ who, (seats who).mine = some false → seats (!who) = .left true true
  /-- Every version of the row has the fingerprint of both. -/
  held : ∀ who row, db.keys.heldBy who takers.id = some row →
    row.fingerprint = takers.fingerprint
  committed : ∀ row, db.keys.committed takers.id = some row →
    row.fingerprint = takers.fingerprint ∧ ∃ who, seats who = .left true true
  kept : ∀ who, seats who = .left true true → (db.keys.committed takers.id).isSome = true

section Invariant

variable {takers : Takers E α} {seats : Bool → Seat} {db db' : Postgres Bool E} {who : Bool}

theorem TakeInvariant.start (hidle : db.Idle) (hfree : db.keys.committed takers.id = none) :
    TakeInvariant takers (fun _ => .idle) db where
  sits who := hidle.2 who takers.id
  lost _ h := by cases h
  held who row hrow := by
    rw [hidle.2 who takers.id] at hrow
    cases hrow
  committed row hrow := by
    rw [hfree] at hrow
    cases hrow
  kept _ h := by cases h

/-- A call of one transaction keeps the invariant if it keeps what concerns that
transaction and the committed row. -/
theorem TakeInvariant.move (h : TakeInvariant takers seats db) {seat : Seat}
    (hother : db'.transactions (!who) = db.transactions (!who) ∧
      ∀ key, db'.keys.heldBy (!who) key = db.keys.heldBy (!who) key)
    (hseat : seats who ≠ .left true true) (hsits : takers.Sits db' who seat)
    (hlost : seat.mine = some false → seats (!who) = .left true true)
    (hheld : ∀ row, db'.keys.heldBy who takers.id = some row →
      row.fingerprint = takers.fingerprint)
    (hcommitted : ∀ row, db'.keys.committed takers.id = some row →
      row.fingerprint = takers.fingerprint ∧
        (seat = .left true true ∨ (db.keys.committed takers.id).isSome = true))
    (hkept : seat = .left true true ∨ (db.keys.committed takers.id).isSome = true →
      (db'.keys.committed takers.id).isSome = true) :
    TakeInvariant takers (Function.update seats who seat) db' := by
  have hne : (!who) ≠ who := Bool.not_ne_self who
  have hself : Function.update seats who seat who = seat := Function.update_self ..
  have hnot : Function.update seats who seat (!who) = seats (!who) := Function.update_of_ne hne ..
  have hcases : ∀ other, other = who ∨ other = !who := by
    intro other
    cases other <;> cases who <;> simp
  refine ⟨fun other => ?_, fun other hmine => ?_, fun other row hrow => ?_, fun row hrow => ?_,
    fun other hover => ?_⟩
  · rcases hcases other with rfl | rfl
    · rwa [hself]
    · rw [hnot]
      have hsits := h.sits (!who)
      unfold Takers.Sits at hsits ⊢
      rwa [hother.1, hother.2]
  · rcases hcases other with rfl | rfl
    · rw [hself] at hmine
      rw [hnot]
      exact hlost hmine
    · rw [hnot] at hmine
      have hwas := h.lost (!who) hmine
      rw [Bool.not_not] at hwas
      exact absurd hwas hseat
  · rcases hcases other with rfl | rfl
    · exact hheld row hrow
    · rw [hother.2] at hrow
      exact h.held _ row hrow
  · obtain ⟨hfingerprint, hwhose⟩ := hcommitted row hrow
    refine ⟨hfingerprint, ?_⟩
    rcases hwhose with rfl | hwas
    · exact ⟨who, hself⟩
    · obtain ⟨old, hold⟩ := Option.isSome_iff_exists.1 hwas
      obtain ⟨-, owner, howner⟩ := h.committed old hold
      rcases hcases owner with rfl | rfl
      · exact absurd howner hseat
      · exact ⟨!who, by rw [hnot, howner]⟩
  · rcases hcases other with rfl | rfl
    · rw [hself] at hover
      exact hkept (Or.inl hover)
    · rw [hnot] at hover
      exact hkept (Or.inr (h.kept _ hover))

/-- A call that commits nothing. -/
theorem TakeInvariant.quiet (h : TakeInvariant takers seats db) {seat : Seat}
    (hother : db'.transactions (!who) = db.transactions (!who) ∧
      ∀ key, db'.keys.heldBy (!who) key = db.keys.heldBy (!who) key)
    (hcommitted : db'.keys.committed = db.keys.committed) (hseat : seats who ≠ .left true true)
    (hnew : seat ≠ .left true true) (hsits : takers.Sits db' who seat)
    (hlost : seat.mine = some false → seats (!who) = .left true true)
    (hheld : ∀ row, db'.keys.heldBy who takers.id = some row →
      row.fingerprint = takers.fingerprint) :
    TakeInvariant takers (Function.update seats who seat) db' := by
  refine h.move hother hseat hsits hlost hheld (fun row hrow => ?_) fun hsome => ?_
  · rw [hcommitted] at hrow
    exact ⟨(h.committed row hrow).1, Or.inr (by rw [hrow]; rfl)⟩
  · rw [hcommitted]
    exact hsome.resolve_left hnew

/-- The claiming statement. -/
theorem TakeInvariant.claim (h : TakeInvariant takers seats db) (hseat : seats who = .asking)
    (hready : db.keys.isFree who takers.id = true) :
    TakeInvariant takers
      (Function.update seats who (Takers.next .asking (takers.claiming who)
        (postgres.exec (takers.claiming who) db).1))
      (postgres.exec (takers.claiming who) db).2 := by
  have hcan : postgres.ready (takers.claiming who) db = true := hready
  have hother := Postgres.exec_of_ne (Bool.not_ne_self who) hcan
  have hsits := h.sits who
  rw [hseat] at hsits
  obtain ⟨hheld, transaction, htransaction, htenant⟩ := hsits
  have hnot : seats who ≠ .left true true := by
    rw [hseat]
    exact fun hsame => nomatch hsame
  cases hcommitted : db.keys.committed takers.id with
  | none =>
    have hvisible : db.keys.visible who takers.id = none :=
      Versions.visible_eq_none.2 ⟨hheld, hcommitted⟩
    have hexec := Postgres.exec_claiming_free htransaction htenant hvisible
    rw [hexec] at hother ⊢
    refine h.quiet hother rfl hnot (fun hsame => nomatch hsame) ⟨?_, ?_⟩
      (fun hmine => nomatch hmine) fun row hrow => ?_
    · show ((db.keys.write who takers.id _).heldBy who takers.id).isSome = true
      rw [Versions.heldBy_write_self]
      rfl
    · show (db.transactions who).isSome = true
      rw [htransaction]
      rfl
    · have hrow : (db.keys.write who takers.id _).heldBy who takers.id = some row := hrow
      rw [Versions.heldBy_write_self] at hrow
      obtain rfl := Option.some.inj hrow
      rfl
  | some row =>
    have hvisible : db.keys.visible who takers.id = some row := by
      rw [Versions.visible_of_not_heldBy hheld, hcommitted]
    rw [Postgres.exec_claiming_taken htransaction htenant hvisible]
    -- Nothing was inserted, so no row that is returned is the transaction's own.
    have hnext : Takers.next .asking (takers.claiming who)
        (.ok (olderRows (transaction.snapshot takers.id))) = .inside false := by
      show Seat.inside ((olderRows (transaction.snapshot takers.id)).any (·.mine)) = .inside false
      rw [any_mine_olderRows]
    dsimp only
    rw [hnext]
    obtain ⟨-, owner, howner⟩ := h.committed row hcommitted
    have howner' : owner = !who := by
      rcases Bool.eq_or_eq_not owner who with rfl | hsame
      · exact absurd howner hnot
      · exact hsame
    exact h.quiet ⟨rfl, fun _ => rfl⟩ rfl hnot (fun hsame => nomatch hsame) trivial
      (fun _ => howner' ▸ howner) (h.held who)

/-- The work behind a claim. -/
theorem TakeInvariant.work (h : TakeInvariant takers seats db) {op : Statement Bool E}
    (hop : op.IsWork who) {mine : Bool} (hseat : seats who = .inside mine)
    (hready : postgres.ready op db = true) :
    TakeInvariant takers (Function.update seats who (.inside mine))
      (postgres.exec op db).2 := by
  have hsits := h.sits who
  have hlost := h.lost who
  have hnot : seats who ≠ .left true true := by
    rw [hseat]
    exact fun hsame => nomatch hsame
  have hnew : (Seat.inside mine) ≠ .left true true := fun hsame => nomatch hsame
  rw [hseat] at hsits hlost
  have hstay : TakeInvariant takers (Function.update seats who (.inside mine)) db :=
    h.quiet ⟨rfl, fun _ => rfl⟩ rfl hnot hnew hsits hlost (h.held who)
  cases op with
  | run session script =>
    obtain rfl : session = who := hop
    have hother := Postgres.exec_of_ne (Bool.not_ne_self session) hready
    cases htransaction : db.transactions session with
    | none =>
      simpa only [postgres, Postgres.exec, htransaction] using hstay
    | some transaction =>
      simp only [postgres, Postgres.exec, htransaction] at hother ⊢
      refine h.quiet hother rfl hnot hnew ?_ hlost (h.held session)
      cases mine with
      | false => trivial
      | true =>
        refine ⟨hsits.1, ?_⟩
        simp [Postgres.withTransaction]
  | complete session tenant key answer =>
    obtain rfl : session = who := hop
    have hother := Postgres.exec_of_ne (Bool.not_ne_self session) hready
    rcases Postgres.exec_complete_cases db session tenant key answer with hexec |
      ⟨row, row', hvisible, hfingerprint, hexec⟩
    · rwa [hexec]
    · rw [hexec] at hother ⊢
      refine h.quiet hother rfl hnot hnew ?_ hlost fun written hwritten => ?_
      · cases mine with
        | false => trivial
        | true =>
          refine ⟨?_, hsits.2⟩
          show ((db.keys.write session (tenant, key) row').heldBy session takers.id).isSome = true
          rw [Versions.heldBy_write]
          split
          · rfl
          · exact hsits.1
      · have hwritten : (db.keys.write session (tenant, key) row').heldBy session takers.id =
            some written := hwritten
        rw [Versions.heldBy_write] at hwritten
        split at hwritten
        · rename_i hkey
          obtain rfl := Option.some.inj hwritten
          rw [hfingerprint]
          rw [hkey] at hvisible
          rcases Option.or_eq_some_iff.1 hvisible with hheld | ⟨-, hcommitted⟩
          · exact h.held session row hheld
          · exact (h.committed row hcommitted).1
        · exact h.held session written hwritten
  | _ => exact hop.elim

/-- The commit of a transaction behind its claim. -/
theorem TakeInvariant.commit (h : TakeInvariant takers seats db) {mine : Bool}
    (hseat : seats who = .inside mine) :
    TakeInvariant takers (Function.update seats who (.left mine true))
      (postgres.exec (.commit who) db).2 := by
  have hsits := h.sits who
  have hlost := h.lost who
  have hcan : postgres.ready (.commit who) db = true := rfl
  have hother := Postgres.exec_of_ne (Bool.not_ne_self who) hcan
  have hnot : seats who ≠ .left true true := by
    rw [hseat]
    simp
  rw [hseat] at hsits hlost
  cases htransaction : db.transactions who with
  | none =>
    -- Only a transaction that was not given the row could have lost its session.
    cases mine with
    | true =>
      have hopen := hsits.2
      rw [htransaction] at hopen
      cases hopen
    | false =>
      simp only [postgres, Postgres.exec, htransaction]
      exact h.quiet ⟨rfl, fun _ => rfl⟩ rfl hnot (by simp) trivial hlost
        (h.held who)
  | some transaction =>
    simp only [postgres, Postgres.exec, htransaction] at hother ⊢
    have hprints : ∀ row, db.keys.visible who takers.id = some row →
        row.fingerprint = takers.fingerprint ∧
          ((Seat.left mine true) = .left true true ∨
            (db.keys.committed takers.id).isSome = true) := by
      intro row hvisible
      rcases Option.or_eq_some_iff.1 hvisible with hheld | ⟨-, hcommitted⟩
      · refine ⟨h.held who row hheld, ?_⟩
        cases mine with
        | true => exact Or.inl rfl
        | false => exact Or.inr (h.kept _ (hlost rfl))
      · exact ⟨(h.committed row hcommitted).1, Or.inr (by rw [hcommitted]; rfl)⟩
    refine h.move hother hnot trivial hlost (fun row hrow => ?_) hprints fun hsome => ?_
    · have hrow : (db.keys.publish who).heldBy who takers.id = some row := hrow
      rw [Versions.heldBy_publish_self] at hrow
      cases hrow
    · show (db.keys.visible who takers.id).isSome = true
      rw [Versions.visible, Option.isSome_or]
      rcases hsome with hmine | hcommitted
      · obtain rfl : mine = true := by
          cases hmine
          rfl
        rw [hsits.1, Bool.true_or]
      · rw [hcommitted, Bool.or_true]

/-- Every call of the two transactions keeps the invariant. -/
theorem takeInvariant_preserved (takers : Takers E α) :
    Automaton.Preserves takers.automaton postgres (TakeInvariant takers) := by
  intro seats db who op h hallows hready
  have hsits := h.sits who
  unfold Automaton.advance
  cases hseat : seats who with
  | idle =>
    rw [hseat] at hallows hsits
    obtain rfl : op = .open_ who takers.tenant := hallows
    have hnew : Seat.opened ≠ .left true true := by simp
    have hmine : Seat.opened.mine ≠ some false := by simp [Seat.mine]
    exact h.quiet (Postgres.exec_of_ne (Bool.not_ne_self who) hready) rfl (by simp [hseat])
      hnew ⟨hsits, _, Function.update_self .., rfl⟩ (fun hsome => (hmine hsome).elim)
      (h.held who)
  | opened =>
    rw [hseat] at hallows hsits
    obtain rfl : op = .snapshot who := hallows
    obtain ⟨hheld, transaction, htransaction, htenant⟩ := hsits
    have hother := Postgres.exec_of_ne (Bool.not_ne_self who) hready
    have hnew : Seat.asking ≠ .left true true := by simp
    have hmine : Seat.asking.mine ≠ some false := by simp [Seat.mine]
    simp only [postgres, Postgres.exec, htransaction] at hother ⊢
    exact h.quiet hother rfl (by simp [hseat]) hnew ⟨hheld, _, Function.update_self .., htenant⟩
      (fun hsome => (hmine hsome).elim) (h.held who)
  | asking =>
    rw [hseat] at hallows
    obtain rfl : op = takers.claiming who := hallows
    exact h.claim hseat hready
  | inside mine =>
    rw [hseat] at hallows
    rcases hallows with hwork | rfl | rfl
    · have hnext : (takers.automaton who).next (.inside mine) op (postgres.exec op db).1 =
          .inside mine := Takers.next_of_isWork hwork mine _
      rw [hnext]
      exact h.work hwork hseat hready
    · exact h.commit hseat
    · have hnew : Seat.left mine false ≠ .left true true := by simp
      refine h.quiet (Postgres.exec_of_ne (Bool.not_ne_self who) hready) rfl (by simp [hseat])
        hnew trivial (fun hmine => ?_) fun row hrow => ?_
      · refine h.lost who ?_
        rw [hseat]
        exact hmine
      · have hrow : (db.keys.discard who).heldBy who takers.id = some row := hrow
        rw [Versions.heldBy_discard_self] at hrow
        cases hrow
  | left mine committed =>
    rw [hseat] at hallows
    exact hallows.elim

end Invariant

/-! ### How far they are in a run -/

namespace Seat

/-- How many calls it takes at least to come to a seat. -/
def rank : Seat → Nat
  | .idle => 0
  | .opened => 1
  | .asking => 2
  | .inside _ | .left .. => 3

theorem rank_next (seat : Seat) (op : Statement Bool E) (answer : Except Fault op.Answer) :
    min 3 (seat.rank + 1) ≤ (Takers.next seat op answer).rank := by
  cases seat with
  | idle => cases answer <;> simp [Takers.next, rank]
  | opened => cases answer <;> simp [Takers.next, rank]
  | asking => cases op <;> cases answer <;> simp [Takers.next, rank]
  | inside mine => cases op <;> simp [Takers.next, rank]
  | left mine committed => simp [Takers.next, rank]

end Seat

namespace Takers

variable {takers : Takers E α} {db db' : Postgres Bool E} {who : Bool}
  {pool' : Bool → Work Bool E α}

theorem session_of_allows {seat : Seat} {op : Statement Bool E} (h : takers.allows who seat op) :
    op.session = who := by
  cases seat with
  | idle =>
    obtain rfl : op = _ := h
    rfl
  | opened =>
    obtain rfl : op = _ := h
    rfl
  | asking =>
    obtain rfl : op = _ := h
    rfl
  | inside mine =>
    rcases h with hwork | rfl | rfl
    · cases op with
      | run _ _ => exact hwork
      | complete _ _ _ _ => exact hwork
      | _ => exact hwork.elim
    · rfl
    · rfl
  | left mine committed => exact h.elim

/-- Only a transaction whose statement has its snapshot claims. -/
theorem asking_of_allows {seat : Seat} {session : Bool}
    (h : takers.allows who seat (takers.claiming session)) : seat = .asking := by
  cases seat with
  | asking => rfl
  | idle => cases h
  | opened => cases h
  | inside mine =>
    rcases h with hwork | hsame | hsame
    · exact hwork.elim
    · cases hsame
    · cases hsame
  | left mine committed => exact h.elim

/-- Only a transaction that is open takes a snapshot. -/
theorem opened_of_allows {seat : Seat} {session : Bool}
    (h : takers.allows who seat (.snapshot session)) : seat = .opened := by
  cases seat with
  | opened => rfl
  | idle => cases h
  | asking => cases h
  | inside mine =>
    rcases h with hwork | hsame | hsame
    · exact hwork.elim
    · cases hsame
    · cases hsame
  | left mine committed => exact h.elim

theorem inside_of_allows {seat : Seat} {session : Bool}
    (h : takers.allows who seat (.commit session)) : ∃ mine, seat = .inside mine := by
  cases seat with
  | inside mine => exact ⟨mine, rfl⟩
  | idle => cases h
  | opened => cases h
  | asking => cases h
  | left mine committed => exact h.elim

theorem rank_after (takers : Takers E α) (who : Bool) (seat : Seat)
    (history : List (Entry (Statement.Answer : Statement Bool E → Type) Fault)) :
    min 3 (seat.rank + history.length) ≤ ((takers.automaton who).after seat history).rank := by
  induction history generalizing seat with
  | nil => exact min_le_right _ _
  | cons entry history ih =>
    have hnext := Seat.rank_next seat entry.op entry.answer
    have hlater := ih (next seat entry.op entry.answer)
    have hsame : (takers.automaton who).after seat (entry :: history) =
        (takers.automaton who).after (next seat entry.op entry.answer) history := rfl
    rw [hsame, List.length_cons]
    omega

theorem after_left (mine committed : Bool)
    (history : List (Entry (Statement.Answer : Statement Bool E → Type) Fault)) :
    (takers.automaton who).after (.left mine committed) history = .left mine committed := by
  induction history with
  | nil => rfl
  | cons entry history ih => exact ih

/-- A transaction commits by a commit. -/
theorem exists_commit {seat : Seat} {mine : Bool} (hseat : ∀ mine, seat ≠ .left mine true)
    {history : List (Entry (Statement.Answer : Statement Bool E → Type) Fault)}
    (h : (takers.automaton who).after seat history = .left mine true) :
    ∃ entry ∈ history, ∃ session, entry.op = .commit session := by
  induction history generalizing seat with
  | nil => exact absurd h (hseat mine)
  | cons entry history ih =>
    by_cases hnext : ∀ mine, next seat entry.op entry.answer ≠ .left mine true
    · obtain ⟨later, hlater, hcommit⟩ := ih hnext h
      exact ⟨later, List.mem_cons_of_mem _ hlater, hcommit⟩
    · refine ⟨entry, List.mem_cons_self, ?_⟩
      obtain ⟨mine, hnext⟩ := not_forall_not.1 hnext
      obtain ⟨op, answer⟩ := entry
      cases seat with
      | idle => cases answer <;> cases hnext
      | opened => cases answer <;> cases hnext
      | asking => cases op <;> cases answer <;> cases hnext
      | inside mine =>
        cases op with
        | commit session => exact ⟨session, rfl⟩
        | _ => cases hnext
      | left mine committed =>
        cases hnext
        exact absurd rfl (hseat mine)

/-- How far each transaction is after some steps. -/
def seats (takers : Takers E α) (steps : List (KeyStep Bool E)) (who : Bool) : Seat :=
  (takers.automaton who).after .idle (historyOf who steps)

theorem seats_append (early late : List (KeyStep Bool E)) (who : Bool) :
    takers.seats (early ++ late) who =
      (takers.automaton who).after (takers.seats early who) (historyOf who late) := by
  simp only [seats, historyOf, List.filter_append, List.map_append, Automaton.after,
    List.foldl_append]

theorem seats_concat (early : List (KeyStep Bool E)) (t : KeyStep Bool E) :
    takers.seats (early ++ [t]) t.thread =
      next (takers.seats early t.thread) t.entry.op t.entry.answer := by
  rw [seats_append]
  simp [historyOf, Automaton.after, automaton]

theorem invariant_at (hidle : db.Idle) (hfree : db.keys.committed takers.id = none)
    {early late : List (KeyStep Bool E)} {t : KeyStep Bool E}
    (hrun : Runs postgres takers.program db (early ++ t :: late) pool' db') :
    TakeInvariant takers (takers.seats early) t.before ∧
      takers.allows t.thread (takers.seats early t.thread) t.entry.op ∧
      postgres.ready t.entry.op t.before = true :=
  hrun.preserves_at conforms_program (takeInvariant_preserved takers) (.start hidle hfree)

/-- Where a claim is made, the transaction is asking for the key. -/
theorem seats_of_claiming {early : List (KeyStep Bool E)} {t : KeyStep Bool E}
    (hallows : takers.allows t.thread (takers.seats early t.thread) t.entry.op)
    (hclaim : t.entry.op = takers.claiming who) :
    t.thread = who ∧ takers.seats early who = .asking := by
  have hthread : t.thread = who := by
    rw [← session_of_allows hallows, hclaim]
    rfl
  subst hthread
  rw [hclaim] at hallows
  exact ⟨rfl, asking_of_allows hallows⟩

/-- Where a snapshot is taken, the transaction has just been opened. -/
theorem seats_of_snapshot {early : List (KeyStep Bool E)} {t : KeyStep Bool E}
    (hallows : takers.allows t.thread (takers.seats early t.thread) t.entry.op)
    (hsnapshot : t.entry.op = .snapshot who) :
    t.thread = who ∧ takers.seats early who = .opened := by
  have hthread : t.thread = who := by
    rw [← session_of_allows hallows, hsnapshot]
    rfl
  subst hthread
  rw [hsnapshot] at hallows
  exact ⟨rfl, opened_of_allows hallows⟩

/-- Who has asked for the key is behind the claim ever after. -/
theorem mine_of_claimed (hidle : db.Idle) (hfree : db.keys.committed takers.id = none)
    {early late : List (KeyStep Bool E)}
    (hrun : Runs postgres takers.program db (early ++ late) pool' db') {u : KeyStep Bool E}
    (hu : u ∈ early) (hclaim : u.entry.op = takers.claiming who) :
    (takers.seats early who).mine.isSome = true := by
  obtain ⟨before, after, rfl⟩ := List.append_of_mem hu
  rw [List.append_assoc] at hrun
  obtain ⟨-, hallows, -⟩ := invariant_at hidle hfree hrun
  obtain ⟨rfl, hseat⟩ := seats_of_claiming hallows hclaim
  have hrank := rank_after takers u.thread (takers.seats before u.thread)
    (historyOf u.thread (u :: after))
  rw [← seats_append, hseat] at hrank
  have hlength : 1 ≤ (historyOf u.thread (u :: after)).length := by
    simp [historyOf]
  have hthree : 3 ≤ (takers.seats (before ++ u :: after) u.thread).rank := by
    simp only [Seat.rank] at hrank ⊢
    omega
  cases hlater : takers.seats (before ++ u :: after) u.thread with
  | inside mine => rfl
  | left mine committed => rfl
  | _ =>
    rw [hlater] at hthree
    simp [Seat.rank] at hthree

/-- Who has committed is over. -/
theorem left_of_commit (hidle : db.Idle) (hfree : db.keys.committed takers.id = none)
    {early late : List (KeyStep Bool E)}
    (hrun : Runs postgres takers.program db (early ++ late) pool' db') {c : KeyStep Bool E}
    (hc : c ∈ early) (hcommit : c.entry.op = .commit who) :
    ∃ mine, takers.seats early who = .left mine true := by
  obtain ⟨before, after, rfl⟩ := List.append_of_mem hc
  rw [List.append_assoc] at hrun
  obtain ⟨-, hallows, -⟩ := invariant_at hidle hfree hrun
  have hthread : c.thread = who := by
    rw [← session_of_allows hallows, hcommit]
    rfl
  subst hthread
  rw [hcommit] at hallows
  obtain ⟨mine, hseat⟩ := inside_of_allows hallows
  have hnext : next (.inside mine) c.entry.op c.entry.answer = .left mine true := by
    obtain ⟨thread, ⟨op, answer⟩, _, _⟩ := c
    obtain rfl : op = .commit thread := hcommit
    rfl
  have hsplit : before ++ c :: after = (before ++ [c]) ++ after := by simp
  exact ⟨mine, by rw [hsplit, seats_append, seats_concat, hseat, hnext, after_left]⟩

/-- Between its snapshot and its claim a transaction makes no call. -/
theorem no_step_between (hidle : db.Idle) (hfree : db.keys.committed takers.id = none)
    {before between late : List (KeyStep Bool E)} {s t : KeyStep Bool E}
    (hrun : Runs postgres takers.program db (before ++ s :: between ++ t :: late) pool' db')
    (hsnapshot : s.entry.op = .snapshot who) (hclaim : t.entry.op = takers.claiming who) :
    ∀ v ∈ between, v.thread ≠ who := by
  obtain ⟨-, hallows, -⟩ := invariant_at hidle hfree hrun
  obtain ⟨-, hasking⟩ := seats_of_claiming hallows hclaim
  rw [List.append_assoc, List.cons_append] at hrun
  obtain ⟨-, hallows', -⟩ := invariant_at hidle hfree hrun
  obtain ⟨rfl, hopened⟩ := seats_of_snapshot hallows' hsnapshot
  have hrank := rank_after takers s.thread (takers.seats before s.thread)
    (historyOf s.thread (s :: between))
  rw [← seats_append, hasking, hopened] at hrank
  have hlength : (historyOf s.thread (s :: between)).length =
      (historyOf s.thread between).length + 1 := by
    simp [historyOf]
  intro v hv hthread
  have hpos : 0 < (historyOf s.thread between).length :=
    List.length_pos_of_mem (hthread ▸ Runs.mem_historyOf hv)
  simp only [Seat.rank, hlength] at hrank
  omega

/-- The snapshot under which a claim is made is the one that its statement took: what was
committed then. -/
theorem snapshot_of_claiming (hidle : db.Idle) (hfree : db.keys.committed takers.id = none)
    {before between late : List (KeyStep Bool E)} {s t : KeyStep Bool E}
    (hrun : Runs postgres takers.program db (before ++ s :: between ++ t :: late) pool' db')
    (hsnapshot : s.entry.op = .snapshot who) (hclaim : t.entry.op = takers.claiming who) :
    ∃ transaction, t.before.transactions who = some transaction ∧
      transaction.tenant = takers.tenant ∧
      transaction.snapshot takers.id = s.before.keys.committed takers.id := by
  have hothers := no_step_between hidle hfree hrun hsnapshot hclaim
  have hrun' := hrun
  rw [List.append_assoc, List.cons_append] at hrun'
  obtain ⟨h, hallows, -⟩ := invariant_at hidle hfree hrun'
  obtain ⟨rfl, hopened⟩ := seats_of_snapshot hallows hsnapshot
  have hsits := h.sits s.thread
  rw [hopened] at hsits
  obtain ⟨hheld, transaction, htransaction, htenant⟩ := hsits
  have hexec := hrun'.exec_eq (List.mem_append_right before List.mem_cons_self)
  have hstart : s.after.transactions s.thread =
      some { transaction with snapshot := s.before.keys.visible s.thread } := by
    have hafter : (postgres.exec s.entry.op s.before).2 = s.after := congrArg Prod.snd hexec
    rw [← hafter, hsnapshot]
    simp only [postgres, Postgres.exec, htransaction]
    exact Function.update_self ..
  refine ⟨_, hrun.keeps_between (P := fun db => db.transactions s.thread =
    some { transaction with snapshot := s.before.keys.visible s.thread }) ?_ hstart, htenant,
    Versions.visible_of_not_heldBy hheld⟩
  intro v hv hbefore
  obtain ⟨early, rest, rfl⟩ := List.append_of_mem hv
  have hsplit : before ++ s :: (early ++ v :: rest) ++ t :: late =
      (before ++ s :: early) ++ v :: (rest ++ t :: late) := by simp
  rw [hsplit] at hrun
  obtain ⟨-, hallows, hready⟩ := invariant_at hidle hfree hrun
  have hne : s.thread ≠ v.entry.op.session := by
    rw [session_of_allows hallows]
    exact (hothers v hv).symm
  have hkept := (Postgres.exec_of_ne hne hready).1
  rw [hrun.exec_eq (List.mem_append_right _ List.mem_cons_self)] at hkept
  rw [hkept]
  exact hbefore

/-- Who is over makes no call. -/
theorem no_step_of_left (hidle : db.Idle) (hfree : db.keys.committed takers.id = none)
    {early late : List (KeyStep Bool E)}
    (hrun : Runs postgres takers.program db (early ++ late) pool' db') {mine committed : Bool}
    (hseat : takers.seats early who = .left mine committed) : ∀ v ∈ late, v.thread ≠ who := by
  rintro v hv rfl
  obtain ⟨before, after, rfl⟩ := List.append_of_mem hv
  rw [← List.append_assoc] at hrun
  obtain ⟨-, hallows, -⟩ := invariant_at hidle hfree hrun
  rw [seats_append, hseat, after_left] at hallows
  exact hallows.elim

/-- Who has committed has made its commit. -/
theorem exists_commit_iff (hidle : db.Idle) (hfree : db.keys.committed takers.id = none)
    {early late : List (KeyStep Bool E)}
    (hrun : Runs postgres takers.program db (early ++ late) pool' db') :
    (∃ c ∈ early, c.entry.op = .commit who) ↔ ∃ mine, takers.seats early who = .left mine true := by
  constructor
  · rintro ⟨c, hc, hcommit⟩
    exact left_of_commit hidle hfree hrun hc hcommit
  · rintro ⟨mine, hleft⟩
    obtain ⟨entry, hentry, session, hop⟩ := exists_commit (by simp) hleft
    obtain ⟨c, hc, hthread, rfl⟩ := Runs.exists_step hentry
    refine ⟨c, hc, ?_⟩
    obtain ⟨before, after, rfl⟩ := List.append_of_mem hc
    rw [List.append_assoc] at hrun
    obtain ⟨-, hallows, -⟩ := invariant_at hidle hfree hrun
    have hsession := session_of_allows hallows
    rw [hop, hthread] at hsession
    rw [hop, ← hsession]
    rfl

/-- A committed row is that of the transaction which has committed it; while one of the two
has not, it is the other's. -/
theorem owner_of_committed {steps : List (KeyStep Bool E)}
    (h : TakeInvariant takers (takers.seats steps) db) {row : KeyRow}
    (hrow : db.keys.committed takers.id = some row)
    (hopen : takers.seats steps who ≠ .left true true) :
    takers.seats steps (!who) = .left true true := by
  obtain ⟨-, owner, howner⟩ := h.committed row hrow
  rcases Bool.eq_or_eq_not owner who with rfl | rfl
  · exact absurd howner hopen
  · exact howner

/-- Who claimed the key before the other one goes on holds it no more. -/
theorem first_is_over {steps : List (KeyStep Bool E)}
    (h : TakeInvariant takers (takers.seats steps) db) (hasking : takers.seats steps who = .asking)
    (hready : db.keys.isFree who takers.id = true)
    (hpast : (takers.seats steps (!who)).mine.isSome = true) :
    ∃ committed, takers.seats steps (!who) = .left true committed := by
  have hsits := h.sits (!who)
  have hlost := h.lost (!who)
  rw [Bool.not_not, hasking] at hlost
  cases hseat : takers.seats steps (!who) with
  | inside mine =>
    rw [hseat] at hsits hlost
    cases mine with
    | false => exact nomatch hlost rfl
    | true =>
      have hheld := hsits.1
      rw [Versions.heldBy_eq_none_of_isFree hready (Bool.not_ne_self who)] at hheld
      cases hheld
  | left mine committed =>
    rw [hseat] at hlost
    cases mine with
    | false => exact nomatch hlost rfl
    | true => exact ⟨committed, rfl⟩
  | _ =>
    rw [hseat] at hpast
    cases hpast

end Takers

/-! ### The second claim -/

/-- **When a concurrent repeat gets a claim.** Of two transactions that take one key with
one fingerprint, one has claimed it before the other's insertion goes on. That other one
gets a claim, which holds the key if the first has not committed and is an answer or a
refusal to wait if it has, exactly if the first has not committed between the snapshot of
the other's statement and its insertion. -/
theorem second_claim_is_answered_iff {takers : Takers E α} {db db' : Postgres Bool E}
    {before between late : List (KeyStep Bool E)} {s t : KeyStep Bool E} {second : Bool}
    {pool' : Bool → Work Bool E α} (hidle : db.Idle)
    (hfree : db.keys.committed takers.id = none)
    (hrun : Runs postgres takers.program db (before ++ s :: between ++ t :: late) pool' db')
    (hsnapshot : s.entry.op = .snapshot second) (hclaim : t.entry.op = takers.claiming second)
    (hfirst : ∃ u ∈ before ++ s :: between, u.entry.op = takers.claiming (!second)) :
    (∃ rows claim, t.entry = ⟨takers.claiming second, .ok rows⟩ ∧
        claimOf rows takers.fingerprint = .ok (.ok claim) ∧
        (claim.outcome = .taken ↔
          ∀ c ∈ before ++ s :: between, c.entry.op ≠ .commit (!second))) ↔
      ∀ c ∈ between, c.entry.op ≠ .commit (!second) := by
  obtain ⟨u, hu, huclaim⟩ := hfirst
  have hpast := Takers.mine_of_claimed hidle hfree hrun hu huclaim
  obtain ⟨transaction, htransaction, htenant, hseen⟩ :=
    Takers.snapshot_of_claiming hidle hfree hrun hsnapshot hclaim
  obtain ⟨h, hallows, hready⟩ := Takers.invariant_at hidle hfree hrun
  have hcommits : (∃ c ∈ before ++ s :: between, c.entry.op = .commit (!second)) ↔
      ∃ mine, takers.seats (before ++ s :: between) (!second) = .left mine true :=
    Takers.exists_commit_iff hidle hfree hrun
  obtain ⟨rfl, hasking⟩ := Takers.seats_of_claiming hallows hclaim
  rw [hclaim] at hready
  obtain ⟨committed, hleft⟩ := Takers.first_is_over h hasking hready hpast
  have hsits := h.sits t.thread
  rw [hasking] at hsits
  have hentry := hrun.entry_eq (List.mem_append_right _ List.mem_cons_self) hclaim
  cases hcommitted : t.before.keys.committed takers.id with
  | none =>
    -- The first was rolled back, and the key is taken.
    have hnone : ∀ c ∈ before ++ s :: between, c.entry.op ≠ .commit (!t.thread) := by
      intro c hc hcommit
      obtain ⟨mine, hover⟩ := hcommits.1 ⟨c, hc, hcommit⟩
      rw [hleft] at hover
      cases hover
      have hkept := h.kept _ hleft
      rw [hcommitted] at hkept
      cases hkept
    rw [Postgres.exec_claiming_free htransaction htenant
      (Versions.visible_eq_none.2 ⟨hsits.1, hcommitted⟩)] at hentry
    exact iff_of_true ⟨_, _, hentry, rfl, iff_of_true rfl hnone⟩ fun c hc =>
      hnone c (List.mem_append_right _ (List.mem_cons_of_mem _ hc))
  | some row =>
    have hover := Takers.owner_of_committed h hcommitted (by rw [hasking]; simp)
    have hvisible : t.before.keys.visible t.thread takers.id = some row := by
      rw [Versions.visible_of_not_heldBy hsits.1, hcommitted]
    rw [Postgres.exec_claiming_taken htransaction htenant hvisible, hseen] at hentry
    obtain ⟨c, hc, hcommit⟩ := hcommits.2 ⟨true, hover⟩
    have hrun' := hrun
    rw [List.append_assoc, List.cons_append] at hrun'
    obtain ⟨hs, hallows', -⟩ := Takers.invariant_at hidle hfree hrun'
    obtain ⟨-, hopened⟩ := Takers.seats_of_snapshot hallows' hsnapshot
    cases hold : s.before.keys.committed takers.id with
    | none =>
      -- The snapshot is older than the commit of the first.
      rw [hold] at hentry
      refine iff_of_false ?_ fun hbetween => ?_
      · rintro ⟨rows, claim, hentry', hclaimed, -⟩
        rw [hentry] at hentry'
        cases hentry'
        cases hclaimed
      · rcases List.mem_append.1 hc with hbefore | hlater
        · obtain ⟨mine, hleft'⟩ := Takers.left_of_commit hidle hfree hrun' hbefore hcommit
          have hpersists : takers.seats (before ++ s :: between) (!t.thread) = .left mine true := by
            rw [Takers.seats_append, hleft', Takers.after_left]
          rw [hover] at hpersists
          cases hpersists
          have hkept := hs.kept _ hleft'
          rw [hold] at hkept
          cases hkept
        · rcases List.mem_cons.1 hlater with rfl | hlater
          · rw [hsnapshot] at hcommit
            cases hcommit
          · exact hbetween c hlater hcommit
    | some older =>
      -- The commit of the first came before the snapshot.
      rw [hold] at hentry
      have hprinted := (hs.committed older hold).1
      have hleft' := Takers.owner_of_committed hs hold (by rw [hopened]; simp)
      have hquiet := Takers.no_step_of_left hidle hfree hrun' hleft'
      refine iff_of_true ?_ fun c hc hcommit => ?_
      · have hsome : ¬ ∀ c ∈ before ++ s :: between, c.entry.op ≠ .commit (!t.thread) :=
          fun hnone => hnone c hc hcommit
        cases hstate : older.state with
        | inProgress =>
          exact ⟨_, ⟨.inFlight, {}⟩, hentry, by simp [claimOf, olderRows, hprinted, hstate],
            iff_of_false (by simp) hsome⟩
        | completed answer =>
          exact ⟨_, ⟨.replay, answer⟩, hentry, by simp [claimOf, olderRows, hprinted, hstate],
            iff_of_false (by simp) hsome⟩
      · have hmem : c ∈ s :: (between ++ t :: late) :=
          List.mem_cons_of_mem _ (List.mem_append_left _ hc)
        obtain ⟨early, rest, hsplit⟩ := List.append_of_mem hmem
        rw [hsplit, ← List.append_assoc] at hrun'
        obtain ⟨-, hallowed, -⟩ := Takers.invariant_at hidle hfree hrun'
        have hthread := Takers.session_of_allows hallowed
        rw [hcommit] at hthread
        exact hquiet c hmem hthread.symm

/-! ### A repeat that began too early -/

theorem only_produce (platform : Platform) (session : ι) (script : Script E) :
    (produce platform session script).Only (Statement.IsWork session) :=
  honours_perform_bind rfl fun _ _ => Honours.bind (honours_ofExcept _) fun _ => trivial

theorem only_complete (session : ι) (tenant : TenantId) (key : IdempotencyKey)
    (answer : SavedAnswer) :
    (complete session tenant key answer : Work ι E (Result Unit)).Only
      (Statement.IsWork session) := by
  refine honours_perform_bind rfl fun changed _ => ?_
  by_cases hchanged : changed ≠ 1
  · rw [if_pos hchanged]
    trivial
  · rw [if_neg hchanged]
    trivial

/-- Two requests with one key and one body in the tenant's area of the base handler. -/
def guardedTakers (platform : Platform) (tenant : TenantId) (key : IdempotencyKey)
    (fingerprint : RequestFingerprint) (expiresAt : Bool → Int) (scripts : Bool → Script E) :
    Takers E Served where
  tenant := tenant
  key := key
  fingerprint := fingerprint
  expiresAt := expiresAt
  rest who claim :=
    if claim.outcome ≠ .taken then pure ⟨claim.outcome, claim.answer⟩
    else do
      let answer ← produce platform who (scripts who)
      let completed ← complete who tenant key answer
      ofExcept completed.orRefuse
      pure ⟨.taken, answer⟩
  works who claim := by
    by_cases htaken : claim.outcome ≠ .taken
    · rw [if_pos htaken]
      trivial
    · rw [if_neg htaken]
      exact (only_produce platform who (scripts who)).bind fun answer =>
        (only_complete who tenant key answer).bind fun completed =>
          (honours_ofExcept _).bind fun _ => trivial

/-- One request with an empty object for a body, sent twice. -/
def repeatedTakers : Takers Nat Served :=
  guardedTakers standInPlatform standInTenant sentKey
    ⟨standInPlatform.sha256 emptyObject, by decide +kernel⟩ (fun _ => 24 * KeyLifetime.hour)
    fun _ => ⟨1, .ok (.ok (.object []))⟩

/-- The two run in the order of `picks`. -/
def repeatedPlay (picks : List Bool) :
    List (KeyStep Bool Nat) × (Bool → Work Bool Nat Served) × Postgres Bool Nat :=
  play postgres picks repeatedTakers.program {}

/-- The first request is served, and then the second. -/
def inTurn : List Bool := List.replicate 6 false ++ List.replicate 4 true

/-- The second request's statement begins while the first is at work, and waits for it. -/
def overlapping : List Bool :=
  List.replicate 3 false ++ List.replicate 3 true ++ List.replicate 3 false ++
    List.replicate 4 true

/-- A repeat that comes later gets the answer. -/
theorem later_repeat_gets_a_claim :
    ∃ rows claim, ((repeatedPlay inTurn).1.get ⟨8, by decide +kernel⟩).entry =
        ⟨repeatedTakers.claiming true, .ok rows⟩ ∧
      claimOf rows repeatedTakers.fingerprint = .ok (.ok claim) ∧
      (claim.outcome = .taken ↔ ∀ c ∈ (repeatedPlay inTurn).1.take 7 ++
        [(repeatedPlay inTurn).1.get ⟨7, by decide +kernel⟩], c.entry.op ≠ .commit (!true)) := by
  have hrun : Runs postgres repeatedTakers.program {} (repeatedPlay inTurn).1
      (repeatedPlay inTurn).2.1 (repeatedPlay inTurn).2.2 := play_runs postgres _ _ _
  have hcut : (repeatedPlay inTurn).1 = (repeatedPlay inTurn).1.take 7 ++
      [(repeatedPlay inTurn).1.get ⟨7, by decide +kernel⟩] ++
      (repeatedPlay inTurn).1.get ⟨8, by decide +kernel⟩ :: (repeatedPlay inTurn).1.drop 9 := by
    rw [List.append_assoc, List.singleton_append, List.get_eq_getElem, List.get_eq_getElem,
      List.getElem_cons_drop, List.getElem_cons_drop, List.take_append_drop]
  rw [hcut] at hrun
  exact (second_claim_is_answered_iff emptyPostgres_idle rfl hrun rfl rfl
    ⟨(repeatedPlay inTurn).1.get ⟨2, by decide +kernel⟩, List.mem_append_left _
      (List.mem_iff_getElem.2 ⟨2, by decide +kernel, List.getElem_take ..⟩), rfl⟩).2
    fun c hc => nomatch hc

/-- A repeat whose statement began before the first has committed gets no claim but an
exception: its insertion waits, inserts nothing, and its snapshot has no row. -/
theorem early_repeat_crashes :
    Runs postgres repeatedTakers.program {} (repeatedPlay overlapping).1
        (repeatedPlay overlapping).2.1 (repeatedPlay overlapping).2.2 ∧
      ((repeatedPlay overlapping).1.map fun t => (t.thread, t.entry))[8]? =
        some (true, ⟨repeatedTakers.claiming true, .ok []⟩) ∧
      claimOf [] repeatedTakers.fingerprint = .error (.thrown (.runtime
        "http_idempotency_key: занятие ключа не вернуло строки")) ∧
      (repeatedPlay overlapping).2.1 true = .raise (.thrown (.runtime
        "http_idempotency_key: занятие ключа не вернуло строки")) :=
  ⟨play_runs postgres _ _ _, rfl, rfl, rfl⟩

end Pdr.Http
