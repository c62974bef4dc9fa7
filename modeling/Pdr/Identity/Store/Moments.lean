import Pdr.Identity.Store.Laws

/-!
# The order of moments in the tables

Sessions, links and consents carry the moments at which they began and ended, and their tables
check that these come in order. The checks of the first two tables are about nothing else, so
a statement on them fails where a row it writes is out of order, and where it would give two
rows one key.

## Main definitions

* `Pdr.Identity.WritesInOrder`: the moments of every row a call writes come in order.

## Main results

* `Pdr.Identity.exec_sessions_ok`, `Pdr.Identity.exec_markUsed_ok`: a call that writes its rows
  in order and gives no key twice succeeds.
-/

namespace Pdr.Identity

open StoreProgram

/-- The moments of every row the call would write come in order: of a row it adds and of every
row it changes. -/
def WritesInOrder : Call → Database → Prop
  | .tokens (.issue token), _ => Schema.check token = true
  | .tokens (.markUsed token), db => ∀ row ∈ db.tokens.rows,
      row.tenant = token.tenant → row.id = token.id → row.usedAt = none →
        Schema.check { row with usedAt := token.usedAt } = true
  | .sessions (.save session), db =>
      (∀ row ∈ db.sessions.rows, row.id = session.id →
        Schema.check { row with revokedAt := session.revokedAt } = true) ∧
      ((∀ row ∈ db.sessions.rows, row.id ≠ session.id) → Schema.check session = true)
  | .sessions (.revokeAllFor tenant person at_), db => ∀ row ∈ db.sessions.rows,
      row.id.tenant = tenant → row.person = person → row.revokedAt = none →
        Schema.check { row with revokedAt := some at_ } = true
  | .consents (.save consent), db => ∀ row ∈ db.consents.rows,
      row.tenant = consent.tenant → row.id = consent.id → ConsentCall.mayTake consent row = true
  | _, _ => True

/-- The store answers the call, and with no exception. -/
def Answers (call : Call) (db : Database) : Prop := ∃ answer, (database.exec call db).1 = .ok answer

theorem commit_ok {Row : Type} [Schema Row] {name : String} {table : Table Row}
    {outcome : Option (Table Row)} (h : ∃ table', outcome = some table') :
    (commit name table outcome).1 = .ok () := by
  obtain ⟨table', rfl⟩ := h
  rfl

theorem check_session {row : Session} :
    Schema.check row = true ↔
      row.createdAt < row.expiresAt ∧ ∀ revoked ∈ row.revokedAt, row.createdAt ≤ revoked := by
  simp [Schema.check, Option.all_eq_true]

theorem check_token {row : OneTimeToken} :
    Schema.check row = true ↔
      row.createdAt < row.expiresAt ∧ ∀ used ∈ row.usedAt, row.createdAt ≤ used := by
  simp [Schema.check, Option.all_eq_true]

section Answers

variable {db : Database}

/-- Sessions are saved by their key, so only the order of moments can be in the way. -/
theorem exec_sessions_ok {call : SessionCall} (h : WritesInOrder (.sessions call) db) :
    Answers (.sessions call) db := by
  cases call with
  | find id => exact ⟨_, rfl⟩
  | save session =>
    refine ⟨(), commit_ok (Table.exists_upsert ?_ ?_ ?_)⟩
    · intro stored hstored hsame
      exact h.1 stored hstored (of_decide_eq_true hsame)
    · intro a b hclash
      simp only [Schema.clash, decide_eq_true_eq] at hclash ⊢
      split at hclash <;> split at hclash <;> exact hclash
    · intro habsent
      have hnone : ∀ row ∈ db.sessions.rows, row.id ≠ session.id := fun row hrow =>
        of_decide_eq_false (habsent row hrow)
      exact ⟨h.2 hnone, habsent⟩
  | revokeAllFor tenant person at_ =>
    refine ⟨(), commit_ok (Table.exists_updateWhere ?_ ?_)⟩
    · intro row hrow hchosen
      simp only [Bool.and_eq_true, decide_eq_true_eq, Option.isNone_iff_eq_none] at hchosen
      exact h row hrow hchosen.1.1 hchosen.1.2 hchosen.2
    · intro a b hclash
      simp only [Schema.clash, decide_eq_true_eq] at hclash ⊢
      split at hclash <;> split at hclash <;> exact hclash

/-- A mark moves no key. -/
theorem exec_markUsed_ok {token : OneTimeToken} (h : WritesInOrder (.tokens (.markUsed token)) db) :
    Answers (.tokens (.markUsed token)) db := by
  refine ⟨(), commit_ok (Table.exists_updateWhere ?_ ?_)⟩
  · intro row hrow hchosen
    simp only [Bool.and_eq_true, decide_eq_true_eq, Option.isNone_iff_eq_none] at hchosen
    exact h row hrow hchosen.1.1 hchosen.1.2 hchosen.2
  · intro a b hclash
    simp only [Schema.clash] at hclash ⊢
    split at hclash <;> split at hclash <;> exact hclash

/-- A credential has no moments, and is saved by its key. -/
theorem exec_credentials_ok (call : CredentialCall) : Answers (.credentials call) db := by
  cases call with
  | findByEmail tenant mail => exact ⟨_, rfl⟩
  | findFor tenant person => exact ⟨_, rfl⟩
  | save tenant person hash =>
    refine ⟨(), commit_ok (Table.exists_upsert (fun _ _ _ => rfl) ?_ fun habsent => ⟨rfl, ?_⟩)⟩
    · intro a b hclash
      simp only [Schema.clash] at hclash ⊢
      split at hclash <;> split at hclash <;> exact hclash
    · exact habsent

/-- A window is counted by its key, and never down to nothing. -/
theorem exec_attempts_ok (call : AttemptCall) : Answers (.attempts call) db := by
  cases call with
  | seen tenant subject of => exact ⟨_, rfl⟩
  | forget tenant subject of => exact ⟨_, rfl⟩
  | register tenant subject of at_ window =>
    obtain ⟨table, hcounted⟩ : ∃ table, db.attempts.upsert (AttemptCall.isOf tenant subject of)
        (fun row => { row with window := AttemptCall.countedUp row.window at_ (at_ - window) })
        ⟨tenant, subject, of, ⟨at_, 1⟩⟩ = some table := by
      refine Table.exists_upsert ?_ ?_ fun habsent => ⟨rfl, habsent⟩
      · intro stored _ _
        refine decide_eq_true ?_
        simp only [AttemptCall.countedUp]
        split <;> omega
      · intro a b hclash
        simp only [Schema.clash] at hclash ⊢
        split at hclash <;> split at hclash <;> exact hclash
    refine ⟨AttemptCall.windowOf tenant subject of table, ?_⟩
    simp only [exec_attempts, AttemptCall.exec, hcounted]

end Answers

end Pdr.Identity
