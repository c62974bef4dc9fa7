import Mathlib.Logic.Function.Basic

/-!
# Rows with one uncommitted version

In a table under multiversion concurrency control a transaction writes new versions of rows,
which the others do not see until it commits. A key that one open transaction has written
makes the others wait, so a key has at most one uncommitted version.

## Main definitions

* `StoreProgram.Versions`: the committed row of each key and its uncommitted version.
* `StoreProgram.Versions.heldBy`: what a transaction has written under a key.
* `StoreProgram.Versions.isFree`: no other transaction has written the key.
* `StoreProgram.Versions.write`, `StoreProgram.Versions.publish`,
  `StoreProgram.Versions.discard`: a write, a commit and a rollback.
-/

namespace StoreProgram

/-- Each key has at most one committed row, and at most one row that an open transaction of
`τ` has written and not committed. -/
structure Versions (τ κ ρ : Type) where
  committed : κ → Option ρ := fun _ => none
  pending : κ → Option (τ × ρ) := fun _ => none

namespace Versions

variable {τ κ ρ : Type} [DecidableEq τ]

/-- The row that the transaction has written under the key. -/
def heldBy (versions : Versions τ κ ρ) (t : τ) (key : κ) : Option ρ :=
  match versions.pending key with
  | some (holder, row) => if holder = t then some row else none
  | none => none

/-- No transaction but this one has written the key. -/
def isFree (versions : Versions τ κ ρ) (t : τ) (key : κ) : Bool :=
  match versions.pending key with
  | some (holder, _) => decide (holder = t)
  | none => true

/-- What the transaction sees under the key: its own row, or else the committed one. -/
def visible (versions : Versions τ κ ρ) (t : τ) (key : κ) : Option ρ :=
  (versions.heldBy t key).or (versions.committed key)

/-- The transaction writes a row. -/
def write [DecidableEq κ] (versions : Versions τ κ ρ) (t : τ) (key : κ) (row : ρ) :
    Versions τ κ ρ :=
  { versions with pending := Function.update versions.pending key (some (t, row)) }

/-- The transaction commits: its rows are seen by everybody. -/
def publish (versions : Versions τ κ ρ) (t : τ) : Versions τ κ ρ where
  committed key := versions.visible t key
  pending key := if (versions.heldBy t key).isSome then none else versions.pending key

/-- The transaction is rolled back: its rows are gone. -/
def discard (versions : Versions τ κ ρ) (t : τ) : Versions τ κ ρ :=
  { versions with
    pending := fun key => if (versions.heldBy t key).isSome then none else versions.pending key }

variable {versions : Versions τ κ ρ} {t u : τ} {key other : κ} {row row' : ρ}

theorem heldBy_eq_some :
    versions.heldBy t key = some row ↔ versions.pending key = some (t, row) := by
  unfold heldBy
  split
  · rename_i holder held hpending
    rw [hpending]
    by_cases hholder : holder = t
    · simp [hholder]
    · simp [hholder]
  · rename_i hpending
    simp [hpending]

theorem heldBy_eq_none_of_isFree (h : versions.isFree t key = true) (hne : u ≠ t) :
    versions.heldBy u key = none := by
  rw [Option.eq_none_iff_forall_ne_some]
  intro row hheld
  rw [isFree, heldBy_eq_some.1 hheld] at h
  exact hne (of_decide_eq_true h)

theorem eq_of_heldBy (h : versions.heldBy t key = some row)
    (h' : versions.heldBy u key = some row') : t = u := by
  have hsame := (heldBy_eq_some.1 h).symm.trans (heldBy_eq_some.1 h')
  simp only [Option.some.injEq, Prod.mk.injEq] at hsame
  exact hsame.1

theorem visible_eq_none : versions.visible t key = none ↔
    versions.heldBy t key = none ∧ versions.committed key = none := by
  simp [visible, Option.or_eq_none_iff]

@[simp] theorem visible_of_not_heldBy (h : versions.heldBy t key = none) :
    versions.visible t key = versions.committed key := by
  simp [visible, h]

/-! ### A write -/

section Write

variable [DecidableEq κ]

omit [DecidableEq τ] in
@[simp] theorem committed_write :
    (versions.write t key row).committed = versions.committed := rfl

@[simp] theorem heldBy_write_self : (versions.write t key row).heldBy t key = some row := by
  simp [heldBy, write]

theorem heldBy_write_key (hne : other ≠ key) :
    (versions.write t key row).heldBy u other = versions.heldBy u other := by
  simp [heldBy, write, hne]

theorem heldBy_write : (versions.write t key row).heldBy t other =
    if key = other then some row else versions.heldBy t other := by
  by_cases hkey : key = other
  · subst hkey
    rw [if_pos rfl, heldBy_write_self]
  · rw [if_neg hkey, heldBy_write_key (Ne.symm hkey)]

theorem heldBy_write_of_ne (hfree : versions.isFree t key = true) (hne : u ≠ t) :
    (versions.write t key row).heldBy u other = versions.heldBy u other := by
  by_cases hkey : other = key
  · subst hkey
    rw [heldBy_eq_none_of_isFree hfree hne]
    simp [heldBy, write, hne.symm]
  · exact heldBy_write_key hkey

end Write

/-! ### A commit and a rollback -/

@[simp] theorem committed_publish :
    (versions.publish t).committed key = versions.visible t key := rfl

@[simp] theorem heldBy_publish_self : (versions.publish t).heldBy t key = none := by
  rw [Option.eq_none_iff_forall_ne_some]
  intro row hheld
  have hpending := heldBy_eq_some.1 hheld
  simp only [publish] at hpending
  split at hpending
  · cases hpending
  · rename_i hnone
    exact hnone (by rw [heldBy_eq_some.2 hpending]; rfl)

/-- The uncommitted rows of the others outlive the end of a transaction. -/
theorem pending_of_ended_iff (hne : u ≠ t) :
    (if (versions.heldBy t key).isSome then none else versions.pending key) = some (u, row) ↔
      versions.pending key = some (u, row) := by
  split
  · rename_i hsome
    obtain ⟨held, hheld⟩ := Option.isSome_iff_exists.1 hsome
    rw [heldBy_eq_some.1 hheld]
    simp [Ne.symm hne]
  · rfl

@[simp] theorem heldBy_publish_of_ne (hne : u ≠ t) :
    (versions.publish t).heldBy u key = versions.heldBy u key := by
  refine Option.ext fun row => ?_
  rw [heldBy_eq_some, heldBy_eq_some]
  exact pending_of_ended_iff hne

@[simp] theorem committed_discard : (versions.discard t).committed = versions.committed := rfl

@[simp] theorem heldBy_discard_self : (versions.discard t).heldBy t key = none :=
  heldBy_publish_self

@[simp] theorem heldBy_discard_of_ne (hne : u ≠ t) :
    (versions.discard t).heldBy u key = versions.heldBy u key :=
  heldBy_publish_of_ne hne

end Versions

end StoreProgram
