import Pdr.StoreProgram.RowSecurity

/-!
# Statements under row security depend on their owner's rows

Where each key of a table belongs to one owner, a statement that runs under the policy of an owner
is decided by the rows of that owner: whether it is rejected, why, and what it leaves of them. Two
tables that have the same rows of the owners in sight, this one among them, still have the same
rows of them after it.

## Main definitions

* `StoreProgram.KeysWithin`: rows that share a key have one owner.
* `StoreProgram.Table.SameOn`: two tables have the same rows of one kind.
* `StoreProgram.Agree`: two statements are rejected for one reason, or what they leave is alike.

## Main results

* `StoreProgram.Table.agree_insertUnder` and its siblings: statements on tables with the same rows
  in sight agree.
-/

namespace StoreProgram

/-- Rows that share a key have one owner. -/
def KeysWithin {Row Owner : Type} [Schema Row] (ownerOf : Row → Owner) : Prop :=
  ∀ a b : Row, Schema.clash a b = true → ownerOf a = ownerOf b

/-- Two statements are rejected for one reason, or what they leave is alike. -/
inductive Agree {α : Type} (alike : α → α → Prop) : Except Rejection α → Except Rejection α → Prop
  | accepted {left right : α} (h : alike left right) : Agree alike (.ok left) (.ok right)
  | rejected (reason : Rejection) : Agree alike (.error reason) (.error reason)

theorem Agree.map {α β : Type} {alike : α → α → Prop} {alike' : β → β → Prop} {f : α → β}
    {left right : Except Rejection α} (h : Agree alike left right)
    (hf : ∀ a b, alike a b → alike' (f a) (f b)) : Agree alike' (left.map f) (right.map f) := by
  cases h with
  | accepted h => exact .accepted (hf _ _ h)
  | rejected reason => exact .rejected reason

/-- A list is pairwise related if its two parts are and members of different parts are. -/
theorem pairwise_of_parts {α : Type} {R : α → α → Prop} {p : α → Bool} {members : List α}
    (hyes : (members.filter p).Pairwise R) (hno : (members.filter fun a => !p a).Pairwise R)
    (hcross : ∀ a b, p a ≠ p b → R a b) : members.Pairwise R := by
  induction members with
  | nil => exact .nil
  | cons a members ih =>
    have hother : ∀ b ∈ members, p b = p a → b ∈ members.filter fun c => p c == p a :=
      fun b hb hsame => List.mem_filter.2 ⟨hb, by simp [hsame]⟩
    cases ha : p a with
    | true =>
      rw [List.filter_cons_of_pos ha, List.pairwise_cons] at hyes
      rw [List.filter_cons_of_neg (by simp [ha])] at hno
      refine List.pairwise_cons.2 ⟨fun b hb => ?_, ih hyes.2 hno⟩
      by_cases hsame : p b = true
      · exact hyes.1 b (List.mem_filter.2 ⟨hb, hsame⟩)
      · exact hcross a b fun h => hsame (h ▸ ha)
    | false =>
      rw [List.filter_cons_of_neg (by simp [ha])] at hyes
      rw [List.filter_cons_of_pos (by simp [ha]), List.pairwise_cons] at hno
      refine List.pairwise_cons.2 ⟨fun b hb => ?_, ih hyes hno.2⟩
      by_cases hsame : p b = true
      · exact hcross a b fun h => Bool.false_ne_true (ha ▸ h.trans hsame)
      · exact hno.1 b (List.mem_filter.2 ⟨hb, by simp [hsame]⟩)

namespace Table

variable {Row Owner : Type} [Schema Row] [DecidableEq Owner] {ownerOf : Row → Owner}
  {owner : Owner} {inSight : Owner → Bool} {table table' : Table Row} {row : Row}
  {chosen conflict : Row → Bool} {change : Row → Row}

/-- Two tables have the same rows of one kind. -/
def SameOn (kind : Row → Bool) (table table' : Table Row) : Prop :=
  table.rows.filter kind = table'.rows.filter kind

theorem SameBeyond.sameOn {own kind : Row → Bool} (h : SameBeyond own table table')
    (hkind : ∀ row, kind row = true → own row = false) : SameOn kind table table' :=
  h.filter_eq hkind

/-- A search for rows of the kind finds the same in both tables. -/
theorem SameOn.find?_eq {kind wanted : Row → Bool} (h : SameOn kind table table')
    (hwanted : ∀ row, wanted row = true → kind row = true) :
    table.find? wanted = table'.find? wanted := by
  have hkind : ∀ other : Table Row, other.find? wanted = (other.rows.filter kind).find? wanted := by
    intro other
    rw [List.find?_filter, find?]
    congr 1
    funext row
    cases hrow : wanted row with
    | false => simp
    | true => simp [hwanted row hrow]
  rw [hkind, hkind, h]

theorem SameOn.any_eq {kind wanted : Row → Bool} (h : SameOn kind table table')
    (hwanted : ∀ row, wanted row = true → kind row = true) :
    table.rows.any wanted = table'.rows.any wanted := by
  have hany : ∀ other : Table Row, other.rows.any wanted = (other.find? wanted).isSome :=
    fun _ => List.isSome_find?.symm
  rw [hany, hany, h.find?_eq hwanted]

omit [Schema Row] in
theorem filter_owner (hsight : inSight owner = true) (rows : List Row) :
    (rows.filter fun row => inSight (ownerOf row)).filter (fun row => ownerOf row = owner) =
      rows.filter fun row => ownerOf row = owner := by
  rw [List.filter_filter]
  refine List.filter_congr fun row _ => ?_
  by_cases hrow : ownerOf row = owner
  · rw [hrow, hsight, Bool.and_true]
  · rw [decide_eq_false hrow, Bool.false_and]

theorem seen_eq (hsight : inSight owner = true)
    (h : SameOn (fun row => inSight (ownerOf row)) table table') :
    table.seen (.isolation ownerOf owner) = table'.seen (.isolation ownerOf owner) := by
  have hseen : ∀ other : Table Row, other.seen (.isolation ownerOf owner) =
      (other.rows.filter fun row => inSight (ownerOf row)).filter
        fun row => ownerOf row = owner := fun other => (filter_owner hsight other.rows).symm
  rw [hseen, hseen, h]

/-! ### What is written -/

section Write

variable {rows rows' : List Row}

/-- Rows that are new for one owner only can be written if those of the owner can. -/
theorem isSome_write_iff (hkeys : KeysWithin ownerOf)
    (hrest : rows.filter (fun row => !decide (ownerOf row = owner)) =
      table.rows.filter fun row => !decide (ownerOf row = owner)) :
    (write rows).isSome = true ↔
      (∀ row ∈ rows.filter fun row => ownerOf row = owner, Schema.check row = true) ∧
        (rows.filter fun row => ownerOf row = owner).Pairwise fun a b => ¬ Schema.clash a b := by
  have hwrite : (write rows).isSome = true ↔
      (∀ row ∈ rows, Schema.check row = true) ∧
        rows.Pairwise fun a b => ¬ Schema.clash a b := by
    unfold write
    split
    · rename_i hrows
      exact iff_of_true rfl hrows
    · rename_i hrows
      exact iff_of_false Bool.false_ne_true hrows
  rw [hwrite]
  constructor
  · rintro ⟨hcheck, hdistinct⟩
    exact ⟨fun row hrow => hcheck row (List.mem_filter.1 hrow).1, hdistinct.filter _⟩
  · rintro ⟨hcheck, hdistinct⟩
    refine ⟨fun row hrow => ?_, pairwise_of_parts hdistinct ?_ fun a b hparts hclash => ?_⟩
    · by_cases howner : ownerOf row = owner
      · exact hcheck row (List.mem_filter.2 ⟨hrow, decide_eq_true howner⟩)
      · have hold : row ∈ table.rows.filter fun row => !decide (ownerOf row = owner) :=
          hrest ▸ List.mem_filter.2 ⟨hrow, by simp [howner]⟩
        exact table.checked row (List.mem_filter.1 hold).1
    · rw [hrest]
      exact table.distinct.filter _
    · exact hparts (by rw [hkeys a b hclash])

/-- Rows that are new for one owner only are written or not by what is in sight. -/
theorem agree_write (hkeys : KeysWithin ownerOf) (hsight : inSight owner = true)
    (hsame : rows.filter (fun row => inSight (ownerOf row)) =
      rows'.filter fun row => inSight (ownerOf row))
    (hrest : rows.filter (fun row => !decide (ownerOf row = owner)) =
      table.rows.filter fun row => !decide (ownerOf row = owner))
    (hrest' : rows'.filter (fun row => !decide (ownerOf row = owner)) =
      table'.rows.filter fun row => !decide (ownerOf row = owner)) :
    Agree (SameOn fun row => inSight (ownerOf row)) (Rejection.orSchema (write rows))
      (Rejection.orSchema (write rows')) := by
  have hown : rows.filter (fun row => ownerOf row = owner) =
      rows'.filter fun row => ownerOf row = owner := by
    rw [← filter_owner hsight rows, hsame, filter_owner hsight]
  have hiff := (isSome_write_iff hkeys hrest).trans
    ((iff_of_eq (by rw [hown])).trans (isSome_write_iff hkeys hrest').symm)
  cases hleft : write rows with
  | none =>
    cases hright : write rows' with
    | none => exact .rejected _
    | some right => rw [hleft, hright] at hiff; simp at hiff
  | some left =>
    cases hright : write rows' with
    | none => rw [hleft, hright] at hiff; simp at hiff
    | some right =>
      refine .accepted ?_
      rw [SameOn, rows_of_write hleft, rows_of_write hright, hsame]

end Write

/-! ### The statements of a session -/

section Statements

variable (hkeys : KeysWithin ownerOf) (hsight : inSight owner = true)
  (h : SameOn (fun row => inSight (ownerOf row)) table table')
include hkeys hsight h

theorem agree_insert (howner : ownerOf row = owner) :
    Agree (SameOn fun row => inSight (ownerOf row)) (Rejection.orSchema (table.insert row))
      (Rejection.orSchema (table'.insert row)) := by
  have hnew : ∀ rows : List Row, (rows ++ [row]).filter (fun row => !decide (ownerOf row = owner)) =
      rows.filter fun row => !decide (ownerOf row = owner) := fun rows => by
    rw [List.filter_append, List.filter_cons_of_neg (by simp [howner]), List.filter_nil,
      List.append_nil]
  refine agree_write hkeys hsight ?_ (hnew _) (hnew _)
  rw [List.filter_append, List.filter_append, h]

theorem agree_insertUnder (row : Row) :
    Agree (SameOn fun row => inSight (ownerOf row))
      (table.insertUnder (.isolation ownerOf owner) row)
      (table'.insertUnder (.isolation ownerOf owner) row) := by
  unfold insertUnder
  split
  · rename_i htakes
    exact agree_insert hkeys hsight h (of_decide_eq_true htakes)
  · exact .rejected _

omit [Schema Row] [DecidableEq Owner] hkeys hsight h in
/-- Rows that are changed without a change of their owner. -/
theorem filter_changed {rows : List Row}
    (hchange : ∀ stored ∈ rows, chosen stored = true → ownerOf (change stored) = ownerOf stored) :
    (rows.map fun stored => if chosen stored then change stored else stored).filter
        (fun row => inSight (ownerOf row)) =
      (rows.filter fun row => inSight (ownerOf row)).map
        fun stored => if chosen stored then change stored else stored := by
  rw [List.filter_map]
  congr 1
  refine List.filter_congr fun stored hstored => ?_
  simp only [Function.comp_apply]
  split
  · rename_i hchosen
    rw [hchange stored hstored hchosen]
  · rfl

/-- An update of rows of the owner that leaves them to him. -/
theorem agree_updateWhere
    (hchosen : ∀ stored ∈ table.rows, chosen stored = true →
      ownerOf stored = owner ∧ ownerOf (change stored) = owner)
    (hchosen' : ∀ stored ∈ table'.rows, chosen stored = true →
      ownerOf stored = owner ∧ ownerOf (change stored) = owner) :
    Agree (SameOn fun row => inSight (ownerOf row))
      (Rejection.orSchema (table.updateWhere chosen change))
      (Rejection.orSchema (table'.updateWhere chosen change)) := by
  have hkept : ∀ {rows : List Row}, (∀ stored ∈ rows, chosen stored = true →
      ownerOf stored = owner ∧ ownerOf (change stored) = owner) → ∀ stored ∈ rows,
        chosen stored = true → ownerOf (change stored) = ownerOf stored :=
    fun hrows stored hstored hchosen => by
      rw [(hrows stored hstored hchosen).1, (hrows stored hstored hchosen).2]
  refine agree_write hkeys hsight ?_ (filter_map_beyond fun stored hstored hwanted => ?_)
    (filter_map_beyond fun stored hstored hwanted => ?_)
  · rw [filter_changed (hkept hchosen), filter_changed (hkept hchosen'), h]
  · obtain ⟨hown, hchanged⟩ := hchosen stored hstored hwanted
    exact ⟨decide_eq_true hown, decide_eq_true hchanged⟩
  · obtain ⟨hown, hchanged⟩ := hchosen' stored hstored hwanted
    exact ⟨decide_eq_true hown, decide_eq_true hchanged⟩

theorem agree_updateUnder (chosen : Row → Bool) (change : Row → Row) :
    Agree (SameOn fun row => inSight (ownerOf row))
      (table.updateUnder (.isolation ownerOf owner) chosen change)
      (table'.updateUnder (.isolation ownerOf owner) chosen change) := by
  unfold updateUnder
  rw [← seen_eq hsight h]
  split
  · rename_i hall
    have hallowed : ∀ stored ∈ table.seen (.isolation ownerOf owner), chosen stored = true →
        ownerOf (change stored) = owner := by
      intro stored hstored hwanted
      have htakes := List.all_eq_true.1 hall stored hstored
      rw [hwanted] at htakes
      exact of_decide_eq_true htakes
    refine agree_updateWhere hkeys hsight h (fun stored hstored hwanted => ?_)
      fun stored hstored hwanted => ?_
    · obtain ⟨hsees, hchosen⟩ := Bool.and_eq_true_iff.1 hwanted
      exact ⟨of_decide_eq_true hsees,
        hallowed stored (List.mem_filter.2 ⟨hstored, hsees⟩) hchosen⟩
    · obtain ⟨hsees, hchosen⟩ := Bool.and_eq_true_iff.1 hwanted
      refine ⟨of_decide_eq_true hsees, hallowed stored ?_ hchosen⟩
      rw [seen_eq hsight h]
      exact List.mem_filter.2 ⟨hstored, hsees⟩
  · exact .rejected _

theorem agree_insertUnlessUnder (conflict : Row → Bool) (row : Row)
    (hconflict : ownerOf row = owner → ∀ stored, conflict stored = true →
      ownerOf stored = owner) :
    Agree (fun left right => left.1 = right.1 ∧
        SameOn (fun row => inSight (ownerOf row)) left.2 right.2)
      (table.insertUnlessUnder (.isolation ownerOf owner) conflict row)
      (table'.insertUnlessUnder (.isolation ownerOf owner) conflict row) := by
  unfold insertUnlessUnder
  split
  · rename_i htakes
    have howner : ownerOf row = owner := of_decide_eq_true htakes
    unfold insertUnless
    rw [h.any_eq fun stored hstored => by rw [hconflict howner stored hstored, hsight]]
    split
    · exact .accepted ⟨rfl, h⟩
    · have hinsert := agree_insert hkeys hsight h howner
      generalize table.insert row = left at hinsert ⊢
      generalize table'.insert row = right at hinsert ⊢
      cases left <;> cases right <;> cases hinsert
      · exact .rejected _
      · rename_i hsame
        exact .accepted ⟨rfl, hsame⟩
  · exact .rejected _

theorem agree_upsertUnder (conflict : Row → Bool) (change : Row → Row) (row : Row)
    (hconflict : ownerOf row = owner → ∀ stored, conflict stored = true →
      ownerOf stored = owner) :
    Agree (SameOn fun row => inSight (ownerOf row))
      (table.upsertUnder (.isolation ownerOf owner) conflict change row)
      (table'.upsertUnder (.isolation ownerOf owner) conflict change row) := by
  unfold upsertUnder
  by_cases howner : ownerOf row = owner
  · have hall : ∀ other : Table Row, (other.rows.all fun stored => !conflict stored ||
        ((RowPolicy.isolation ownerOf owner).sees stored &&
          (RowPolicy.isolation ownerOf owner).takes (change stored))) =
        (other.seen (.isolation ownerOf owner)).all fun stored => !conflict stored ||
          (RowPolicy.isolation ownerOf owner).takes (change stored) := by
      intro other
      rw [seen, List.all_filter]
      congr 1
      funext stored
      cases hstored : conflict stored with
      | false => simp
      | true => simp [hconflict howner stored hstored]
    rw [hall, hall, ← seen_eq hsight h]
    split
    · rename_i hallowed
      have hchange : ∀ stored ∈ table.seen (.isolation ownerOf owner), conflict stored = true →
          ownerOf (change stored) = owner := by
        intro stored hstored hwanted
        have htakes := List.all_eq_true.1 (Bool.and_eq_true_iff.1 hallowed).2 stored hstored
        rw [hwanted] at htakes
        exact of_decide_eq_true htakes
      unfold upsert
      rw [h.any_eq fun stored hstored => by rw [hconflict howner stored hstored, hsight]]
      split
      · refine agree_updateWhere hkeys hsight h (fun stored hstored hwanted => ?_)
          fun stored hstored hwanted => ?_
        · have hown := hconflict howner stored hwanted
          exact ⟨hown,
            hchange stored (List.mem_filter.2 ⟨hstored, decide_eq_true hown⟩) hwanted⟩
        · have hown := hconflict howner stored hwanted
          refine ⟨hown, hchange stored ?_ hwanted⟩
          rw [seen_eq hsight h]
          exact List.mem_filter.2 ⟨hstored, decide_eq_true hown⟩
      · exact agree_insert hkeys hsight h howner
    · exact .rejected _
  · rw [RowPolicy.isolation_takes, decide_eq_false howner]
    exact .rejected _

omit hkeys hsight in
theorem sameOn_deleteUnder :
    SameOn (fun row => inSight (ownerOf row))
      (table.deleteUnder (.isolation ownerOf owner) chosen)
      (table'.deleteUnder (.isolation ownerOf owner) chosen) := by
  have hcomm : ∀ other : Table Row,
      (other.deleteUnder (.isolation ownerOf owner) chosen).rows.filter
          (fun row => inSight (ownerOf row)) =
        (other.rows.filter fun row => inSight (ownerOf row)).filter fun row =>
          !((RowPolicy.isolation ownerOf owner).sees row && chosen row) := by
    intro other
    rw [deleteUnder, deleteWhere, List.filter_filter, List.filter_filter]
    refine List.filter_congr fun stored _ => Bool.and_comm _ _
  rw [SameOn, hcomm, hcomm, h]

end Statements

end Table

end StoreProgram
