import Pdr.Identity.Policies.Grants
import Pdr.Identity.Policies.Matrix
import Mathlib.Tactic.IntervalCases

/-!
# Reading the matrix of permissions

What a reader learns from the two tables. A cell lists the relations with which a role may do an
action; the last column tells a guardian which scope has to be open; and the second table tells at
which age a student may do it himself. The tables are read as texts: what is between the bars is
compared with the words of the tables.

## Main definitions

* `Pdr.Identity.Matrix.Lists`, `Pdr.Identity.Matrix.LevelMet`, `Pdr.Identity.Matrix.StudentMay`:
  what a cell says.
* `Pdr.Identity.Matrix.rowOf`, `Pdr.Identity.Matrix.columnOf`: where the cells are.

## Main results

* `Pdr.Identity.Matrix.lists_cell_iff`, `Pdr.Identity.Matrix.levelMet_iff`,
  `Pdr.Identity.Matrix.whoMay_iff`: the cells say what the policies answered.
* `Pdr.Identity.Matrix.ageCells_column`: the column of an age says what holds at that age.
-/

namespace Pdr.Identity.Matrix

/-! ### What the cells say -/

section Cells

/-- The cell lists a relation. -/
def Lists (written : Text) (tie : Tie) : Prop :=
  written = utf8 "любое в кабинете" ∨ utf8 tie.saying ∈ BarTable.items comma blank written

theorem text_of_tie (tie : Tie) :
    utf8 tie.saying ≠ [] ∧ comma ∉ utf8 tie.saying ∧ (utf8 tie.saying).head? ≠ some blank := by
  cases tie <;> exact utf8_ofList (P := fun t => t ≠ [] ∧ comma ∉ t ∧ t.head? ≠ some blank)
    (by decide)

theorem saying_injective {tie other : Tie} (h : utf8 tie.saying = utf8 other.saying) :
    tie = other := by
  have hsame := utf8_injective h
  revert hsame
  cases tie <;> cases other <;> simp [Tie.saying]

theorem items_of_notMem {written : Text} (hcomma : comma ∉ written)
    (hhead : written.head? ≠ some blank) : BarTable.items comma blank written = [written] := by
  rw [BarTable.items, List.splitOn_eq_singleton hcomma, List.map_singleton, if_neg hhead]

theorem items_nobody : BarTable.items comma blank nobody = [nobody] :=
  items_of_notMem (utf8_ofList (P := fun t => comma ∉ t) (by decide))
    (utf8_ofList (P := fun t => t.head? ≠ some blank) (by decide))

theorem items_anything :
    BarTable.items comma blank (utf8 "любое в кабинете") = [utf8 "любое в кабинете"] :=
  items_of_notMem (utf8_ofList (P := fun t => comma ∉ t) (by decide))
    (utf8_ofList (P := fun t => t.head? ≠ some blank) (by decide))

theorem saying_ne (tie : Tie) :
    utf8 tie.saying ≠ nobody ∧ utf8 tie.saying ≠ utf8 "любое в кабинете" := by
  refine ⟨fun h => ?_, fun h => ?_⟩ <;> have hsame := utf8_injective h <;> revert hsame <;>
    cases tie <;> simp [Tie.saying]

variable (permissions : Policy) (action : Action)

/-- **A cell lists a relation** exactly if the policy allows the action with it. -/
theorem lists_cell_iff (role : Role) (tie : Tie) : Lists (cell permissions role action) tie ↔
    (permissions (asking role tie everyScope ableOfEverything) action something).allowed =
      true := by
  set may := fun tie =>
    (permissions (asking role tie everyScope ableOfEverything) action something).allowed with hmay
  have hmem : ∀ tie, tie ∈ everyTie.filter may ↔ may tie = true := fun tie => by
    rw [List.mem_filter, and_iff_right]
    cases tie <;> decide
  show Lists _ tie ↔ may tie = true
  rw [cell, ← hmay]
  split_ifs with hnone hall
  · rw [List.map_eq_nil_iff] at hnone
    rw [← hmem tie, hnone, Lists, items_nobody, List.mem_singleton]
    refine iff_of_false (not_or.2 ⟨fun h => ?_, (saying_ne tie).1⟩) List.not_mem_nil
    have hsame := utf8_injective h
    revert hsame
    simp
  · rw [List.length_map, List.length_filter_eq_length_iff] at hall
    refine iff_of_true (Or.inl rfl) (hall tie ?_)
    cases tie <;> decide
  · have hitems : BarTable.items comma blank (BarTable.enumerated comma blank
        ((everyTie.filter may).map fun tie => utf8 tie.saying)) =
          (everyTie.filter may).map fun tie => utf8 tie.saying :=
      BarTable.items_enumerated (by decide) hnone fun thing hthing => by
        obtain ⟨listed, -, rfl⟩ := List.mem_map.1 hthing
        exact text_of_tie listed
    have hany : BarTable.enumerated comma blank
        ((everyTie.filter may).map fun tie => utf8 tie.saying) ≠ utf8 "любое в кабинете" := by
      intro h
      rw [h, items_anything] at hitems
      have hin : utf8 "любое в кабинете" ∈
          (everyTie.filter may).map fun tie => utf8 tie.saying := by
        rw [← hitems]
        exact List.mem_singleton_self _
      obtain ⟨listed, -, hlisted⟩ := List.mem_map.1 hin
      exact (saying_ne listed).2 hlisted
    rw [Lists, or_iff_right hany, hitems, List.mem_map, ← hmem tie]
    constructor
    · rintro ⟨listed, hlisted, hsame⟩
      rwa [← saying_injective hsame]
    · exact fun h => ⟨tie, h, rfl⟩

/-- The level is met by the scopes that are open. -/
def LevelMet (level : Text) (opened : GuardianScopeSet) : Prop :=
  level = utf8 "не нужен" ∨ ∃ scope ∈ everyGuardianScope, opened.has scope = true ∧
    quoted scope.name ∈ BarTable.items comma blank level

theorem quoted_eq (name : String) : quoted name = 96 :: (utf8 name ++ [96]) := by
  have hquote : utf8 "`" = [96] := by rw [utf8_eq_flatMap]; decide
  rw [quoted, hquote]
  rfl

theorem quoted_injective {name other : String} (h : quoted name = quoted other) : name = other := by
  rw [quoted_eq, quoted_eq, List.cons.injEq, List.append_left_inj] at h
  exact utf8_injective h.2

theorem comma_notMem_scope (scope : GuardianScope) : comma ∉ quoted scope.name := by
  have hname : comma ∉ utf8 scope.name := by
    cases scope <;> exact utf8_ofList (P := fun t => comma ∉ t) (by decide)
  rw [quoted_eq, List.mem_cons, List.mem_append, List.mem_singleton]
  exact not_or.2 ⟨by decide, not_or.2 ⟨hname, by decide⟩⟩

theorem head_quoted (name : String) : (quoted name).head? ≠ some blank := by
  rw [quoted_eq]
  simp [blank]

theorem quoted_ne {text : Text} (h : text.head? ≠ some 96) (name : String) :
    quoted name ≠ text := by
  rintro rfl
  exact h (by rw [quoted_eq]; rfl)

theorem quoted_ne_nobody (name : String) : quoted name ≠ nobody :=
  quoted_ne (utf8_ofList (P := fun t => t.head? ≠ some 96) (by decide)) name

theorem scopeName_injective {scope other : GuardianScope} (h : scope.name = other.name) :
    scope = other := by
  revert h
  cases scope <;> cases other <;> simp [GuardianScope.name]

/-- **The last column** is met exactly if a guardian is allowed the action with all scopes, and
with no scope or with one of the open ones alone. -/
theorem levelMet_iff (opened : GuardianScopeSet) :
    LevelMet (guardianLevel permissions action) opened ↔
      (permissions (asking .guardian .inMyCare everyScope ableOfEverything) action
        something).allowed = true ∧
      ((permissions (asking .guardian .inMyCare BitSet.empty ableOfEverything) action
        something).allowed = true ∨
      ∃ scope ∈ everyGuardianScope, opened.has scope = true ∧
        (permissions (asking .guardian .inMyCare (BitSet.empty.insert scope) ableOfEverything)
          action something).allowed = true) := by
  set allows := fun scopes =>
    (permissions (asking .guardian .inMyCare scopes ableOfEverything) action something).allowed
    with hallows
  have hnobody : ¬ LevelMet nobody opened := by
    rintro (h | ⟨scope, -, -, h⟩)
    · have hsame := utf8_injective h
      revert hsame
      simp
    · rw [items_nobody, List.mem_singleton] at h
      exact quoted_ne_nobody _ h
  show _ ↔ allows everyScope = true ∧
    (allows BitSet.empty = true ∨ ∃ scope ∈ everyGuardianScope, opened.has scope = true ∧
      allows (BitSet.empty.insert scope) = true)
  rw [guardianLevel, ← hallows]
  by_cases hall : allows everyScope = false
  · rw [if_pos hall, hall]
    exact iff_of_false hnobody fun h => by cases h.1
  · rw [if_neg hall, and_iff_right (Bool.not_eq_false _ ▸ hall)]
    by_cases hfree : allows BitSet.empty = true
    · rw [if_pos hfree]
      exact iff_of_true (Or.inl rfl) (Or.inl hfree)
    · rw [if_neg hfree, or_iff_right hfree]
      set levels := (everyGuardianScope.filter fun scope =>
        allows (BitSet.empty.insert scope)).map fun scope => quoted scope.name with hlevels
      have hmem : ∀ scope ∈ everyGuardianScope,
          quoted scope.name ∈ levels ↔ allows (BitSet.empty.insert scope) = true := by
        intro scope hscope
        rw [hlevels, List.mem_map]
        constructor
        · rintro ⟨listed, hlisted, hsame⟩
          rw [← scopeName_injective (quoted_injective hsame)]
          exact (List.mem_filter.1 hlisted).2
        · exact fun h => ⟨scope, List.mem_filter.2 ⟨hscope, h⟩, rfl⟩
      by_cases hnone : levels = []
      · have hempty : BarTable.enumerated comma blank levels = [] := by rw [hnone]; rfl
        rw [if_pos hempty]
        refine iff_of_false hnobody fun ⟨scope, hscope, _, h⟩ => ?_
        rw [← hmem scope hscope, hnone] at h
        exact absurd h List.not_mem_nil
      · have hthing : ∀ thing ∈ levels, ∃ scope : GuardianScope, thing = quoted scope.name := by
          intro thing hthing
          obtain ⟨listed, -, rfl⟩ := List.mem_map.1 hthing
          exact ⟨listed, rfl⟩
        have hitems : BarTable.items comma blank (BarTable.enumerated comma blank levels) =
            levels := BarTable.items_enumerated (by decide) hnone fun thing hin => by
          obtain ⟨listed, rfl⟩ := hthing thing hin
          exact ⟨by simp [quoted_eq], comma_notMem_scope listed, head_quoted _⟩
        -- a level that is one of the words would be a quoted code
        have hword : ∀ word : Text, word.head? ≠ some 96 →
            BarTable.items comma blank word = [word] →
            BarTable.enumerated comma blank levels ≠ word := by
          intro word hhead hone hsame
          rw [hsame, hone] at hitems
          obtain ⟨listed, hlisted⟩ := hthing word (hitems ▸ List.mem_singleton_self word)
          exact quoted_ne hhead _ hlisted.symm
        rw [if_neg (hword [] (by simp) rfl), LevelMet, or_iff_right, hitems]
        · exact exists_congr fun scope => and_congr_right fun hscope =>
            and_congr_right fun _ => hmem scope hscope
        · exact hword _ (utf8_ofList (P := fun t => t.head? ≠ some 96) (by decide))
            (items_of_notMem (utf8_ofList (P := fun t => comma ∉ t) (by decide))
              (utf8_ofList (P := fun t => t.head? ≠ some blank) (by decide)))

/-- The cell says that a student may. -/
def StudentMay (written : Text) : Prop := written = utf8 "оба" ∨ written = utf8 "ученик"

/-- The cell says that a guardian may. -/
def GuardianMay (written : Text) : Prop := written = utf8 "оба" ∨ written = utf8 "опекун"

/-- **The second table** says at each age who may. -/
theorem whoMay_iff (years : Int) (thresholds : AgeThresholds) :
    (StudentMay (whoAt permissions action years thresholds) ↔
      (permissions (asking .student .aboutMe BitSet.empty (ableAt years thresholds)) action
        something).allowed = true) ∧
    (GuardianMay (whoAt permissions action years thresholds) ↔
      (permissions (asking .guardian .inMyCare (openToGuardianAt years thresholds)
        ableOfEverything) action something).allowed = true) ∧
    (whoAt permissions action years thresholds = nobody ↔
      ¬ StudentMay (whoAt permissions action years thresholds) ∧
        ¬ GuardianMay (whoAt permissions action years thresholds)) := by
  simp only [whoAt, StudentMay, GuardianMay, nobody]
  cases (permissions (asking .student .aboutMe BitSet.empty (ableAt years thresholds)) action
    something).allowed <;>
  cases (permissions (asking .guardian .inMyCare (openToGuardianAt years thresholds)
    ableOfEverything) action something).allowed <;>
  simp [utf8_injective.eq_iff]

end Cells

/-! ### Where the cells are -/

/-- The row of an action. -/
def rowOf (table : List (List Text)) (action : Action) : Option (List Text) :=
  table.find? fun row => decide (row[1]? = some (quoted action.name))

/-- The years in a cell of the first row: the digits behind a letter and a blank. -/
def yearsIn (written : Text) : Int :=
  (written.drop 3).foldl (fun years digit => 10 * years + (digit.toNat - 48 : Int)) 0

/-- The column of an age: behind those that begin at an age which is reached, but the first. -/
def columnOf (table : List (List Text)) (years : Int) : ℕ :=
  ((table.headD []).drop 3).countP fun written => decide (yearsIn written ≤ years)

section Places

variable (permissions : Policy) (thresholds : AgeThresholds)

theorem actionNames_nodup : (everyAction.map Action.name).Nodup := by decide

/-- What is found by its name among the actions. -/
theorem find_row {actions : List Action} (hsub : actions.Sublist everyAction)
    {write : Action → List Text} (hwrite : ∀ action, (write action)[1]? = some (quoted action.name))
    {action : Action} (haction : action ∈ everyAction) :
    rowOf (actions.map write) action = if action ∈ actions then some (write action) else none := by
  induction actions with
  | nil => rfl
  | cons other actions ih =>
    have hrest := ih ((List.sublist_cons_self other actions).trans hsub)
    rw [rowOf] at hrest
    rw [List.map_cons, rowOf, List.find?_cons, hwrite, hrest]
    by_cases hsame : other = action
    · rw [hsame, decide_eq_true rfl, if_pos List.mem_cons_self]
    · have hname : quoted other.name ≠ quoted action.name := fun h =>
        hsame (List.inj_on_of_nodup_map actionNames_nodup (hsub.subset List.mem_cons_self) haction
          (quoted_injective h))
      rw [decide_eq_false (by rwa [Option.some_inj])]
      simp only [List.mem_cons, Ne.symm hsame, false_or]

theorem rowOf_cons {row : List Text} (hrow : ∀ name, row[1]? ≠ some (quoted name))
    (table : List (List Text)) (action : Action) :
    rowOf (row :: table) action = rowOf table action := by
  rw [rowOf, List.find?_cons, decide_eq_false (hrow action.name), rowOf]

theorem not_quoted {text : Text} (h : text.head? ≠ some 96) (name : String) :
    some text ≠ some (quoted name) := fun hsame =>
  quoted_ne h name (Option.some.inj hsame).symm

theorem code_ne (name : String) : some (utf8 "Код") ≠ some (quoted name) :=
  not_quoted (utf8_ofList (P := fun t => t.head? ≠ some 96) (by decide)) name

theorem rule_ne (name : String) : some (utf8 "---") ≠ some (quoted name) :=
  not_quoted (utf8_ofList (P := fun t => t.head? ≠ some 96) (by decide)) name

theorem rowOf_rows {action : Action} (haction : action ∈ everyAction) :
    rowOf (rows permissions) action = some (row permissions action) := by
  rw [rows, rowOf_cons (fun name => code_ne name), rowOf_cons (fun name => rule_ne name),
    find_row (List.Sublist.refl everyAction) (fun _ => rfl) haction, if_pos haction]

theorem rowOf_ageRows {action : Action} (haction : action ∈ everyAction) :
    rowOf (ageRows permissions thresholds) action =
      if anyoneMay permissions thresholds action then some (ageRow permissions thresholds action)
      else none := by
  rw [ageRows, rowOf_cons (fun name => code_ne name), rowOf_cons (fun name => rule_ne name),
    find_row List.filter_sublist (fun _ => rfl) haction]
  simp only [List.mem_filter, haction, true_and]

/-- The years of a column are read from its head. -/
theorem yearsIn_head {years : Int} (hlow : youngestThinkable ≤ years)
    (hhigh : years ≤ oldestThinkable) :
    yearsIn (utf8 "с " ++ utf8 (toString years)) = years := by
  have hletter : utf8 "с " = [209, 129, 32] := by rw [utf8_eq_flatMap]; decide
  rw [hletter, yearsIn]
  show (utf8 (toString years)).foldl _ 0 = years
  simp only [youngestThinkable, oldestThinkable] at hlow hhigh
  interval_cases years <;>
    exact utf8_ofList (P := fun t =>
      t.foldl (fun years digit => 10 * years + (digit.toNat - 48 : Int)) 0 = _) (by decide)

/-- The number of thresholds that are reached. -/
theorem columnOf_ageRows (years : Int) : columnOf (ageRows permissions thresholds) years =
    everyAgeThreshold.countP fun threshold => decide (thresholds.years threshold ≤ years) := by
  have hlow := thresholds.thinkable.1
  have hhigh := thresholds.thinkable.2
  have hordered := thresholds.ordered
  have hread : ∀ threshold ∈ everyAgeThreshold, yearsIn
      (utf8 "с " ++ utf8 (toString (thresholds.years threshold))) = thresholds.years threshold := by
    intro threshold hthreshold
    refine yearsIn_head ?_ ?_ <;>
    · simp only [everyAgeThreshold, List.mem_cons, List.not_mem_nil, or_false] at hthreshold
      rcases hthreshold with rfl | rfl | rfl <;> simp only [AgeThresholds.years] <;> omega
  show (everyAgeThreshold.map fun threshold =>
    utf8 "с " ++ utf8 (toString (thresholds.years threshold))).countP
      (fun written => decide (yearsIn written ≤ years)) = _
  rw [List.countP_map]
  refine List.countP_congr fun threshold hthreshold => ?_
  rw [Function.comp_apply, hread threshold hthreshold]

/-- What a person is able to and what is open to a guardian depends on the thresholds that are
reached. -/
theorem whoAt_congr {years other : Int} (action : Action)
    (h : ∀ threshold ∈ everyAgeThreshold,
      thresholds.years threshold ≤ years ↔ thresholds.years threshold ≤ other) :
    whoAt permissions action years thresholds = whoAt permissions action other thresholds := by
  have hable : ableAt years thresholds = ableAt other thresholds := by
    rw [ableAt, ableAt]
    congr 1
    funext able capability
    have := h (arrivesWith capability) (by cases capability <;> decide)
    simp only [this]
  have hopen : openToGuardianAt years thresholds = openToGuardianAt other thresholds := by
    rw [openToGuardianAt, openToGuardianAt]
    congr 1
    funext opened scope
    have := h (whenStudentDecides scope) (by cases scope <;> decide)
    simp only [← not_le, this]
  rw [whoAt, whoAt, hable, hopen]

/-- **The column of an age** says what holds at that age. -/
theorem ageCells_column (action : Action) (years : Int) :
    (ageCells permissions thresholds action)[columnOf (ageRows permissions thresholds) years]? =
      some (whoAt permissions action years thresholds) := by
  have hordered := thresholds.ordered
  rw [columnOf_ageRows]
  obtain ⟨other, hband, hsame⟩ : ∃ other, (bands thresholds)[everyAgeThreshold.countP
        fun threshold => decide (thresholds.years threshold ≤ years)]? = some other ∧
      ∀ threshold ∈ everyAgeThreshold,
        thresholds.years threshold ≤ years ↔ thresholds.years threshold ≤ other := by
    simp only [everyAgeThreshold, List.countP_cons, List.countP_nil, List.forall_mem_cons,
      List.not_mem_nil, IsEmpty.forall_iff, implies_true, and_true, AgeThresholds.years, bands,
      List.headD_cons, List.map_cons, List.map_nil]
    by_cases hfirst : thresholds.slotsAndReviews ≤ years
    · by_cases hsecond : thresholds.ownPayments ≤ years
      · by_cases hthird : thresholds.majority ≤ years
        · refine ⟨thresholds.majority, by simp [hfirst, hsecond, hthird], ?_, ?_, ?_⟩ <;> omega
        · refine ⟨thresholds.ownPayments, by simp [hfirst, hsecond, hthird], ?_, ?_, ?_⟩ <;> omega
      · have hthird : ¬ thresholds.majority ≤ years := by omega
        refine ⟨thresholds.slotsAndReviews, by simp [hfirst, hsecond, hthird], ?_, ?_, ?_⟩ <;> omega
    · have hsecond : ¬ thresholds.ownPayments ≤ years := by omega
      have hthird : ¬ thresholds.majority ≤ years := by omega
      refine ⟨thresholds.slotsAndReviews - 1, by simp [hfirst, hsecond, hthird], ?_, ?_, ?_⟩ <;>
        omega
  rw [ageCells, List.getElem?_map, hband, Option.map_some,
    whoAt_congr permissions thresholds action hsame]

theorem ageRow_column (action : Action) (years : Int) :
    (ageRow permissions thresholds action)[2 + columnOf (ageRows permissions thresholds) years]? =
      some (whoAt permissions action years thresholds) := by
  rw [ageRow, Nat.add_comm, ← ageCells_column permissions thresholds action years]
  rfl

end Places

/-! ### The texts are read back -/

/-- What a mark of a document begins with. -/
def sign : UInt8 := 60

/-- A text has none of the symbols that mean something outside of the cells. -/
structure IsPlain (written : Text) : Prop where
  bar : bar ∉ written
  newline : newline ∉ written
  sign : sign ∉ written

section Plain

variable (permissions : Policy) (thresholds : AgeThresholds)

theorem isPlain_utf8 {text : String} (h : ∀ c ∈ text.toList, c ≠ '|' ∧ c ≠ '\n' ∧ c ≠ '<') :
    IsPlain (utf8 text) where
  bar := notMem_utf8 (c := '|') (by decide) fun hin => (h _ hin).1 rfl
  newline := notMem_utf8 (c := '\n') (by decide) fun hin => (h _ hin).2.1 rfl
  sign := notMem_utf8 (c := '<') (by decide) fun hin => (h _ hin).2.2 rfl

theorem IsPlain.append {front back : Text} (hfront : IsPlain front) (hback : IsPlain back) :
    IsPlain (front ++ back) := by
  constructor <;> rw [List.mem_append, not_or]
  · exact ⟨hfront.bar, hback.bar⟩
  · exact ⟨hfront.newline, hback.newline⟩
  · exact ⟨hfront.sign, hback.sign⟩

theorem isPlain_enumerated {things : List Text} (h : ∀ thing ∈ things, IsPlain thing) :
    IsPlain (BarTable.enumerated comma blank things) := by
  constructor <;> intro hin <;>
    rcases BarTable.mem_enumerated hin with hcomma | hblank | ⟨thing, hthing, hin⟩
  · exact absurd hcomma (by decide)
  · exact absurd hblank (by decide)
  · exact (h thing hthing).bar hin
  · exact absurd hcomma (by decide)
  · exact absurd hblank (by decide)
  · exact (h thing hthing).newline hin
  · exact absurd hcomma (by decide)
  · exact absurd hblank (by decide)
  · exact (h thing hthing).sign hin

theorem isPlain_quoted {name : String} (h : ∀ c ∈ name.toList, c ≠ '|' ∧ c ≠ '\n' ∧ c ≠ '<') :
    IsPlain (quoted name) :=
  ((isPlain_utf8 (forall_toList (by decide))).append (isPlain_utf8 h)).append
    (isPlain_utf8 (forall_toList (by decide)))

theorem isPlain_nobody : IsPlain nobody := isPlain_utf8 (forall_toList (by decide))

theorem isPlain_actionTitle (action : Action) : IsPlain (utf8 action.title) := by
  cases action <;> exact isPlain_utf8 (forall_toList (by decide))

theorem isPlain_actionName (action : Action) : IsPlain (quoted action.name) := by
  cases action <;> exact isPlain_quoted (forall_toList (by decide))

theorem isPlain_cell (role : Role) (action : Action) : IsPlain (cell permissions role action) := by
  rw [cell]
  split_ifs
  · exact isPlain_nobody
  · exact isPlain_utf8 (forall_toList (by decide))
  · refine isPlain_enumerated fun thing hthing => ?_
    obtain ⟨tie, -, rfl⟩ := List.mem_map.1 hthing
    cases tie <;> exact isPlain_utf8 (forall_toList (by decide))

theorem isPlain_guardianLevel (action : Action) : IsPlain (guardianLevel permissions action) := by
  rw [guardianLevel]
  split_ifs
  · exact isPlain_nobody
  · exact isPlain_utf8 (forall_toList (by decide))
  · dsimp only
    split_ifs
    · exact isPlain_nobody
    · refine isPlain_enumerated fun thing hthing => ?_
      obtain ⟨scope, -, rfl⟩ := List.mem_map.1 hthing
      cases scope <;> exact isPlain_quoted (forall_toList (by decide))

theorem isPlain_whoAt (action : Action) (years : Int) :
    IsPlain (whoAt permissions action years thresholds) := by
  simp only [whoAt]
  split_ifs
  · exact isPlain_utf8 (forall_toList (by decide))
  · exact isPlain_utf8 (forall_toList (by decide))
  · exact isPlain_utf8 (forall_toList (by decide))
  · exact isPlain_nobody

theorem isPlain_years {years : Int} (hlow : youngestThinkable ≤ years)
    (hhigh : years ≤ oldestThinkable) : IsPlain (utf8 (toString years)) := by
  simp only [youngestThinkable, oldestThinkable] at hlow hhigh
  interval_cases years <;> exact isPlain_utf8 (forall_toList (by decide))

/-- Everything in the first table is plain. -/
theorem isPlain_rows : ∀ cells ∈ rows permissions, ∀ written ∈ cells, IsPlain written := by
  intro cells hcells written hwritten
  simp only [rows, List.mem_cons, List.mem_map] at hcells
  rcases hcells with rfl | rfl | ⟨action, -, rfl⟩
  · simp only [header, List.mem_append, List.mem_cons, List.not_mem_nil, or_false,
      List.mem_map] at hwritten
    rcases hwritten with ((rfl | rfl) | ⟨role, -, rfl⟩) | rfl
    · exact isPlain_utf8 (forall_toList (by decide))
    · exact isPlain_utf8 (forall_toList (by decide))
    · cases role <;> exact isPlain_utf8 (forall_toList (by decide))
    · exact isPlain_utf8 (forall_toList (by decide))
  · obtain ⟨-, -, rfl⟩ := List.mem_map.1 hwritten
    exact isPlain_utf8 (forall_toList (by decide))
  · simp only [row, List.mem_append, List.mem_cons, List.not_mem_nil, or_false,
      List.mem_map] at hwritten
    rcases hwritten with ((rfl | rfl) | ⟨role, -, rfl⟩) | rfl
    · exact isPlain_actionTitle action
    · exact isPlain_actionName action
    · exact isPlain_cell permissions role action
    · exact isPlain_guardianLevel permissions action

/-- Everything in the second table is plain. -/
theorem isPlain_ageRows :
    ∀ cells ∈ ageRows permissions thresholds, ∀ written ∈ cells, IsPlain written := by
  have hlow := thresholds.thinkable.1
  have hhigh := thresholds.thinkable.2
  have hordered := thresholds.ordered
  have hyears : ∀ threshold, IsPlain (utf8 (toString (thresholds.years threshold))) := by
    intro threshold
    refine isPlain_years ?_ ?_ <;> cases threshold <;> simp only [AgeThresholds.years] <;> omega
  intro cells hcells written hwritten
  simp only [ageRows, List.mem_cons, List.mem_map] at hcells
  rcases hcells with rfl | rfl | ⟨action, -, rfl⟩
  · simp only [ageHeader, List.mem_append, List.mem_cons, List.not_mem_nil, or_false,
      List.mem_map] at hwritten
    rcases hwritten with (rfl | rfl | rfl) | ⟨threshold, -, rfl⟩
    · exact isPlain_utf8 (forall_toList (by decide))
    · exact isPlain_utf8 (forall_toList (by decide))
    · exact (isPlain_utf8 (forall_toList (by decide))).append (hyears _)
    · exact (isPlain_utf8 (forall_toList (by decide))).append (hyears _)
  · obtain ⟨-, -, rfl⟩ := List.mem_map.1 hwritten
    exact isPlain_utf8 (forall_toList (by decide))
  · simp only [ageRow, ageCells, List.mem_append, List.mem_cons, List.not_mem_nil, or_false,
      List.mem_map] at hwritten
    rcases hwritten with (rfl | rfl) | ⟨years, -, rfl⟩
    · exact isPlain_actionTitle action
    · exact isPlain_actionName action
    · exact isPlain_whoAt permissions thresholds action years

theorem read_plain {table : List (List Text)}
    (h : ∀ cells ∈ table, ∀ written ∈ cells, IsPlain written) :
    BarTable.read bar newline (BarTable.text bar blank newline table) = table :=
  BarTable.read_text (by decide) (by decide) (by decide) fun cells hcells written hwritten =>
    ⟨(h cells hcells written hwritten).bar, (h cells hcells written hwritten).newline⟩

/-- **The second text is read back.** -/
theorem read_renderAgeMatrix : BarTable.read bar newline (renderAgeMatrix permissions thresholds) =
    ageRows permissions thresholds := by
  rw [renderAgeMatrix_eq, read_plain (isPlain_ageRows permissions thresholds)]

end Plain

end Pdr.Identity.Matrix
