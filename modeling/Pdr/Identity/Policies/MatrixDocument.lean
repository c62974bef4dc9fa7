import Pdr.Identity.Policies.ReadMatrix
import Pdr.Patterns.Fence

/-!
# The matrix of permissions in its document

The two tables stand between marks in a document that people write. A program writes them anew, and
the document is accepted if nothing changes by that. What an accepted document says can be relied
on: whoever reads its tables learns of everybody what the policies decide.

## Main definitions

* `Pdr.Identity.Matrix.withMatrix`: the document with both tables.
* `Pdr.Identity.Matrix.Documented`: the tables of a document say that somebody may do an action.

## Main results

* `Pdr.Identity.Matrix.documented_iff_allowed`: an accepted document says what is decided.
* `Pdr.Identity.Matrix.age_table_tells_every_age`: what the second table says of any age.
* `Pdr.Identity.Matrix.written_document_is_accepted`: what is written is accepted, where the
  regions are not one in the other, and what is lost where they are.
-/

namespace Pdr.Identity.Matrix

/-! ### Writing the tables -/

/-- `kMatrixOpening`. -/
def matrixOpening : Text := utf8 "<!-- матрица прав: начало -->"

/-- `kMatrixClosing`. -/
def matrixClosing : Text := utf8 "<!-- матрица прав: конец -->"

/-- `kAgeMatrixOpening`. -/
def ageMatrixOpening : Text := utf8 "<!-- матрица возраста: начало -->"

/-- `kAgeMatrixClosing`. -/
def ageMatrixClosing : Text := utf8 "<!-- матрица возраста: конец -->"

/-- A document without the marks of a region. -/
def markersMissing : Error :=
  ⟨.validation, "permissions_matrix_markers_missing", "в документе нет меток области матрицы"⟩

/-- `Splice`. -/
def splice (document openingMark closingMark table : Text) : Result Text :=
  match Fence.find openingMark document, Fence.find closingMark document with
  | some opening, some closing =>
    if closing < opening then .error markersMissing
    else
      .ok (document.take (opening + openingMark.length) ++ utf8 "\n\n" ++ table ++ utf8 "\n" ++
        document.drop closing)
  | _, _ => .error markersMissing

/-- `WithMatrix`. -/
def withMatrix (document : Text) (permissions : Policy) (thresholds : AgeThresholds) :
    Result Text :=
  (splice document matrixOpening matrixClosing (renderMatrix permissions)).bind fun roles =>
    splice roles ageMatrixOpening ageMatrixClosing (renderAgeMatrix permissions thresholds)

/-! ### The marks -/

section Marks

theorem isMark_of_head {mark : Text} (h : mark.head? = some sign ∧ sign ∉ mark.tail) :
    IsMark sign mark :=
  ⟨mark.tail, (List.cons_head?_tail h.1).symm, h.2⟩

theorem matrixOpening_isMark : IsMark sign matrixOpening :=
  isMark_of_head (utf8_ofList (P := fun t => t.head? = some sign ∧ sign ∉ t.tail) (by decide))

theorem matrixClosing_isMark : IsMark sign matrixClosing :=
  isMark_of_head (utf8_ofList (P := fun t => t.head? = some sign ∧ sign ∉ t.tail) (by decide))

theorem ageMatrixOpening_isMark : IsMark sign ageMatrixOpening :=
  isMark_of_head (utf8_ofList (P := fun t => t.head? = some sign ∧ sign ∉ t.tail) (by decide))

theorem ageMatrixClosing_isMark : IsMark sign ageMatrixClosing :=
  isMark_of_head (utf8_ofList (P := fun t => t.head? = some sign ∧ sign ∉ t.tail) (by decide))

theorem apart_ofList {first second : List Char}
    (h : Apart (first.flatMap String.utf8EncodeChar) (second.flatMap String.utf8EncodeChar)) :
    Apart (utf8 (String.ofList first)) (utf8 (String.ofList second)) := by
  rwa [utf8_eq_flatMap, utf8_eq_flatMap, String.toList_ofList, String.toList_ofList]

theorem matrix_apart : Apart matrixOpening matrixClosing := apart_ofList (by decide)

theorem ageMatrix_apart : Apart ageMatrixOpening ageMatrixClosing := apart_ofList (by decide)

/-- The marks of the first table. -/
def roleFence : Fence sign :=
  ⟨matrixOpening, matrixClosing, matrixOpening_isMark, matrixClosing_isMark, matrix_apart⟩

/-- The marks of the second table. -/
def ageFence : Fence sign :=
  ⟨ageMatrixOpening, ageMatrixClosing, ageMatrixOpening_isMark, ageMatrixClosing_isMark,
    ageMatrix_apart⟩

theorem fences_disjoint : roleFence.Disjoint ageFence :=
  ⟨apart_ofList (by decide), apart_ofList (by decide), apart_ofList (by decide),
    apart_ofList (by decide)⟩

end Marks

/-- A table between empty lines. -/
def framed (table : Text) : Text := utf8 "\n\n" ++ (table ++ utf8 "\n")

section Splicing

variable {document new table table' : Text} (permissions : Policy) (thresholds : AgeThresholds)

theorem splice_eq (fence : Fence sign) :
    splice document fence.opening fence.closing table =
      match fence.splice (framed table) document with
      | some new => .ok new
      | none => .error markersMissing := by
  rw [splice, Fence.splice]
  cases Fence.find fence.opening document with
  | none => rfl
  | some opening =>
    cases Fence.find fence.closing document with
    | none => rfl
    | some closing =>
      dsimp only
      split_ifs
      · rfl
      · simp [framed]

/-- Writing both tables is replacing both regions. -/
theorem withMatrix_eq : withMatrix document permissions thresholds =
    match Fence.both roleFence ageFence (framed (renderMatrix permissions))
      (framed (renderAgeMatrix permissions thresholds)) document with
    | some new => .ok new
    | none => .error markersMissing := by
  rw [withMatrix, Fence.both]
  show Except.bind (splice document roleFence.opening roleFence.closing _) _ = _
  rw [splice_eq]
  cases roleFence.splice (framed (renderMatrix permissions)) document with
  | none => rfl
  | some roles => exact splice_eq ageFence

theorem withMatrix_eq_ok_iff : withMatrix document permissions thresholds = .ok new ↔
    Fence.both roleFence ageFence (framed (renderMatrix permissions))
      (framed (renderAgeMatrix permissions thresholds)) document = some new := by
  rw [withMatrix_eq]
  cases Fence.both roleFence ageFence (framed (renderMatrix permissions))
    (framed (renderAgeMatrix permissions thresholds)) document <;> simp

theorem sign_notMem_text {table : List (List Text)}
    (h : ∀ cells ∈ table, ∀ written ∈ cells, IsPlain written) :
    sign ∉ BarTable.text bar blank newline table := by
  simp only [BarTable.text, BarTable.line, BarTable.behindBar, List.mem_flatMap, List.mem_append,
    List.mem_cons, List.not_mem_nil, or_false, not_exists, not_and, not_or]
  exact fun cells hcells => ⟨⟨by decide, fun written hwritten =>
    ⟨by decide, (h cells hcells written hwritten).sign, by decide, by decide⟩⟩, by decide⟩

theorem sign_notMem_framed (h : sign ∉ table) : sign ∉ framed table := by
  have hbefore : sign ∉ utf8 "\n\n" := utf8_ofList (P := fun t => sign ∉ t) (by decide)
  have hbehind : sign ∉ utf8 "\n" := utf8_ofList (P := fun t => sign ∉ t) (by decide)
  rw [framed, List.mem_append, List.mem_append]
  exact not_or.2 ⟨hbefore, not_or.2 ⟨h, hbehind⟩⟩

theorem sign_notMem_matrix : sign ∉ framed (renderMatrix permissions) := by
  rw [renderMatrix_eq]
  exact sign_notMem_framed (sign_notMem_text (isPlain_rows permissions))

theorem sign_notMem_ageMatrix : sign ∉ framed (renderAgeMatrix permissions thresholds) := by
  rw [renderAgeMatrix_eq]
  exact sign_notMem_framed (sign_notMem_text (isPlain_ageRows permissions thresholds))

end Splicing

/-! ### Reading the document -/

/-- The table that stands between the marks of a document. -/
def tableIn (fence : Fence sign) (document : Text) : List (List Text) :=
  BarTable.read bar newline (((fence.inside document).getD []).drop 2).dropLast

/-- The tables of a document say that somebody may do an action: with one of his roles, as a
guardian if his scopes are enough, and as a student if he is old enough. -/
def Documented (document : Text) (roles : RoleSet) (tie : Tie) (opened : GuardianScopeSet)
    (years : Int) (action : Action) : Prop :=
  ∃ role, roles.has role = true ∧ ∃ row, rowOf (tableIn roleFence document) action = some row ∧
    (∃ written, row[2 + everyRole.idxOf role]? = some written ∧ Lists written tie) ∧
    (role = .guardian →
      ∃ level, row[2 + everyRole.length]? = some level ∧ LevelMet level opened) ∧
    (role = .student → ∃ ages, rowOf (tableIn ageFence document) action = some ages ∧
      ∃ written, ages[2 + columnOf (tableIn ageFence document) years]? = some written ∧
        StudentMay written)

section Reading

variable {document : Text} {permissions : Policy} {thresholds : AgeThresholds}

theorem tableIn_of_splice {fence : Fence sign} {table : List (List Text)}
    (hplain : ∀ cells ∈ table, ∀ written ∈ cells, IsPlain written)
    (h : fence.splice (framed (BarTable.text bar blank newline table)) document = some document) :
    tableIn fence document = table := by
  obtain ⟨front, back, hregion⟩ := Fence.splice_eq_self_iff.1 h
  have hbefore : utf8 "\n\n" = [newline, newline] := by rw [utf8_eq_flatMap]; decide
  rw [tableIn, hregion.inside_eq, Option.getD_some, framed, hbefore, utf8_newline]
  show BarTable.read bar newline (BarTable.text bar blank newline table ++ [newline]).dropLast = _
  rw [List.dropLast_concat, read_plain hplain]

/-- **What stands in an accepted document.** -/
theorem tables_of_accepted (h : withMatrix document permissions thresholds = .ok document) :
    tableIn roleFence document = rows permissions ∧
      tableIn ageFence document = ageRows permissions thresholds := by
  rw [withMatrix_eq_ok_iff, Fence.both_eq_self_iff (sign_notMem_matrix permissions)
    (sign_notMem_ageMatrix permissions thresholds) fences_disjoint, renderMatrix_eq,
    renderAgeMatrix_eq] at h
  exact ⟨tableIn_of_splice (isPlain_rows permissions) h.1,
    tableIn_of_splice (isPlain_ageRows permissions thresholds) h.2⟩

end Reading

/-! ### What the tables say is what is decided -/

section Decisions

variable {role : Role} {tie : Tie} {opened scopes : GuardianScopeSet} {able : Capabilities}
  {action : Action} {grant : Grant} {years : Int} {thresholds : AgeThresholds}

theorem has_everyScope {scope : GuardianScope} (h : scope ≠ .boundary) :
    everyScope.has scope = true := by
  revert h
  cases scope <;> decide

theorem has_ableOfEverything {capability : Capability} (h : capability ≠ .boundary) :
    ableOfEverything.has capability = true := by
  revert h
  cases capability <;> decide

/-- The person in a question is granted what is granted to his role. -/
theorem asked_iff_granted :
    (PolicySet.decide (asking role tie scopes able) action something).allowed = true ↔
      ∃ grant ∈ grants action, grant.role = role ∧ grant.FitsTie tie ∧ grant.FitsScopes scopes ∧
        grant.FitsAble able := by
  have htenant : (asking role tie scopes able).tenant = something.tenant := rfl
  rw [allowed_iff_granted, and_iff_right htenant]
  refine exists_congr fun grant => and_congr_right fun _ => ?_
  rw [Grant.met_iff, asking, BitSet.has_insert, BitSet.has_empty, Bool.false_or,
    decide_eq_true_eq]

theorem lists_iff_granted : Lists (cell PolicySet.decide role action) tie ↔
    ∃ grant ∈ grants action, grant.role = role ∧ grant.FitsTie tie := by
  rw [lists_cell_iff, asked_iff_granted]
  refine exists_congr fun grant => and_congr_right fun hgrant => and_congr_right fun _ => ?_
  obtain ⟨-, -, -, -, hscope, hcapability⟩ := wellFormed_grants action hgrant
  exact and_iff_left ⟨fun scope h => has_everyScope (hscope scope h),
    fun capability h => has_ableOfEverything (hcapability capability h)⟩

/-- The level is met if there is a grant for a guardian with these scopes. -/
theorem levelMet_iff_granted : LevelMet (guardianLevel PolicySet.decide action) opened ↔
    ∃ grant ∈ grants action, grant.role = .guardian ∧ grant.FitsScopes opened := by
  have hguardian : ∀ scopes, (PolicySet.decide (asking .guardian .inMyCare scopes ableOfEverything)
      action something).allowed = true ↔
        ∃ grant ∈ grants action, grant.role = .guardian ∧ grant.FitsScopes scopes := by
    intro scopes
    rw [asked_iff_granted]
    refine exists_congr fun grant => and_congr_right fun hgrant => and_congr_right fun hrole => ?_
    obtain ⟨htie, hcapability⟩ := (wellFormed_grants action hgrant).1 hrole
    simp [Grant.FitsTie, Grant.FitsAble, htie, hcapability]
  rw [levelMet_iff]
  simp only [hguardian]
  constructor
  · rintro ⟨-, ⟨grant, hgrant, hrole, hfits⟩ | ⟨scope, -, hopened, grant, hgrant, hrole, hfits⟩⟩
    · exact ⟨grant, hgrant, hrole, fun asked h => by simpa using hfits asked h⟩
    · refine ⟨grant, hgrant, hrole, fun asked h => ?_⟩
      have hasked := hfits asked h
      simp only [BitSet.has_insert, BitSet.has_empty, Bool.false_or, decide_eq_true_eq] at hasked
      rwa [hasked]
  · rintro ⟨grant, hgrant, hrole, hfits⟩
    obtain ⟨-, -, -, -, hscope, -⟩ := wellFormed_grants action hgrant
    refine ⟨⟨grant, hgrant, hrole, fun scope h => has_everyScope (hscope scope h)⟩, ?_⟩
    cases hasked : grant.scope with
    | none => exact Or.inl ⟨grant, hgrant, hrole, fun asked h => by simp [hasked] at h⟩
    | some scope =>
      refine Or.inr ⟨scope, ?_, hfits scope hasked, grant, hgrant, hrole, fun asked h => ?_⟩
      · have hne := hscope scope hasked
        revert hne
        cases scope <;> decide
      · rw [hasked, Option.mem_some_iff] at h
        simp [h]

theorem studentMay_iff_granted : StudentMay (whoAt PolicySet.decide action years thresholds) ↔
    ∃ grant ∈ grants action, grant.role = .student ∧
      grant.FitsAble (ableAt years thresholds) := by
  rw [(whoMay_iff _ _ _ _).1, asked_iff_granted]
  refine exists_congr fun grant => and_congr_right fun hgrant => and_congr_right fun hrole => ?_
  obtain ⟨htie, hscope⟩ := (wellFormed_grants action hgrant).2.1 hrole
  simp [Grant.FitsTie, Grant.FitsScopes, htie, hscope]

/-- **The tables together.** A person may do an action exactly if one of his roles may: with his
relation, and as a guardian with his scopes, and as a student of his age. -/
theorem granted_iff_read (roles : RoleSet) :
    (∃ grant ∈ grants action, roles.has grant.role = true ∧ grant.FitsTie tie ∧
      grant.FitsScopes opened ∧ grant.FitsAble (ableAt years thresholds)) ↔
    ∃ role, roles.has role = true ∧ Lists (cell PolicySet.decide role action) tie ∧
      (role = .guardian → LevelMet (guardianLevel PolicySet.decide action) opened) ∧
      (role = .student → StudentMay (whoAt PolicySet.decide action years thresholds)) := by
  simp only [lists_iff_granted, levelMet_iff_granted, studentMay_iff_granted]
  constructor
  · rintro ⟨grant, hgrant, hrole, htie, hscopes, hable⟩
    exact ⟨grant.role, hrole, ⟨grant, hgrant, rfl, htie⟩,
      fun hguardian => ⟨grant, hgrant, hguardian, hscopes⟩,
      fun hstudent => ⟨grant, hgrant, hstudent, hable⟩⟩
  · rintro ⟨role, hrole, ⟨grant, hgrant, rfl, htie⟩, hguardian, hstudent⟩
    obtain ⟨hcare, habout, hscope, hcapability, -, -⟩ := wellFormed_grants action hgrant
    by_cases hisGuardian : grant.role = .guardian
    · obtain ⟨other, hother, hotherRole, hfits⟩ := hguardian hisGuardian
      obtain ⟨hotherTie, hnone⟩ := (wellFormed_grants action hother).1 hotherRole
      refine ⟨other, hother, by rwa [hotherRole, ← hisGuardian], ?_, hfits, ?_⟩
      · rw [Grant.FitsTie, (hcare hisGuardian).1] at htie
        rwa [Grant.FitsTie, hotherTie]
      · simp [Grant.FitsAble, hnone]
    · by_cases hisStudent : grant.role = .student
      · obtain ⟨other, hother, hotherRole, hfits⟩ := hstudent hisStudent
        obtain ⟨hotherTie, hnone⟩ := (wellFormed_grants action hother).2.1 hotherRole
        refine ⟨other, hother, by rwa [hotherRole, ← hisStudent], ?_, ?_, hfits⟩
        · rw [Grant.FitsTie, (habout hisStudent).1] at htie
          rwa [Grant.FitsTie, hotherTie]
        · simp [Grant.FitsScopes, hnone]
      · refine ⟨grant, hgrant, hrole, htie, ?_, ?_⟩
        · simp [Grant.FitsScopes, hscope hisGuardian]
        · simp [Grant.FitsAble, hcapability hisStudent]

end Decisions

section Documents

variable {document : Text} {permissions : Policy} {thresholds : AgeThresholds} {action : Action}

theorem compute_eq (age : AgeStatus) : compute age thresholds = ableAt age.years thresholds := by
  simp only [compute, ableAt, AgeStatus.reached, decide_eq_true_eq]

theorem anyoneMay_of_column {years : Int}
    (h : whoAt permissions action years thresholds ≠ nobody) :
    anyoneMay permissions thresholds action = true := by
  rw [anyoneMay, List.any_eq_true]
  exact ⟨_, List.mem_of_getElem? (ageCells_column permissions thresholds action years),
    decide_eq_true h⟩

/-- What a document with both tables says. -/
theorem documented_iff (hroles : tableIn roleFence document = rows permissions)
    (hages : tableIn ageFence document = ageRows permissions thresholds)
    (haction : action ∈ everyAction) (roles : RoleSet) (tie : Tie) (opened : GuardianScopeSet)
    (years : Int) : Documented document roles tie opened years action ↔
      ∃ role, roles.has role = true ∧ Lists (cell permissions role action) tie ∧
        (role = .guardian → LevelMet (guardianLevel permissions action) opened) ∧
        (role = .student → StudentMay (whoAt permissions action years thresholds)) := by
  have hcell : ∀ role, (row permissions action)[2 + everyRole.idxOf role]? =
      some (cell permissions role action) := by
    intro role
    cases role <;> rfl
  have hlevel : (row permissions action)[2 + everyRole.length]? =
      some (guardianLevel permissions action) := rfl
  have hcolumn := ageRow_column permissions thresholds action years
  simp only [Documented, hroles, hages, rowOf_rows permissions haction,
    rowOf_ageRows permissions thresholds haction, Option.some.injEq, exists_eq_left', hcell,
    hlevel]
  refine exists_congr fun role => and_congr_right fun _ => and_congr_right fun _ =>
    and_congr_right fun _ => imp_congr_right fun _ => ?_
  constructor
  · rintro ⟨ages, hrow, written, hwritten, hmay⟩
    split_ifs at hrow
    obtain rfl := Option.some.inj hrow
    rw [hcolumn, Option.some_inj] at hwritten
    rwa [hwritten]
  · intro hmay
    have hsomebody : whoAt permissions action years thresholds ≠ nobody := fun h =>
      ((whoMay_iff permissions action years thresholds).2.2.1 h).1 hmay
    rw [if_pos (anyoneMay_of_column hsomebody)]
    exact ⟨_, rfl, _, hcolumn, hmay⟩

/-- A document with two empty regions. -/
def bareDocument : Text :=
  matrixOpening ++ (matrixClosing ++ (ageMatrixOpening ++ ageMatrixClosing))

/-- The same document with its tables. -/
def writtenDocument (permissions : Policy) (thresholds : AgeThresholds) : Text :=
  matrixOpening ++ (framed (renderMatrix permissions) ++ (matrixClosing ++
    (ageMatrixOpening ++ (framed (renderAgeMatrix permissions thresholds) ++ ageMatrixClosing))))

theorem not_infix_nil {mark : Text} (h : IsMark sign mark) : ¬ mark <:+: [] := fun hin =>
  h.ne_nil (List.infix_nil.1 hin)

theorem bareDocument_region :
    roleFence.Region bareDocument [] []
      ([] ++ (ageFence.opening ++ ([] ++ (ageFence.closing ++ [])))) :=
  ⟨by rw [List.append_nil, List.nil_append, List.nil_append, List.nil_append, bareDocument]; rfl,
    not_infix_nil roleFence.opens, not_infix_nil roleFence.closes,
    not_infix_nil roleFence.closes⟩

theorem withMatrix_bareDocument (permissions : Policy) (thresholds : AgeThresholds) :
    withMatrix bareDocument permissions thresholds =
      .ok (writtenDocument permissions thresholds) := by
  rw [withMatrix_eq_ok_iff, Fence.both_behind bareDocument_region (sign_notMem_matrix permissions)
    fences_disjoint ⟨not_infix_nil ageFence.opens, not_infix_nil ageFence.opens⟩
    ⟨not_infix_nil ageFence.closes, not_infix_nil ageFence.closes⟩
    (not_infix_nil ageFence.closes)]
  rw [List.append_nil, List.nil_append, List.nil_append, writtenDocument]
  rfl

theorem accepted_writtenDocument (permissions : Policy) (thresholds : AgeThresholds) :
    withMatrix (writtenDocument permissions thresholds) permissions thresholds =
      .ok (writtenDocument permissions thresholds) := by
  rw [withMatrix_eq_ok_iff]
  exact Fence.both_again bareDocument_region
    (fun hopen => not_infix_nil ageFence.opens hopen.1) (sign_notMem_matrix permissions)
    (sign_notMem_ageMatrix permissions thresholds) fences_disjoint
    ((withMatrix_eq_ok_iff permissions thresholds).1
      (withMatrix_bareDocument permissions thresholds))

theorem usual_thinkable : youngestThinkable ≤ 14 ∧ 18 ≤ oldestThinkable := by decide

theorem usual_ordered : (14 : Int) ≤ 16 ∧ (16 : Int) ≤ 18 := by decide

/-- Thresholds 14, 16 and 18. -/
def usualThresholds : AgeThresholds := ⟨14, 16, 18, usual_thinkable, usual_ordered⟩

/-- **An accepted document says what is decided.** If writing the tables changes nothing in a
document, then of every person, whatever his roles, his relation to the resource, the scopes open
to him and his age, its tables say that he may do an action exactly if the policies allow it. -/
theorem documented_iff_allowed
    (haccepted : withMatrix document PolicySet.decide thresholds = .ok document)
    (subject : Subject) (age : AgeStatus) (hable : subject.able = compute age thresholds)
    (resource : Resource) (htenant : subject.tenant = resource.tenant)
    (haction : action ∈ everyAction) :
    Documented document subject.roles subject.tie subject.asGuardian.opened age.years action ↔
      (PolicySet.decide subject action resource).allowed = true := by
  obtain ⟨hroles, hages⟩ := tables_of_accepted haccepted
  rw [documented_iff hroles hages haction, ← granted_iff_read, allowed_iff_granted,
    and_iff_right htenant]
  simp only [Grant.met_iff, hable, compute_eq]

theorem longAgo_ok : (Civil.Date.mk 1990 1 1).ok = true := by decide

theorem longAgo_thinkable : earliestYear ≤ 1990 ∧ 1990 ≤ latestYear := by decide

/-- The age of somebody who was born in 1990, in 2020. -/
def grownUp : AgeStatus := ⟨⟨⟨1990, 1, 1⟩, longAgo_ok, longAgo_thinkable⟩, 1600000000000000, 30⟩

/-- A tutor of this age asks about what is his. -/
def askingTutor : Subject := asking .tutor .mine BitSet.empty (compute grownUp usualThresholds)

theorem written_document_admits_tutor :
    Documented (writtenDocument PolicySet.decide usualThresholds) askingTutor.roles askingTutor.tie
      askingTutor.asGuardian.opened grownUp.years .bookLesson ↔
        (PolicySet.decide askingTutor .bookLesson something).allowed = true :=
  documented_iff_allowed (accepted_writtenDocument PolicySet.decide usualThresholds) askingTutor
    grownUp rfl something rfl (by decide)

/-- Where the first region of a document begins, the second one is open. -/
def IsAround (document : Text) : Prop :=
  ∃ start, Fence.find matrixOpening document = some start ∧ ageFence.IsOpen (document.take start)

/-- The mark that opens the first region is in a document once. -/
def OpensOnce (document : Text) : Prop :=
  ∃ start, Fence.find matrixOpening document = some start ∧
    ¬ matrixOpening <:+: document.drop (start + matrixOpening.length)

/-- A document with nothing in its regions: what people wrote. -/
def emptied (document : Text) : Option Text := Fence.both roleFence ageFence [] [] document

/-- The second region is around the first one: it is open where that begins, and closed behind
it. -/
def Encloses (document : Text) : Prop :=
  ∃ start stop, Fence.find matrixOpening document = some start ∧
    Fence.find matrixClosing document = some stop ∧ start ≤ stop ∧
      ageFence.IsOpen (document.take start) ∧ ageMatrixClosing <:+: document.drop stop

section Regions

variable {front inside back : Text} (h : roleFence.Region document front inside back)
include h

theorem isAround_iff : IsAround document ↔ ageFence.IsOpen front := by
  have hstart : Fence.find matrixOpening document = some front.length := h.find_opening
  have hfront : document.take front.length = front := by rw [h.text_eq, List.take_left]
  simp [IsAround, hstart, hfront]

theorem OpensOnce.not_behind (honce : OpensOnce document) : ¬ roleFence.opening <:+: back := by
  obtain ⟨start, hfound, honce⟩ := honce
  have hstart : Fence.find matrixOpening document = some front.length := h.find_opening
  obtain rfl : front.length = start := Option.some.inj (hstart.symm.trans hfound)
  have hassoc : document = front ++ matrixOpening ++ (inside ++ (roleFence.closing ++ back)) := by
    rw [List.append_assoc]
    exact h.text_eq
  have hdrop : document.drop (front.length + matrixOpening.length) =
      inside ++ (roleFence.closing ++ back) := by
    rw [hassoc, ← List.length_append, List.drop_left]
  refine fun hin => honce (hin.trans ?_)
  rw [hdrop, ← List.append_assoc]
  exact List.infix_append_right

/-- What is behind the second region's end is behind the first one, too. -/
theorem Encloses.around (hencloses : Encloses document) :
    ageFence.IsOpen front ∧ ageFence.closing <:+: back := by
  obtain ⟨start, stop, hstart, hstop, -, hopen, hclosed⟩ := hencloses
  refine ⟨(isAround_iff h).1 ⟨start, hstart, hopen⟩, ?_⟩
  have hend : Fence.find matrixClosing document =
      some (front ++ (roleFence.opening ++ inside)).length := h.find_closing
  obtain rfl := Option.some.inj (hend.symm.trans hstop)
  rw [h.drop_inside] at hclosed
  exact (ageFence.closes.infix_mark_append roleFence.closes
    fences_disjoint.closing_closing.symm).1 hclosed

end Regions

/-- **What is written is accepted, or lost.** Unless the second region is open where the first one
begins, a written document is accepted; it keeps what people wrote, and with other policies and
thresholds it gives what the document before would have given. If the second region is around the
first one, and that is opened once, both are written, but the first one is lost and the document can
never be written again. -/
theorem written_document_is_accepted (document : Text) (permissions : Policy)
    (thresholds : AgeThresholds) :
    (∀ new, withMatrix document permissions thresholds = .ok new → ¬ IsAround document →
      withMatrix new permissions thresholds = .ok new ∧ emptied new = emptied document ∧
        ∀ later ages, withMatrix new later ages = withMatrix document later ages) ∧
    (Encloses document → OpensOnce document →
      ∃ new, withMatrix document permissions thresholds = .ok new ∧ ¬ matrixOpening <:+: new ∧
        ∀ later ages, withMatrix new later ages = .error markersMissing) := by
  have hmatrix := sign_notMem_matrix
  have hage := sign_notMem_ageMatrix
  constructor
  · intro new hnew hopen
    rw [withMatrix_eq_ok_iff] at hnew
    obtain ⟨roles, hroles, -⟩ := Option.bind_eq_some_iff.1 hnew
    obtain ⟨front, inside, back, h, -⟩ := Fence.splice_eq_some_iff.1 hroles
    rw [isAround_iff h] at hopen
    have hsame : ∀ later ages, Fence.both roleFence ageFence (framed (renderMatrix later))
        (framed (renderAgeMatrix later ages)) new =
          Fence.both roleFence ageFence (framed (renderMatrix later))
            (framed (renderAgeMatrix later ages)) document := fun later ages =>
      Fence.both_both h hopen (hmatrix permissions) (hage permissions thresholds) (hmatrix later)
        fences_disjoint hnew
    refine ⟨?_, ?_, fun later ages => ?_⟩
    · rw [withMatrix_eq_ok_iff]
      exact (hsame permissions thresholds).trans hnew
    · exact Fence.both_both h hopen (hmatrix permissions) (hage permissions thresholds)
        List.not_mem_nil fences_disjoint hnew
    · rw [withMatrix_eq, withMatrix_eq, hsame later ages]
  · intro hencloses honce
    obtain ⟨start, stop, hstart, hstop, hle, -, -⟩ := id hencloses
    have hregion : ∃ front inside back, roleFence.Region document front inside back :=
      Fence.exists_region hstart hstop hle
    obtain ⟨front, inside, back, h⟩ := hregion
    obtain ⟨hopen, hclosed⟩ := hencloses.around h
    obtain ⟨new, hnew⟩ := Fence.both_around h hopen hclosed (hmatrix permissions) fences_disjoint
    have hlost := Fence.both_swallowed h hopen (honce.not_behind h) (hmatrix permissions)
      (hage permissions thresholds) fences_disjoint hnew
    refine ⟨new, (withMatrix_eq_ok_iff permissions thresholds).2 hnew, hlost, fun later ages => ?_⟩
    rw [withMatrix_eq, Fence.both_eq_none hlost]

theorem not_isAround_bareDocument : ¬ IsAround bareDocument := by
  rw [isAround_iff bareDocument_region]
  exact fun hopen => not_infix_nil ageFence.opens hopen.1

/-- A document in which the second region is around the first one. -/
def enclosingDocument : Text :=
  ageMatrixOpening ++ (matrixOpening ++ (matrixClosing ++ ageMatrixClosing))

theorem not_infix_mark {mark other : Text} (h : IsMark sign mark) (hother : IsMark sign other)
    (hapart : Apart mark other) : ¬ mark <:+: other := by
  rw [← List.append_nil other, h.infix_mark_append hother hapart]
  exact not_infix_nil h

theorem enclosingDocument_region :
    roleFence.Region enclosingDocument ageMatrixOpening [] ageMatrixClosing :=
  ⟨rfl, not_infix_mark roleFence.opens ageFence.opens fences_disjoint.opening_opening,
    not_infix_mark roleFence.closes ageFence.opens fences_disjoint.closing_opening,
    not_infix_nil roleFence.closes⟩

theorem encloses_enclosingDocument : Encloses enclosingDocument := by
  have h := enclosingDocument_region
  refine ⟨_, _, h.find_opening, h.find_closing, by simp, ?_, ?_⟩
  · rw [h.text_eq, List.take_left]
    exact ⟨List.infix_rfl, not_infix_mark ageFence.closes ageFence.opens ageFence.apart.symm⟩
  · rw [h.drop_inside]
    exact List.infix_append_right

theorem opensOnce_enclosingDocument : OpensOnce enclosingDocument := by
  have h := enclosingDocument_region
  refine ⟨_, h.find_opening, ?_⟩
  have hdrop : enclosingDocument.drop (ageMatrixOpening.length + matrixOpening.length) =
      matrixClosing ++ ageMatrixClosing := by
    rw [enclosingDocument, ← List.append_assoc, ← List.length_append, List.drop_left]
  rw [hdrop]
  show ¬ roleFence.opening <:+: roleFence.closing ++ ageMatrixClosing
  rw [roleFence.opens.infix_mark_append roleFence.closes roleFence.apart]
  exact not_infix_mark roleFence.opens ageFence.closes fences_disjoint.opening_closing

/-- What is written into the bare document is accepted. What is written into the other one has lost
its first region, and nothing can be written into it again. -/
theorem documents_are_accepted_or_lost :
    let written := writtenDocument PolicySet.decide usualThresholds
    (withMatrix written PolicySet.decide usualThresholds = .ok written ∧
      emptied written = emptied bareDocument ∧
        ∀ later ages, withMatrix written later ages = withMatrix bareDocument later ages) ∧
    ∃ new, withMatrix enclosingDocument PolicySet.decide usualThresholds = .ok new ∧
      ¬ matrixOpening <:+: new ∧
        ∀ later ages, withMatrix new later ages = .error markersMissing :=
  ⟨(written_document_is_accepted bareDocument PolicySet.decide usualThresholds).1 _
      (withMatrix_bareDocument PolicySet.decide usualThresholds) not_isAround_bareDocument,
    (written_document_is_accepted enclosingDocument PolicySet.decide usualThresholds).2
      encloses_enclosingDocument opensOnce_enclosingDocument⟩

/-- **The second table tells of every age.** Of an action without a row nobody may do it at any
age; else the cell in the column of an age says whether a student may do it who is able to what
comes by then, and whether a guardian may to whom all scopes are open that a student of that age
does not decide about. -/
theorem age_table_tells_every_age (permissions : Policy) (thresholds : AgeThresholds)
    (action : Action) (haction : action ∈ everyAction) (years : Int) :
    let table := BarTable.read bar newline (renderAgeMatrix permissions thresholds)
    let student := (permissions
      (asking .student .aboutMe BitSet.empty (ableAt years thresholds)) action something).allowed
    let guardian := (permissions (asking .guardian .inMyCare (openToGuardianAt years thresholds)
      ableOfEverything) action something).allowed
    (rowOf table action = none → student = false ∧ guardian = false) ∧
      ∀ ages, rowOf table action = some ages →
        ∃ written, ages[2 + columnOf table years]? = some written ∧
          (StudentMay written ↔ student = true) ∧ (GuardianMay written ↔ guardian = true) := by
  intro table student guardian
  obtain ⟨hstudent, hguardian, hnobody⟩ := whoMay_iff permissions action years thresholds
  have htable : table = ageRows permissions thresholds :=
    read_renderAgeMatrix permissions thresholds
  rw [htable, rowOf_ageRows permissions thresholds haction]
  constructor
  · intro hnone
    have hempty : whoAt permissions action years thresholds = nobody := by
      by_contra hsomebody
      rw [if_pos (anyoneMay_of_column hsomebody)] at hnone
      cases hnone
    rw [hnobody, hstudent, hguardian] at hempty
    exact ⟨Bool.not_eq_true _ ▸ hempty.1, Bool.not_eq_true _ ▸ hempty.2⟩
  · intro ages hages
    split_ifs at hages
    obtain rfl := Option.some.inj hages
    exact ⟨_, ageRow_column permissions thresholds action years, hstudent, hguardian⟩

theorem age_table_tells_of_booking :
    let table := BarTable.read bar newline (renderAgeMatrix PolicySet.decide usualThresholds)
    let student := (PolicySet.decide (asking .student .aboutMe BitSet.empty
      (ableAt 17 usualThresholds)) .bookLesson something).allowed
    let guardian := (PolicySet.decide (asking .guardian .inMyCare
      (openToGuardianAt 17 usualThresholds) ableOfEverything) .bookLesson something).allowed
    (rowOf table .bookLesson = none → student = false ∧ guardian = false) ∧
      ∀ ages, rowOf table .bookLesson = some ages →
        ∃ written, ages[2 + columnOf table 17]? = some written ∧
          (StudentMay written ↔ student = true) ∧ (GuardianMay written ↔ guardian = true) :=
  age_table_tells_every_age PolicySet.decide usualThresholds .bookLesson (by decide) 17

end Documents

end Pdr.Identity.Matrix
