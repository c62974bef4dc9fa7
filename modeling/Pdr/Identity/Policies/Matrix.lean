import Pdr.Core.Utf8
import Pdr.Identity.Application.Announcements
import Pdr.Identity.Policies.PolicySet
import Pdr.Patterns.BarTable

/-!
# The matrix of permissions

Two tables say who may do what. They are not written down but asked for: a policy is asked about
every action for every role and relation, and for every age from which something changes, and the
cell says what the policy answered.

## Main definitions

* `Pdr.Identity.Matrix.cell`, `Pdr.Identity.Matrix.guardianLevel`, `Pdr.Identity.Matrix.whoAt`:
  what stands in a cell.
* `Pdr.Identity.Matrix.renderMatrix`, `Pdr.Identity.Matrix.renderAgeMatrix`: the two tables.

## Main results

* `Pdr.Identity.Matrix.renderMatrix_eq`, `Pdr.Identity.Matrix.renderAgeMatrix_eq`: the texts are
  tables, line by line.
-/

namespace Pdr.Identity

/-! ### Names and titles -/

/-- `kEveryAction`. -/
def everyAction : List Action :=
  [.bookLesson, .cancelLesson, .rescheduleLesson, .viewSchedule, .viewInvoice, .payInvoice,
    .issueRefund, .setTariff, .viewMaterial, .editMaterial, .publishMaterial, .assignPlan,
    .viewProgress, .recordAttempt, .exportProgress, .viewTenantProgress, .viewLessonRecording,
    .viewLessonTranscript, .viewAccessJournal, .manageGuardianAccess, .writeReview,
    .manageAutoPayment, .invitePeople, .managePractice]

/-- `Name`, of an action. -/
def Action.name : Action → String
  | bookLesson => "book_lesson"
  | cancelLesson => "cancel_lesson"
  | rescheduleLesson => "reschedule_lesson"
  | viewSchedule => "view_schedule"
  | viewInvoice => "view_invoice"
  | payInvoice => "pay_invoice"
  | issueRefund => "issue_refund"
  | setTariff => "set_tariff"
  | viewMaterial => "view_material"
  | editMaterial => "edit_material"
  | publishMaterial => "publish_material"
  | assignPlan => "assign_plan"
  | viewProgress => "view_progress"
  | recordAttempt => "record_attempt"
  | exportProgress => "export_progress"
  | viewTenantProgress => "view_tenant_progress"
  | viewLessonRecording => "view_lesson_recording"
  | viewLessonTranscript => "view_lesson_transcript"
  | viewAccessJournal => "view_access_journal"
  | manageGuardianAccess => "manage_guardian_access"
  | writeReview => "write_review"
  | manageAutoPayment => "manage_auto_payment"
  | invitePeople => "invite_people"
  | managePractice => "manage_practice"
  | boundary => "boundary"

/-- `Title`, of an action. -/
def Action.title : Action → String
  | bookLesson => "Записать занятие"
  | cancelLesson => "Отменить занятие"
  | rescheduleLesson => "Перенести занятие"
  | viewSchedule => "Смотреть расписание"
  | viewInvoice => "Смотреть счёт"
  | payInvoice => "Оплатить счёт"
  | issueRefund => "Вернуть деньги"
  | setTariff => "Назначить цену"
  | viewMaterial => "Открыть материал"
  | editMaterial => "Править материал"
  | publishMaterial => "Опубликовать материал"
  | assignPlan => "Назначить программу занятий"
  | viewProgress => "Смотреть, что получается"
  | recordAttempt => "Записать попытку"
  | exportProgress => "Унести историю занятий"
  | viewTenantProgress => "Смотреть сводку по кабинету"
  | viewLessonRecording => "Слушать запись занятия"
  | viewLessonTranscript => "Читать расшифровку занятия"
  | viewAccessJournal => "Смотреть, кто заходил в мои данные"
  | manageGuardianAccess => "Открывать и отзывать доступ опекуну"
  | writeReview => "Написать отзыв о репетиторе"
  | manageAutoPayment => "Подключить списание с карты"
  | invitePeople => "Позвать людей в практику"
  | managePractice => "Распоряжаться практикой"
  | boundary => ""

/-- `Title`, of a role. -/
def Role.title : Role → String
  | owner => "Владелец школы"
  | tutor => "Репетитор"
  | student => "Ученик"
  | guardian => "Опекун"

/-- `Name`, of a scope. -/
def GuardianScope.name : GuardianScope → String
  | schedule => "schedule"
  | payments => "payments"
  | notesAndHomework => "notes_and_homework"
  | recordings => "recordings"
  | boundary => "boundary"

/-- `kEveryTie`. -/
def everyTie : List Tie := [.mine, .aboutMe, .inMyCare, .none]

/-- `Says`. -/
def Tie.saying : Tie → String
  | mine => "своё"
  | aboutMe => "о себе"
  | inMyCare => "под присмотром"
  | none => "чужое"

/-- A code between backquotes. -/
def quoted (name : String) : Text := utf8 "`" ++ utf8 name ++ utf8 "`"

namespace Matrix

/-- `Somewhere`. -/
def somewhere : TenantId := ⟨(Vector.replicate 15 0).push 1⟩

/-- `Someone`. -/
def someone : PersonId := ⟨(Vector.replicate 15 0).push 2⟩

/-- What is asked about. -/
def something : Resource := ⟨somewhere, .none, .none⟩

/-- `GuardianScopeSet::Everything`. -/
def everyScope : GuardianScopeSet :=
  everyGuardianScope.foldl (fun set scope => set.insert scope) BitSet.empty

/-- `Capabilities::Everything`. -/
def ableOfEverything : Capabilities :=
  everyCapability.foldl (fun set capability => set.insert capability) BitSet.empty

/-- `Asking`: the person in the question. -/
def asking (role : Role) (tie : Tie) (scopes : GuardianScopeSet) (able : Capabilities) : Subject :=
  ⟨somewhere, someone, BitSet.empty.insert role, tie, { opened := scopes }, able⟩

/-- `AbleAt`. -/
def ableAt (years : Int) (thresholds : AgeThresholds) : Capabilities :=
  everyCapability.foldl
    (fun able capability =>
      if thresholds.years (arrivesWith capability) ≤ years then able.insert capability else able)
    BitSet.empty

/-- `OpenToGuardianAt`. -/
def openToGuardianAt (years : Int) (thresholds : AgeThresholds) : GuardianScopeSet :=
  everyGuardianScope.foldl
    (fun opened scope =>
      if years < thresholds.years (whenStudentDecides scope) then opened.insert scope else opened)
    BitSet.empty

/-- The dash of an empty cell. -/
def nobody : Text := utf8 "—"

/-- `WhoAt`. -/
def whoAt (permissions : Policy) (action : Action) (years : Int) (thresholds : AgeThresholds) :
    Text :=
  let student := (permissions (asking .student .aboutMe BitSet.empty (ableAt years thresholds))
    action something).allowed
  let guardian := (permissions (asking .guardian .inMyCare (openToGuardianAt years thresholds)
    ableOfEverything) action something).allowed
  if student && guardian then utf8 "оба"
  else if student then utf8 "ученик"
  else if guardian then utf8 "опекун"
  else nobody

/-- The symbols of a table. -/
def bar : UInt8 := 124

/-- The space. -/
def blank : UInt8 := 32

/-- The comma. -/
def comma : UInt8 := 44

/-- The end of a line. -/
def newline : UInt8 := 10

/-- `Cell`. -/
def cell (permissions : Policy) (role : Role) (action : Action) : Text :=
  let allowed := (everyTie.filter fun tie =>
    (permissions (asking role tie everyScope ableOfEverything) action something).allowed).map
      fun tie => utf8 tie.saying
  if allowed = [] then nobody
  else if allowed.length = everyTie.length then utf8 "любое в кабинете"
  else BarTable.enumerated comma blank allowed

/-- `GuardianLevel`. -/
def guardianLevel (permissions : Policy) (action : Action) : Text :=
  let allows := fun scopes => (permissions (asking .guardian .inMyCare scopes ableOfEverything)
    action something).allowed
  if allows everyScope = false then nobody
  else if allows BitSet.empty then utf8 "не нужен"
  else
    let levels := BarTable.enumerated comma blank
      ((everyGuardianScope.filter fun scope => allows (BitSet.empty.insert scope)).map
        fun scope => quoted scope.name)
    if levels = [] then nobody else levels

/-- A round of the loop of `RenderMatrix`. -/
def writeAction (permissions : Policy) (out : Text) (action : Action) : Text :=
  let out := out ++ utf8 "| " ++ utf8 action.title ++ utf8 " | `" ++ utf8 action.name ++ utf8 "` |"
  let out := everyRole.foldl
    (fun out role => out ++ utf8 " " ++ cell permissions role action ++ utf8 " |") out
  out ++ utf8 " " ++ guardianLevel permissions action ++ utf8 " |\n"

/-- `RenderMatrix`. -/
def renderMatrix (permissions : Policy) : Text :=
  let out := utf8 "| Действие | Код |"
  let out := everyRole.foldl (fun out role => out ++ utf8 " " ++ utf8 role.title ++ utf8 " |") out
  let out := out ++ utf8 " Уровень опекуна |\n| --- | --- |"
  let out := everyRole.foldl (fun out _ => out ++ utf8 " --- |") out
  let out := out ++ utf8 " --- |\n"
  everyAction.foldl (writeAction permissions) out

/-- The years that the columns of the second table are about. -/
def bands (thresholds : AgeThresholds) : List Int :=
  (thresholds.years (everyAgeThreshold.headD .boundary) - 1) ::
    everyAgeThreshold.map thresholds.years

/-- A round of the loop of `RenderAgeMatrix`: there is no line if no cell names anybody. -/
def writeAgeAction (permissions : Policy) (thresholds : AgeThresholds) (out : Text)
    (action : Action) : Text :=
  let cells := (bands thresholds).map fun years => whoAt permissions action years thresholds
  let anyone := cells.foldl (fun anyone cell => anyone || decide (cell ≠ nobody)) false
  if !anyone then out
  else
    let out := out ++ utf8 "| " ++ utf8 action.title ++ utf8 " | `" ++ utf8 action.name ++
      utf8 "` |"
    let out := cells.foldl (fun out cell => out ++ utf8 " " ++ cell ++ utf8 " |") out
    out ++ utf8 "\n"

/-- `RenderAgeMatrix`. -/
def renderAgeMatrix (permissions : Policy) (thresholds : AgeThresholds) : Text :=
  let out := utf8 "| Действие | Код | младше " ++
    utf8 (toString ((bands thresholds).headD 0 + 1)) ++ utf8 " |"
  let out := everyAgeThreshold.foldl (fun out threshold =>
    out ++ utf8 " с " ++ utf8 (toString (thresholds.years threshold)) ++ utf8 " |") out
  let out := out ++ utf8 "\n| --- | --- |"
  let out := (bands thresholds).foldl (fun out _ => out ++ utf8 " --- |") out
  let out := out ++ utf8 "\n"
  everyAction.foldl (writeAgeAction permissions thresholds) out

/-! ### The texts are tables -/

/-- The first row of the first table. -/
def header : List Text :=
  [utf8 "Действие", utf8 "Код"] ++ everyRole.map (fun role => utf8 role.title) ++
    [utf8 "Уровень опекуна"]

/-- A row of the first table. -/
def row (permissions : Policy) (action : Action) : List Text :=
  [utf8 action.title, quoted action.name] ++
    everyRole.map (fun role => cell permissions role action) ++ [guardianLevel permissions action]

/-- The first table. -/
def rows (permissions : Policy) : List (List Text) :=
  header :: header.map (fun _ => utf8 "---") :: everyAction.map (row permissions)

/-- The first row of the second table. -/
def ageHeader (thresholds : AgeThresholds) : List Text :=
  [utf8 "Действие", utf8 "Код",
    utf8 "младше " ++ utf8 (toString (thresholds.years .slotsAndReviews))] ++
    everyAgeThreshold.map fun threshold => utf8 "с " ++ utf8 (toString (thresholds.years threshold))

/-- The cells of a row of the second table. -/
def ageCells (permissions : Policy) (thresholds : AgeThresholds) (action : Action) : List Text :=
  (bands thresholds).map fun years => whoAt permissions action years thresholds

/-- A row of the second table. -/
def ageRow (permissions : Policy) (thresholds : AgeThresholds) (action : Action) : List Text :=
  [utf8 action.title, quoted action.name] ++ ageCells permissions thresholds action

/-- Somebody may do the action at some age. -/
def anyoneMay (permissions : Policy) (thresholds : AgeThresholds) (action : Action) : Bool :=
  (ageCells permissions thresholds action).any fun cell => decide (cell ≠ nobody)

/-- The second table: actions that nobody may do at any age have no row. -/
def ageRows (permissions : Policy) (thresholds : AgeThresholds) : List (List Text) :=
  ageHeader thresholds :: (ageHeader thresholds).map (fun _ => utf8 "---") ::
    (everyAction.filter (anyoneMay permissions thresholds)).map (ageRow permissions thresholds)

section Lines

theorem utf8_bar : utf8 "|" = [bar] := by rw [utf8_eq_flatMap]; decide
theorem utf8_blank : utf8 " " = [blank] := by rw [utf8_eq_flatMap]; decide
theorem utf8_newline : utf8 "\n" = [newline] := by rw [utf8_eq_flatMap]; decide

/-- A line of a table in pieces. -/
def lineOf (cells : List Text) : Text :=
  utf8 "|" ++ (cells.flatMap (fun cell => utf8 " " ++ (cell ++ utf8 " |")) ++ utf8 "\n")

theorem text_eq (table : List (List Text)) :
    BarTable.text bar blank newline table = table.flatMap lineOf := by
  have hsplit : utf8 " |" = [blank, bar] := by rw [utf8_eq_flatMap]; decide
  have hbehind : BarTable.behindBar bar blank = fun cell => utf8 " " ++ (cell ++ utf8 " |") := by
    funext cell
    rw [utf8_blank, hsplit]
    rfl
  have hline : (fun cells => BarTable.line bar blank cells ++ [newline]) = lineOf := by
    funext cells
    rw [lineOf, BarTable.line, hbehind, utf8_bar, utf8_newline]
    rfl
  rw [BarTable.text, hline]

theorem foldl_write {α : Type} (items : List α) (write : α → Text) (out : Text) :
    items.foldl (fun out item => out ++ write item) out = out ++ items.flatMap write := by
  induction items generalizing out with
  | nil => simp
  | cons item items ih => rw [List.foldl_cons, ih, List.append_assoc, List.flatMap_cons]

theorem utf8_begin : utf8 "| " = utf8 "|" ++ utf8 " " := by rw [← utf8_append]; rfl

theorem utf8_code : utf8 " | `" = utf8 " |" ++ (utf8 " " ++ utf8 "`") := by
  simp only [← utf8_append]
  rfl

theorem utf8_codeEnd : utf8 "` |" = utf8 "`" ++ utf8 " |" := by rw [← utf8_append]; rfl

theorem utf8_rule : utf8 " --- |" = utf8 " " ++ (utf8 "---" ++ utf8 " |") := by
  simp only [← utf8_append]
  rfl

theorem utf8_rules : utf8 "| --- | --- |" =
    utf8 "|" ++ (utf8 " " ++ (utf8 "---" ++ (utf8 " |" ++ (utf8 " " ++ (utf8 "---" ++
      utf8 " |"))))) := by
  simp only [← utf8_append]
  rfl

end Lines

theorem writeAction_eq (permissions : Policy) (out : Text) (action : Action) :
    writeAction permissions out action = out ++ lineOf (row permissions action) := by
  have hend : utf8 " |\n" = utf8 " |" ++ utf8 "\n" := by rw [← utf8_append]; rfl
  simp only [writeAction, lineOf, row, quoted, List.append_assoc, foldl_write, List.flatMap_append,
    List.flatMap_cons, List.flatMap_nil, List.flatMap_map, List.append_nil, utf8_begin, utf8_code,
    utf8_codeEnd, hend]

/-- **The first text is a table.** -/
theorem renderMatrix_eq (permissions : Policy) :
    renderMatrix permissions = BarTable.text bar blank newline (rows permissions) := by
  have hhead : utf8 "| Действие | Код |" = utf8 "|" ++ (utf8 " " ++ (utf8 "Действие" ++
      (utf8 " |" ++ (utf8 " " ++ (utf8 "Код" ++ utf8 " |"))))) := by
    simp only [← utf8_append]
    rfl
  have hlast : utf8 " Уровень опекуна |\n| --- | --- |" = utf8 " " ++ (utf8 "Уровень опекуна" ++
      (utf8 " |" ++ (utf8 "\n" ++ utf8 "| --- | --- |"))) := by
    simp only [← utf8_append]
    rfl
  have hend : utf8 " --- |\n" = utf8 " --- |" ++ utf8 "\n" := by rw [← utf8_append]; rfl
  have hwrite : writeAction permissions =
      fun out action => out ++ lineOf (row permissions action) := by
    funext out action
    exact writeAction_eq permissions out action
  simp only [renderMatrix, text_eq, rows, header, hwrite, foldl_write, List.append_assoc, lineOf,
    hhead, hlast, hend, utf8_rules, utf8_rule, everyRole, List.flatMap_cons, List.flatMap_nil,
    List.map_cons, List.map_nil, List.cons_append, List.nil_append, List.append_nil,
    List.flatMap_map]

theorem writeAgeAction_eq (permissions : Policy) (thresholds : AgeThresholds) (out : Text)
    (action : Action) : writeAgeAction permissions thresholds out action =
      out ++ if anyoneMay permissions thresholds action then
        lineOf (ageRow permissions thresholds action) else [] := by
  have hany : ∀ cells : List Text,
      cells.foldl (fun anyone cell => anyone || decide (cell ≠ nobody)) false =
        cells.any fun cell => decide (cell ≠ nobody) := by
    intro cells
    have general : ∀ start : Bool,
        cells.foldl (fun anyone cell => anyone || decide (cell ≠ nobody)) start =
          (start || cells.any fun cell => decide (cell ≠ nobody)) := by
      induction cells with
      | nil => simp
      | cons cell cells ih =>
        intro start
        rw [List.foldl_cons, ih, List.any_cons, Bool.or_assoc]
    simpa using general false
  have hanyone : ((bands thresholds).map fun years =>
      whoAt permissions action years thresholds).foldl
        (fun anyone cell => anyone || decide (cell ≠ nobody)) false =
          anyoneMay permissions thresholds action := hany _
  simp only [writeAgeAction, hanyone]
  cases anyoneMay permissions thresholds action with
  | false => simp
  | true =>
    simp only [lineOf, ageRow, ageCells, quoted, List.append_assoc, foldl_write,
      List.flatMap_append, List.flatMap_cons, List.flatMap_nil, List.append_nil, utf8_begin,
      utf8_code, utf8_codeEnd, Bool.not_true, Bool.false_eq_true, if_false, if_true]

/-- **The second text is a table.** -/
theorem renderAgeMatrix_eq (permissions : Policy) (thresholds : AgeThresholds) :
    renderAgeMatrix permissions thresholds =
      BarTable.text bar blank newline (ageRows permissions thresholds) := by
  have hhead : utf8 "| Действие | Код | младше " = utf8 "|" ++ (utf8 " " ++ (utf8 "Действие" ++
      (utf8 " |" ++ (utf8 " " ++ (utf8 "Код" ++ (utf8 " |" ++ (utf8 " " ++
        utf8 "младше "))))))) := by
    simp only [← utf8_append]
    rfl
  have hfrom : utf8 " с " = utf8 " " ++ utf8 "с " := by rw [← utf8_append]; rfl
  have hrules : utf8 "\n| --- | --- |" = utf8 "\n" ++ utf8 "| --- | --- |" := by
    rw [← utf8_append]; rfl
  have hwrite : writeAgeAction permissions thresholds = fun out action => out ++
      if anyoneMay permissions thresholds action then
        lineOf (ageRow permissions thresholds action) else [] := by
    funext out action
    exact writeAgeAction_eq permissions thresholds out action
  have hfilter : ∀ actions : List Action, (actions.flatMap fun action =>
      if anyoneMay permissions thresholds action then
        lineOf (ageRow permissions thresholds action) else []) =
      ((actions.filter (anyoneMay permissions thresholds)).map
        (ageRow permissions thresholds)).flatMap lineOf := by
    intro actions
    induction actions with
    | nil => rfl
    | cons action actions ih =>
      rw [List.flatMap_cons, ih, List.filter_cons]
      split <;> simp
  have hyoungest : (bands thresholds).headD 0 + 1 = thresholds.years .slotsAndReviews := by
    show thresholds.years .slotsAndReviews - 1 + 1 = _
    omega
  simp only [renderAgeMatrix, hyoungest, hwrite, List.append_assoc, foldl_write, hfilter, text_eq,
    ageRows]
  simp only [ageHeader, List.append_assoc, lineOf, bands, hhead, hfrom, hrules, utf8_rules,
    utf8_rule, everyAgeThreshold, List.flatMap_cons, List.flatMap_nil, List.map_cons, List.map_nil,
    List.cons_append, List.nil_append, List.append_nil]

end Matrix

end Pdr.Identity
