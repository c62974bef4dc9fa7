import Mathlib
import Pdr.Migrations.Recorded
import Pdr.StoreProgram.Sequence

/-!
# Histories of the directory

Files come, change and go between two calls, and a call may end anywhere. As long as no call
meets a file that comes too late, an emptied directory or a text that writes to the registry,
the registry tells at every moment. A late file is enough to spoil it.

## Main definitions

* `Pdr.Migrations.installation`: calls of the script, one after another.
* `Pdr.Migrations.TellsThroughout`: in every call the registry tells, and the call ends well.

## Main results

* `Pdr.Migrations.registry_tells`: in a history of orderly calls the registry tells at every
  moment.
* `Pdr.Migrations.late_file_comes_last`: a late file is committed after a greater version.
-/

namespace Pdr.Migrations

open Python StoreProgram Program

variable {Rest : Type}

/-! ### Histories -/

section Histories

/-- The calls of the script, one after another, each with the directory as it is then. -/
def installation (tools : Tools) (script : Script Rest) :
    Machine (fun _ : Directory => Nat) Failure (World Rest) :=
  (machine script).whole (apply tools)

/-- A database in which nothing was applied yet. -/
structure IsFresh (w : World Rest) : Prop where
  registry : w.registry = none
  committed : w.committed = []

/-- In a call, the registry tells at every moment, and the call ends well. -/
def IsTold (tools : Tools) (script : Script Rest) (directory : Directory) (w : World Rest) : Prop :=
  (apply tools directory).Upholds (machine script) (Tells tools) (EndsWell tools directory w) w

variable {tools : Tools} {script : Script Rest} {w w' : World Rest}
  {steps : List (Turn (fun _ : Directory => Nat) Failure (World Rest))}

theorem IsFresh.isRecorded (h : IsFresh w) : IsRecorded tools w where
  rows := by rw [World.rows, h.registry, h.committed]; rfl
  read := by simp [h.committed]
  ascending := by simp [h.committed]

/-- In every call of a history the registry tells, and the call ends well. -/
def TellsThroughout (tools : Tools) (script : Script Rest)
    (steps : List (Turn (fun _ : Directory => Nat) Failure (World Rest))) : Prop :=
  ∀ t ∈ steps, IsTold tools script t.entry.op t.before

/-- In a history that begins with a fresh database, the registry tells at every moment of each
call and each call ends well, as long as each call is orderly. -/
theorem registry_tells (hrun : Linked (installation tools script) w steps w') (hfresh : IsFresh w)
    (horderly : ∀ t ∈ steps, IsOrderly tools script t.entry.op t.before) :
    TellsThroughout tools script steps := by
  have hkept : ∀ t ∈ steps, IsRecorded tools t.before → IsRecorded tools t.after :=
    fun t ht hbefore => ((upholds_apply hbefore (horderly t ht)).of_run (hrun.exec_eq ht)).1
  intro t ht
  have hbefore := hrun.holds_before hkept hfresh.isRecorded t ht
  exact (upholds_apply hbefore (horderly t ht)).mono (fun _ h => h.tells) fun _ _ _ h => h

end Histories

/-! ### Three files -/

/-- The text of the first file. -/
def registryText : Str :=
  "create table schema_version (version integer primary key, checksum char(64) not null);".toList

/-- The text of the second file. -/
def secondText : Str := "create table b (id integer);".toList

/-- The text of the third file. -/
def thirdText : Str := "create table c (id integer);".toList

/-- The file that makes the registry. -/
def registryFile : Entry := ⟨"V001__schema_version.sql".toList, false, writeText registryText⟩

/-- The second file. -/
def secondFile : Entry := ⟨"V002__b.sql".toList, false, writeText secondText⟩

/-- The third file. -/
def thirdFile : Entry := ⟨"V003__c.sql".toList, false, writeText thirdText⟩

theorem isChecksum_of_all {digits : Str}
    (h : (digits.length == 64 && digits.all isHexDigit) = true) :
    digits.length = 64 ∧ ∀ c ∈ digits, isHexDigit c = true := by
  simpa using h

/-- The first migration. -/
def registryMigration : Migration where
  path := registryFile
  version := 1
  name := "schema_version".toList
  sql := registryText
  checksum :=
    ⟨"13271ebc1a6781c8088e771cfa696ffd7553197358a0638773a6c5f62a5da8d8".toList,
      isChecksum_of_all (by decide +kernel)⟩

/-- The second migration. -/
def secondMigration : Migration where
  path := secondFile
  version := 2
  name := "b".toList
  sql := secondText
  checksum :=
    ⟨"92da15bc362a908e1aec92c41532c1acd426270ceefa27014e31cdb30d7d637f".toList,
      isChecksum_of_all (by decide +kernel)⟩

/-- The third migration. -/
def thirdMigration : Migration where
  path := thirdFile
  version := 3
  name := "c".toList
  sql := thirdText
  checksum :=
    ⟨"c125d2b1bb7a3cefb66f2959f9965f6899d9e058c2b5e15cbfc6df095f9a48db".toList,
      isChecksum_of_all (by decide +kernel)⟩

/-- The digests of the three files. -/
def threeDigests (bytes : ByteArray) : Checksum :=
  if bytes = writeText registryText then registryMigration.checksum
  else if bytes = writeText secondText then secondMigration.checksum
  else thirdMigration.checksum

/-- The directory with all of them. -/
def threeFiles : Tools where
  decimals := .onlyAscii
  sha256 := threeDigests
  parse _ _ := .ok ()
  unsupported _ _ := []

/-- The first text creates the registry, where there is none; the others leave it alone. -/
def threeScripts : Script Unit := fun _ sql registry =>
  if sql = registryText then
    match registry with
    | none => .closed (some Table.empty)
    | some _ => .failed "relation \"schema_version\" already exists".toList
  else .closed registry

/-- Nothing is applied, and `psql` always does its work. -/
def blank : World Unit := ⟨none, [], List.replicate 12 (.answers ()), []⟩

/-- The histories of these files. -/
def threeHistory (directories : List Directory) :
    List (Turn (fun _ : Directory => Nat) Failure (World Unit)) × World Unit :=
  turns (installation threeFiles threeScripts) directories blank

theorem isFresh_blank : IsFresh blank := ⟨rfl, rfl⟩

section Load

variable {loaded : List Migration}

theorem readMigration_threeFiles {name text stem : Str} {version : Nat} (h : '\r' ∉ text) :
    readMigration threeFiles ⟨name, false, writeText text⟩ version stem =
      .ok ⟨⟨name, false, writeText text⟩, version, stem, text, threeDigests (writeText text)⟩ := by
  rw [readMigration, readText_writeText h]
  rfl

theorem threeDigests_registryText :
    threeDigests (writeText registryText) = registryMigration.checksum := if_pos rfl

theorem threeDigests_secondText :
    threeDigests (writeText secondText) = secondMigration.checksum := by
  have hother : secondText ≠ registryText := by
    have hsecond : secondText = _ := String.toList_ofList
    have hregistry : registryText = _ := String.toList_ofList
    rw [hsecond, hregistry]
    decide
  rw [threeDigests, if_neg (mt writeText_inj.1 hother), if_pos rfl]

theorem threeDigests_thirdText : threeDigests (writeText thirdText) = thirdMigration.checksum := by
  have hthird : thirdText = _ := String.toList_ofList
  have hfirst : thirdText ≠ registryText := by
    have hregistry : registryText = _ := String.toList_ofList
    rw [hthird, hregistry]
    decide
  have hsecond : thirdText ≠ secondText := by
    have hsecond : secondText = _ := String.toList_ofList
    rw [hthird, hsecond]
    decide
  rw [threeDigests, if_neg (mt writeText_inj.1 hfirst), if_neg (mt writeText_inj.1 hsecond)]

theorem loadEntry_registryFile (hnew : ∀ other ∈ loaded, other.version ≠ 1) :
    loadEntry threeFiles loaded registryFile = .ok (loaded ++ [registryMigration]) := by
  have hfile : registryFile.name = _ := String.toList_ofList
  have hdigits : "001".toList = _ := String.toList_ofList
  have hstem : "schema_version".toList = _ := String.toList_ofList
  have htext : registryText = _ := String.toList_ofList
  have hname : matchFileName .onlyAscii registryFile.name =
      some ("001".toList, "schema_version".toList) := by
    rw [hfile, hdigits, hstem]
    decide +kernel
  have hnumber : int .onlyAscii "001".toList = some 1 := by
    rw [hdigits]
    decide +kernel
  have hreturn : '\r' ∉ registryText := by
    rw [htext]
    decide
  refine loadEntry_of_readMigration (by rw [isSkipped, hfile]; decide +kernel) hname hnumber hnew ?_
  exact (readMigration_threeFiles hreturn).trans (by rw [threeDigests_registryText]; rfl)

theorem loadEntry_secondFile (hnew : ∀ other ∈ loaded, other.version ≠ 2) :
    loadEntry threeFiles loaded secondFile = .ok (loaded ++ [secondMigration]) := by
  have hfile : secondFile.name = _ := String.toList_ofList
  have hdigits : "002".toList = _ := String.toList_ofList
  have hstem : "b".toList = _ := String.toList_ofList
  have htext : secondText = _ := String.toList_ofList
  have hname : matchFileName .onlyAscii secondFile.name = some ("002".toList, "b".toList) := by
    rw [hfile, hdigits, hstem]
    decide +kernel
  have hnumber : int .onlyAscii "002".toList = some 2 := by
    rw [hdigits]
    decide +kernel
  have hreturn : '\r' ∉ secondText := by
    rw [htext]
    decide
  refine loadEntry_of_readMigration (by rw [isSkipped, hfile]; decide +kernel) hname hnumber hnew ?_
  exact (readMigration_threeFiles hreturn).trans (by rw [threeDigests_secondText]; rfl)

theorem loadEntry_thirdFile (hnew : ∀ other ∈ loaded, other.version ≠ 3) :
    loadEntry threeFiles loaded thirdFile = .ok (loaded ++ [thirdMigration]) := by
  have hfile : thirdFile.name = _ := String.toList_ofList
  have hdigits : "003".toList = _ := String.toList_ofList
  have hstem : "c".toList = _ := String.toList_ofList
  have htext : thirdText = _ := String.toList_ofList
  have hname : matchFileName .onlyAscii thirdFile.name = some ("003".toList, "c".toList) := by
    rw [hfile, hdigits, hstem]
    decide +kernel
  have hnumber : int .onlyAscii "003".toList = some 3 := by
    rw [hdigits]
    decide +kernel
  have hreturn : '\r' ∉ thirdText := by
    rw [htext]
    decide
  refine loadEntry_of_readMigration (by rw [isSkipped, hfile]; decide +kernel) hname hnumber hnew ?_
  exact (readMigration_threeFiles hreturn).trans (by rw [threeDigests_thirdText]; rfl)

theorem load_of_foldlM {tools : Tools} {entries : List Entry} {migrations : List Migration}
    (hentries : entries.Pairwise fun a b => a.name ≤ b.name)
    (hloop : entries.foldlM (loadEntry tools) [] = .ok migrations)
    (hmigrations : migrations.Pairwise fun a b => a.version ≤ b.version) :
    load tools (some entries) = .ok migrations := by
  simp only [load, hentries.insertionSort_eq, hloop]
  exact congrArg Except.ok hmigrations.insertionSort_eq

theorem foldlM_cons_ok {α β : Type} {step : β → α → Except Failure β} {first : α} {rest : List α}
    {value value' : β} (h : step value first = .ok value') :
    (first :: rest).foldlM step value = rest.foldlM step value' := by
  rw [List.foldlM_cons, h]
  rfl

theorem files_ascend :
    [registryFile, secondFile, thirdFile].Pairwise fun a b => a.name ≤ b.name := by
  have hfirst : registryFile.name = _ := String.toList_ofList
  have hsecond : secondFile.name = _ := String.toList_ofList
  have hthird : thirdFile.name = _ := String.toList_ofList
  have hnames : [registryFile.name, secondFile.name, thirdFile.name].Pairwise (· ≤ ·) := by
    rw [hfirst, hsecond, hthird]
    decide +kernel
  exact List.pairwise_map.1 hnames

theorem versions_ascend :
    [registryMigration, secondMigration, thirdMigration].Pairwise
      fun a b => a.version ≤ b.version :=
  List.pairwise_map.1 (show [1, 2, 3].Pairwise (· ≤ ·) by decide)

theorem load_registryFile : load threeFiles (some [registryFile]) = .ok [registryMigration] :=
  load_of_foldlM (List.pairwise_singleton _ _)
    ((foldlM_cons_ok (loadEntry_registryFile (by simp))).trans rfl) (List.pairwise_singleton _ _)

theorem load_first_two : load threeFiles (some [registryFile, secondFile]) =
    .ok [registryMigration, secondMigration] := by
  have hpart {α : Type} (a b c : α) : List.Sublist [a, b] [a, b, c] :=
    ((List.nil_sublist [c]).cons_cons b).cons_cons a
  refine load_of_foldlM (files_ascend.sublist (hpart _ _ _)) ?_
    (versions_ascend.sublist (hpart _ _ _))
  calc [registryFile, secondFile].foldlM (loadEntry threeFiles) []
      = [secondFile].foldlM (loadEntry threeFiles) [registryMigration] :=
        foldlM_cons_ok (loadEntry_registryFile (by simp))
    _ = .ok [registryMigration, secondMigration] :=
        foldlM_cons_ok (loadEntry_secondFile (by simp [registryMigration]))

theorem load_without_second : load threeFiles (some [registryFile, thirdFile]) =
    .ok [registryMigration, thirdMigration] := by
  have hpart {α : Type} (a b c : α) : List.Sublist [a, c] [a, b, c] :=
    ((List.Sublist.refl [c]).cons b).cons_cons a
  refine load_of_foldlM (files_ascend.sublist (hpart _ _ _)) ?_
    (versions_ascend.sublist (hpart _ _ _))
  calc [registryFile, thirdFile].foldlM (loadEntry threeFiles) []
      = [thirdFile].foldlM (loadEntry threeFiles) [registryMigration] :=
        foldlM_cons_ok (loadEntry_registryFile (by simp))
    _ = .ok [registryMigration, thirdMigration] :=
        foldlM_cons_ok (loadEntry_thirdFile (by simp [registryMigration]))

theorem load_all_three : load threeFiles (some [registryFile, secondFile, thirdFile]) =
    .ok [registryMigration, secondMigration, thirdMigration] := by
  refine load_of_foldlM files_ascend ?_ versions_ascend
  calc [registryFile, secondFile, thirdFile].foldlM (loadEntry threeFiles) []
      = [secondFile, thirdFile].foldlM (loadEntry threeFiles) [registryMigration] :=
        foldlM_cons_ok (loadEntry_registryFile (by simp))
    _ = [thirdFile].foldlM (loadEntry threeFiles) [registryMigration, secondMigration] :=
        foldlM_cons_ok (loadEntry_secondFile (by simp [registryMigration]))
    _ = .ok [registryMigration, secondMigration, thirdMigration] :=
        foldlM_cons_ok (loadEntry_thirdFile (by simp [registryMigration, secondMigration]))

/-- The call with migrations that were read. -/
theorem exec_installation {directory : Directory} {migrations : List Migration}
    (hload : load threeFiles directory = .ok migrations) (w : World Unit) :
    (installation threeFiles threeScripts).exec directory w =
      ((commandApply .onlyAscii migrations).tryCatch onDatabaseError).run
        (machine threeScripts) w := by
  have hsupported : firstUnsupported threeFiles migrations = none := by
    refine List.find?_eq_none.2 fun problems hproblems => ?_
    obtain ⟨migration, -, rfl⟩ := List.mem_map.1 hproblems
    exact fun hne => of_decide_eq_true hne rfl
  change (apply threeFiles directory).run (machine threeScripts) w = _
  rw [apply, hload]
  simp only [hsupported]
  rfl

/-- The world after the calls with these migrations. -/
def after : List (List Migration) → World Unit
  | [] => blank
  | migrations :: earlier =>
    (((commandApply .onlyAscii migrations).tryCatch onDatabaseError).run
      (machine threeScripts) (after earlier)).2

/-- Two calls, one after the other. -/
theorem threeHistory_two {first second : Directory} {early late : List Migration}
    (hfirst : load threeFiles first = .ok early) (hsecond : load threeFiles second = .ok late) :
    ∃ t u, (threeHistory [first, second]).1 = [t, u] ∧ t.entry.op = first ∧ t.before = blank ∧
      u.entry.op = second ∧ u.before = after [early] ∧
      (apply threeFiles second).run (machine threeScripts) u.before =
        ((commandApply .onlyAscii late).tryCatch onDatabaseError).run (machine threeScripts)
          (after [early]) := by
  have hbefore : (turn (installation threeFiles threeScripts) first blank).after = after [early] :=
    congrArg Prod.snd (exec_installation hfirst blank)
  refine ⟨_, _, rfl, rfl, rfl, rfl, hbefore, ?_⟩
  exact (congrArg _ hbefore).trans (exec_installation hsecond _)

/-- If two calls tell, the second ended well, and the registry tells in the end. -/
theorem of_two_calls {first second : Directory} {early late : List Migration}
    (hfirst : load threeFiles first = .ok early) (hsecond : load threeFiles second = .ok late)
    (h : TellsThroughout threeFiles threeScripts (threeHistory [first, second]).1) :
    Tells threeFiles (after [late, early]) ∧
      EndsWell threeFiles second (after [early])
        (((commandApply .onlyAscii late).tryCatch onDatabaseError).run (machine threeScripts)
          (after [early])).1 (after [late, early]) := by
  obtain ⟨t, u, hsteps, -, -, hop, hbefore, hrun⟩ := threeHistory_two hfirst hsecond
  have hlast := h u (by rw [hsteps]; simp)
  rw [hop] at hlast
  have hreached := hlast.of_run hrun
  rwa [hbefore] at hreached

end Load

/-- **A file that comes late is committed last.** `V003` is applied, then `V002` appears and is
applied after it. And where all files are gone, the call finds nothing to do and returns zero,
whatever is in the registry. -/
theorem late_file_comes_last :
    (Linked (installation threeFiles threeScripts) blank
        (threeHistory [some [registryFile, thirdFile],
          some [registryFile, secondFile, thirdFile]]).1
        (threeHistory [some [registryFile, thirdFile],
          some [registryFile, secondFile, thirdFile]]).2 ∧
      IsFresh blank ∧
      ¬ TellsThroughout threeFiles threeScripts
        (threeHistory [some [registryFile, thirdFile],
          some [registryFile, secondFile, thirdFile]]).1) ∧
    Linked (installation threeFiles threeScripts) blank
        (threeHistory [some [registryFile], some []]).1
        (threeHistory [some [registryFile], some []]).2 ∧
      ¬ TellsThroughout threeFiles threeScripts
        (threeHistory [some [registryFile], some []]).1 := by
  refine ⟨⟨turns_linked _ _ _, isFresh_blank, fun h => ?_⟩, turns_linked _ _ _, fun h => ?_⟩
  · have hversions : (after [[registryMigration, secondMigration, thirdMigration],
        [registryMigration, thirdMigration]]).committed.map (·.version) = [1, 3, 2] := by
      decide +kernel
    have hascending := List.pairwise_map.2
      (of_two_calls load_without_second load_all_three h).1.ascending
    rw [hversions] at hascending
    exact absurd hascending (by decide)
  · have hnone : load threeFiles (some []) = .ok [] := rfl
    obtain ⟨migrations, hload, hrows⟩ := (of_two_calls load_registryFile hnone h).2.equals rfl
    obtain rfl : [] = migrations := Except.ok.inj hload
    have hversions : (after [[], [registryMigration]]).rows.map (·.version) = [1] := by
      decide +kernel
    rw [hrows] at hversions
    cases hversions

theorem leavesRegistry_threeScripts (migration : Migration) :
    migration.LeavesRegistry threeScripts := by
  intro rest registry
  unfold threeScripts
  split
  · cases registry with
    | none => exact Or.inr ⟨_, rfl, rfl⟩
    | some table => exact Or.inl ⟨_, rfl⟩
  · exact Or.inr ⟨registry, rfl, rfl⟩

theorem registry_tells_in_order : TellsThroughout threeFiles threeScripts
    (threeHistory [some [registryFile], some [registryFile, secondFile]]).1 := by
  refine registry_tells (turns_linked _ _ blank) isFresh_blank fun t ht => ?_
  obtain ⟨first, second, hsteps, hop₁, hbefore₁, hop₂, hbefore₂, -⟩ :=
    threeHistory_two load_registryFile load_first_two
  rw [hsteps] at ht
  rcases List.mem_cons.1 ht with rfl | ht
  · rw [hop₁, hbefore₁]
    refine fun migrations _ _ => ⟨fun _ => rfl, fun _ migration _ => ⟨fun row hrow => ?_,
      leavesRegistry_threeScripts migration⟩⟩
    exact absurd hrow List.not_mem_nil
  · rw [List.mem_singleton.1 ht, hop₂, hbefore₂]
    have hrows : (after [[registryMigration]]).rows.map (·.version) = [1] := by decide +kernel
    intro migrations hload _
    obtain rfl := Except.ok.inj (load_first_two.symm.trans hload)
    refine ⟨fun hnil => absurd hnil (List.cons_ne_nil _ _), fun _ migration hpending =>
      ⟨fun row hrow => ?_, leavesRegistry_threeScripts migration⟩⟩
    obtain ⟨hmem, hother⟩ := mem_pendingOf.1 hpending
    have hversion : row.version ∈ [1] := hrows ▸ List.mem_map_of_mem hrow
    have hone : row.version = 1 := List.mem_singleton.1 hversion
    have hne := hother row hrow
    rcases List.mem_cons.1 hmem with rfl | hmem
    · exact absurd hone hne
    · rw [hone, List.mem_singleton.1 hmem]
      decide

end Pdr.Migrations
