import Pdr.ProductEvents.Lines

/-!
# What is written and what is read

The parser was made for more than what the renderer writes, and a name or a kind that means
something to it comes back as something else, or not at all: a type that has another shape than
the key of a snapshot, a dash and a space where a list would begin, quotation marks, brackets,
a mark of folded text. Of everything else what is written is read.

## Main definitions

* `Pdr.ProductEvents.IsClean`: what is so of each snapshot that was read.
* `Pdr.ProductEvents.IsWritable`: the entries that can be read once they are written.

## Main results

* `Pdr.ProductEvents.parsePublished_render`: what a snapshot that was written is read as.
* `Pdr.ProductEvents.parsePublished_render_error`: a snapshot that cannot be read once it is
  written.
-/

namespace Pdr.ProductEvents

open Python

/-- What a kind is once it was written and read. -/
def reread (unicode : Unicode) (kind : Str) : Str := (rereadValue kind).str unicode

/-- An entry that can be read once it is written: the type is shaped, the version is none below
zero, and the first field does not look like an item of a list. -/
structure IsWritable (entry : (Str × Int) × Fields) : Prop where
  shaped : isShaped entry.1.1 = true
  version : 0 ≤ entry.1.2
  first : ∀ field, (sortedFields entry.2).head? = some field → startsItem field.1 = false

/-- What is so of each entry that was read, be it from the registry or from a snapshot. -/
structure IsCleanEntry (entry : (Str × Int) × Fields) : Prop where
  name : IsFieldName entry.1.1
  version : ∀ n : Nat, entry.1.2 = n → (str n).length ≤ maxStrDigits
  nonempty : entry.2 ≠ []
  nodup : entry.2.keys.Nodup
  fields : ∀ field ∈ entry.2, IsFieldName field.1 ∧ OnOneLine field.2

/-- A snapshot in which each key comes once and each entry is clean. -/
structure IsClean (snapshot : Snapshot) : Prop where
  nodup : snapshot.keys.Nodup
  entries : ∀ entry ∈ snapshot, IsCleanEntry entry

/-! ### The text of a snapshot -/

/-- The lines of a snapshot. -/
def snapshotLines (snapshot : Snapshot) : List Str :=
  headLines ++ (sortedEntries snapshot).flatMap entryLines

theorem renderPublished_eq (snapshot : Snapshot) :
    renderPublished snapshot = (snapshotLines snapshot).flatMap (· ++ ['\n']) := by
  rw [renderPublished, snapshotLines, List.flatMap_append, List.flatMap_assoc,
    funext renderEntry_eq, head]

variable {interpreter : Interpreter} {total : Nat}

/-- Blank lines are passed over at the top level as in a block. -/
theorem Shallow.parsePublishedFrom_collect {indent : Nat} {lines : List Str}
    {published : Snapshot} (h : Shallow indent lines) :
    parsePublishedFrom interpreter total (collect indent lines).2 published =
      parsePublishedFrom interpreter total lines published := by
  induction h with
  | nil => rfl
  | blank later ih =>
    rw [collect, if_pos isPassedOver_nil, ih]
    conv_rhs => rw [parsePublishedFrom, if_pos isPassedOver_nil]
  | line read low => rw [collect, if_neg (Bool.eq_false_iff.1 read), if_pos low]

theorem perm_sortedFields (fields : Fields) : (sortedFields fields).Perm fields :=
  List.perm_insertionSort _ fields

/-- What the fields of an entry are once they were written and read. -/
def rereadFields (unicode : Unicode) (fields : Fields) : Fields :=
  (sortedFields fields).map fun field => (field.1, reread unicode field.2)

theorem indentOf_keyLine {key : Str × Int} (h : IsFieldName key.1) :
    indentOf (keyLine key) = 0 := by
  obtain ⟨c, rest, hkey, hspace, -⟩ := head?_keyText h
  have hline : lstrip (keyLine key) = keyLine key := by
    rw [keyLine, hkey]
    exact lstrip_of_head hspace
  rw [indentOf, hline, Nat.sub_self]

theorem shallow_entryLines {entries : List ((Str × Int) × Fields)}
    (h : ∀ entry ∈ entries, IsFieldName entry.1.1) : Shallow 0 (entries.flatMap entryLines) := by
  cases entries with
  | nil => exact .nil
  | cons entry entries =>
    have hname := h entry List.mem_cons_self
    exact .blank (.line (isPassedOver_keyLine hname) (indentOf_keyLine hname).le)

section Entry

variable {entry : (Str × Int) × Fields} {rest : List Str} {published : Snapshot}

theorem any_head?_keyLine {key : Str × Int} (h : IsFieldName key.1) :
    (keyLine key).head?.any isSpace = false := by
  obtain ⟨c, rest, hkey, hspace, -⟩ := head?_keyText h
  rw [keyLine, hkey]
  exact hspace

theorem strip_partition_keyLine {key : Str × Int} (h : IsFieldName key.1) :
    strip (partition ':' (keyLine key)).1 = keyText key := by
  rw [partition_keyLine h, strip_keyText h]

/-- The parser at the line of a key that is matched, with a dictionary below it. -/
theorem parsePublishedFrom_keyLine {key : Str × Int} {digits : Str} {after : List Str}
    {block : Dict Str Value} (hname : IsFieldName key.1)
    (hmatch : matchPublishedKey interpreter.unicode.toDecimals (keyText key) = some (key.1, digits))
    (hdigits : int interpreter.unicode.toDecimals digits = some key.2)
    (hblock : parseTopBlock interpreter total after = .ok (.dict block, rest)) :
    parsePublishedFrom interpreter total (keyLine key :: after) published =
      parsePublishedFrom interpreter total rest
        (published.set key (fieldsOf interpreter.unicode block)) := by
  rw [parsePublishedFrom, isPassedOver_keyLine hname, any_head?_keyLine hname,
    strip_partition_keyLine hname]
  simp only [Bool.false_eq_true, if_false, hmatch]
  split
  · rename_i read lines hread
    rw [hblock] at hread
    cases hread
    rw [hdigits]
  · rename_i read hother hread
    rw [hblock] at hread
    cases hread
    exact absurd rfl (hother block rest)
  · rename_i failure hread
    rw [hblock] at hread
    cases hread

/-- The parser at the line of a key that is not matched, or with no dictionary below it. -/
theorem parsePublishedFrom_keyLine_error {key : Str × Int} {after : List Str}
    (hname : IsFieldName key.1)
    (h : matchPublishedKey interpreter.unicode.toDecimals (keyText key) = none ∨
      ∀ block rest, parseTopBlock interpreter total after ≠ .ok (.dict block, rest)) :
    ∃ failure, parsePublishedFrom interpreter total (keyLine key :: after) published =
      .error failure := by
  rw [parsePublishedFrom, isPassedOver_keyLine hname, any_head?_keyLine hname,
    strip_partition_keyLine hname]
  simp only [Bool.false_eq_true, if_false]
  split
  · exact ⟨_, rfl⟩
  · rename_i name digits hmatch
    have hnone := h.resolve_left (by rw [hmatch]; exact Option.some_ne_none _)
    split
    · rename_i block lines hread
      exact absurd hread (hnone block lines)
    · exact ⟨_, rfl⟩
    · exact ⟨_, rfl⟩

theorem parsePublishedFrom_entryLines :
    parsePublishedFrom interpreter total (entryLines entry ++ rest) published =
      parsePublishedFrom interpreter total
        (keyLine entry.1 :: ((sortedFields entry.2).map fieldLine ++ rest)) published := by
  rw [entryLines, List.cons_append, parsePublishedFrom, if_pos isPassedOver_nil, List.cons_append]

theorem names_of_clean (hclean : IsCleanEntry entry) :
    (∀ field ∈ sortedFields entry.2, IsFieldName field.1) ∧
      (Dict.keys (sortedFields entry.2)).Nodup ∧
        ∃ first, (sortedFields entry.2).head? = some first := by
  have hperm := perm_sortedFields entry.2
  refine ⟨fun field hfield => (hclean.fields field (hperm.mem_iff.1 hfield)).1,
    (hperm.map _).nodup_iff.2 hclean.nodup, ?_⟩
  cases hsorted : sortedFields entry.2 with
  | nil => exact absurd (hsorted ▸ hperm).symm.eq_nil hclean.nonempty
  | cons first fields => exact ⟨first, rfl⟩

/-- An entry that can be read is read, with the kinds as they are reread. -/
theorem parsePublishedFrom_entry (hclean : IsCleanEntry entry) (hwritable : IsWritable entry)
    (hrest : Shallow 0 rest) :
    parsePublishedFrom interpreter total (entryLines entry ++ rest) published =
      parsePublishedFrom interpreter total rest
        (published.set entry.1 (rereadFields interpreter.unicode entry.2)) := by
  obtain ⟨⟨name, version⟩, fields⟩ := entry
  obtain ⟨hnames, hnodup, first, hfirst⟩ := names_of_clean hclean
  obtain ⟨n, rfl⟩ : ∃ n : Nat, version = n := Int.eq_ofNat_of_zero_le hwritable.version
  have hmatch : matchPublishedKey interpreter.unicode.toDecimals (keyText (name, (n : Int))) =
      some (name, str n) := by
    rw [matchPublishedKey_keyText, if_pos ⟨hwritable.shaped, hwritable.version⟩]
  have hblock : parseTopBlock interpreter total ((sortedFields fields).map fieldLine ++ rest) = _ :=
    parseTopBlock_fieldLines hnames hnodup hrest hfirst (hwritable.first first hfirst)
  have hfields : fieldsOf interpreter.unicode
      ((sortedFields fields).map fun field => (field.1, rereadValue field.2)) =
        rereadFields interpreter.unicode fields := by
    rw [fieldsOf, List.map_map, rereadFields]
    rfl
  rw [parsePublishedFrom_entryLines,
    parsePublishedFrom_keyLine hclean.name hmatch (int_str (hclean.version n rfl)) hblock,
    hrest.parsePublishedFrom_collect, hfields]

/-- An entry that cannot be read is refused. -/
theorem parsePublishedFrom_entry_error (hclean : IsCleanEntry entry)
    (hwritable : ¬ IsWritable entry) (hrest : Shallow 0 rest) :
    ∃ failure, parsePublishedFrom interpreter total (entryLines entry ++ rest) published =
      .error failure := by
  obtain ⟨hnames, -, first, hfirst⟩ := names_of_clean hclean
  rw [parsePublishedFrom_entryLines]
  refine parsePublishedFrom_keyLine_error hclean.name ?_
  by_cases hkey : isShaped entry.1.1 = true ∧ 0 ≤ entry.1.2
  · cases hitem : startsItem first.1 with
    | true => exact Or.inr fun block after => parseTopBlock_of_item hnames hrest hfirst hitem
    | false =>
      refine absurd ⟨hkey.1, hkey.2, fun field hfield => ?_⟩ hwritable
      rw [hfirst] at hfield
      rwa [← Option.some.inj hfield]
  · exact Or.inl (by rw [matchPublishedKey_keyText, if_neg hkey])

end Entry

/-! ### The snapshot as a whole -/

section Snapshots

variable {entries : List ((Str × Int) × Fields)} {published snapshot : Snapshot}

/-- What a snapshot is once it was written and read. -/
def rereadEntries (unicode : Unicode) (entries : List ((Str × Int) × Fields)) : Snapshot :=
  entries.map fun entry => (entry.1, rereadFields unicode entry.2)

theorem parsePublishedFrom_entries (hclean : ∀ entry ∈ entries, IsCleanEntry entry)
    (hwritable : ∀ entry ∈ entries, IsWritable entry)
    (hnodup : (published.keys ++ Dict.keys entries).Nodup) :
    parsePublishedFrom interpreter total (entries.flatMap entryLines) published =
      .ok (published ++ rereadEntries interpreter.unicode entries) := by
  induction entries generalizing published with
  | nil => rw [List.flatMap_nil, parsePublishedFrom, rereadEntries, List.map_nil, List.append_nil]
  | cons entry entries ih =>
    obtain ⟨hfirst, hclean⟩ := List.forall_mem_cons.1 hclean
    obtain ⟨hwritten, hwritable⟩ := List.forall_mem_cons.1 hwritable
    have hrest := shallow_entryLines fun other hother => (hclean other hother).name
    have hkeys : published.keys ++ Dict.keys (entry :: entries) =
        (published.keys ++ [entry.1]) ++ Dict.keys entries := by simp [Dict.keys]
    have hset : Dict.keys (published ++ [(entry.1, rereadFields interpreter.unicode entry.2)]) =
        published.keys ++ [entry.1] := by simp [Dict.keys]
    rw [hkeys] at hnodup
    have hnew : entry.1 ∉ published.keys := by
      intro hmem
      rw [List.nodup_append, List.nodup_append] at hnodup
      exact hnodup.1.2.2 _ hmem _ (List.mem_singleton_self _) rfl
    rw [List.flatMap_cons, parsePublishedFrom_entry hfirst hwritten hrest,
      Dict.set_of_not_mem hnew, ih hclean hwritable (by rwa [hset])]
    simp [rereadEntries]

theorem parsePublishedFrom_entries_error (hclean : ∀ entry ∈ entries, IsCleanEntry entry)
    (hwritable : ∃ entry ∈ entries, ¬ IsWritable entry) :
    ∃ failure, parsePublishedFrom interpreter total (entries.flatMap entryLines) published =
      .error failure := by
  induction entries generalizing published with
  | nil =>
    obtain ⟨entry, hentry, -⟩ := hwritable
    cases hentry
  | cons entry entries ih =>
    obtain ⟨hfirst, hclean⟩ := List.forall_mem_cons.1 hclean
    have hrest := shallow_entryLines fun other hother => (hclean other hother).name
    rw [List.flatMap_cons]
    by_cases hwritten : IsWritable entry
    · rw [parsePublishedFrom_entry hfirst hwritten hrest]
      refine ih hclean ?_
      obtain ⟨other, hother, hnot⟩ := hwritable
      rcases List.mem_cons.1 hother with rfl | hother
      · exact absurd hwritten hnot
      · exact ⟨other, hother, hnot⟩
    · exact parsePublishedFrom_entry_error hfirst hwritten hrest

theorem holds_toList (P : Str → Prop) {s : Str} (h : P s) : P (String.ofList s).toList := by
  rwa [String.toList_ofList]

set_option maxRecDepth 2000 in
theorem headLines_spec : ∀ line ∈ headLines, isPassedOver line = true ∧ OnOneLine line := by
  simp only [headLines, List.forall_mem_cons]
  refine ⟨?_, ?_, ?_, ?_, ?_, ?_, ?_, ?_, ?_, ?_, nofun⟩ <;>
    exact holds_toList (fun line => isPassedOver line = true ∧ OnOneLine line)
      (by decide +kernel)

theorem parsePublishedFrom_headLines {lines : List Str} :
    parsePublishedFrom interpreter total (headLines ++ lines) published =
      parsePublishedFrom interpreter total lines published := by
  have hcomments : ∀ line ∈ headLines, isPassedOver line = true :=
    fun line hline => (headLines_spec line hline).1
  generalize headLines = comments at hcomments ⊢
  induction comments with
  | nil => rfl
  | cons line comments ih =>
    obtain ⟨hline, hcomments⟩ := List.forall_mem_cons.1 hcomments
    rw [List.cons_append, parsePublishedFrom, if_pos hline, ih hcomments]

theorem perm_sortedEntries (snapshot : Snapshot) : (sortedEntries snapshot).Perm snapshot :=
  List.perm_insertionSort _ snapshot

theorem onOneLine_snapshotLines (h : IsClean snapshot) :
    ∀ line ∈ snapshotLines snapshot, OnOneLine line := by
  intro line hline
  rcases List.mem_append.1 hline with hline | hline
  · exact (headLines_spec line hline).2
  · obtain ⟨entry, hentry, hline⟩ := List.mem_flatMap.1 hline
    have hclean := h.entries entry ((perm_sortedEntries snapshot).mem_iff.1 hentry)
    rcases List.mem_cons.1 hline with rfl | hline
    · exact onOneLine_nil
    rcases List.mem_cons.1 hline with rfl | hline
    · exact onOneLine_keyLine hclean.name
    · obtain ⟨field, hfield, rfl⟩ := List.mem_map.1 hline
      have hfield := hclean.fields field ((perm_sortedFields entry.2).mem_iff.1 hfield)
      simp only [fieldLine, List.cons_append, onOneLine_cons, onOneLine_append]
      exact ⟨by decide, by decide, hfield.1.oneLine, by decide, by decide, hfield.2⟩

theorem readText_render (h : IsClean snapshot) :
    readText (writeText (renderPublished snapshot)) = some (renderPublished snapshot) := by
  refine readText_writeText fun hmem => ?_
  rw [renderPublished_eq, List.mem_flatMap] at hmem
  obtain ⟨line, hline, hmem⟩ := hmem
  rcases List.mem_append.1 hmem with hmem | hmem
  · exact absurd (onOneLine_snapshotLines h line hline _ hmem) (by decide)
  · exact absurd hmem (by decide)

variable (interpreter) in
theorem parsePublished_renderPublished (h : IsClean snapshot) :
    ∃ total, parsePublished interpreter (renderPublished snapshot) =
      parsePublishedFrom interpreter total ((sortedEntries snapshot).flatMap entryLines) [] := by
  have hlines : splitlines (renderPublished snapshot) = snapshotLines snapshot := by
    rw [renderPublished_eq, splitlines_flatMap (onOneLine_snapshotLines h)]
  rw [parsePublished, hlines, snapshotLines]
  exact ⟨_, parsePublishedFrom_headLines⟩

/-- What a snapshot that was written is read as. -/
theorem parsePublished_render (h : IsClean snapshot)
    (hwritable : ∀ entry ∈ snapshot, IsWritable entry) :
    parsePublished interpreter (renderPublished snapshot) =
      .ok (rereadEntries interpreter.unicode (sortedEntries snapshot)) := by
  obtain ⟨total, hparse⟩ := parsePublished_renderPublished interpreter h
  have hperm := perm_sortedEntries snapshot
  rw [hparse, parsePublishedFrom_entries]
  · rfl
  · exact fun entry hentry => h.entries entry (hperm.mem_iff.1 hentry)
  · exact fun entry hentry => hwritable entry (hperm.mem_iff.1 hentry)
  · exact (hperm.map _).nodup_iff.2 h.nodup

/-- A snapshot that cannot be read once it is written. -/
theorem parsePublished_render_error (h : IsClean snapshot)
    (hwritable : ∃ entry ∈ snapshot, ¬ IsWritable entry) :
    ∃ failure, parsePublished interpreter (renderPublished snapshot) = .error failure := by
  obtain ⟨total, hparse⟩ := parsePublished_renderPublished interpreter h
  have hperm := perm_sortedEntries snapshot
  rw [hparse]
  refine parsePublishedFrom_entries_error
    (fun entry hentry => h.entries entry (hperm.mem_iff.1 hentry)) ?_
  obtain ⟨entry, hentry, hnot⟩ := hwritable
  exact ⟨entry, hperm.mem_iff.2 hentry, hnot⟩

end Snapshots

end Pdr.ProductEvents
