import Pdr.ProductEvents.Clean
import Pdr.StoreProgram.Sequence

/-!
# What was published stays

An update that is refused leaves the file as it was. One that succeeds writes what the next one
will read, if and only if each entry can be read and each kind is read as it was written. In a
history of such updates nothing that was published is lost, and no update stands in the way of
the next.

## Main definitions

* `Pdr.ProductEvents.KeepsPublished`: what an update promises about the file.
* `Pdr.ProductEvents.IsFaithful`: the entries that are read as they were written.
* `Pdr.ProductEvents.snapshotFile`: the file under updates.

## Main results

* `Pdr.ProductEvents.published_is_kept`: when the promise is kept, and what follows for runs.
* `Pdr.ProductEvents.capital_letter_is_lost`: a type with a capital letter is written and never
  read again.
-/

namespace Pdr.ProductEvents

open Python StoreProgram

/-! ### Snapshots as dictionaries -/

/-- The same kind for each field. -/
def SameFields (a b : Fields) : Prop := ∀ field, a.get? field = b.get? field

/-- The same fields for each key. -/
def SameSnapshot (a b : Snapshot) : Prop := ∀ key, Option.Rel SameFields (a.get? key) (b.get? key)

/-- Every field of every key is still there, and of the same kind. -/
def Extends (old new : Snapshot) : Prop :=
  ∀ key fields, old.get? key = some fields → ∃ fields', new.get? key = some fields' ∧
    ∀ field kind, fields.get? field = some kind → fields'.get? field = some kind

namespace Extends

theorem refl (snapshot : Snapshot) : Extends snapshot snapshot := fun _ fields h =>
  ⟨fields, h, fun _ _ hfield => hfield⟩

theorem trans {a b c : Snapshot} (hab : Extends a b) (hbc : Extends b c) : Extends a c := by
  intro key fields h
  obtain ⟨between, hbetween, hfirst⟩ := hab key fields h
  obtain ⟨last, hlast, hsecond⟩ := hbc key between hbetween
  exact ⟨last, hlast, fun field kind hfield => hsecond field kind (hfirst field kind hfield)⟩

theorem of_same {a b c : Snapshot} (hab : Extends a b) (hsame : SameSnapshot c b) :
    Extends a c := by
  intro key fields h
  obtain ⟨between, hbetween, hfirst⟩ := hab key fields h
  have hrel := hsame key
  rw [hbetween] at hrel
  cases hc : c.get? key with
  | none => rw [hc] at hrel; cases hrel
  | some last =>
    rw [hc] at hrel
    cases hrel with
    | some hfields =>
      exact ⟨last, rfl, fun field kind hfield => by rw [hfields, hfirst field kind hfield]⟩

end Extends

/-! ### An update -/

section Update

variable (interpreter : Interpreter)

/-- The entries of a registry that is accepted. -/
def readRegistry (registry : Option ByteArray) : Option Snapshot :=
  (registry.bind readText).bind fun text =>
    (parseEvents interpreter text).toOption.map (currentSnapshot interpreter)

/-- The snapshot of a file that is accepted; no file is an empty snapshot. -/
def readPublished : Option ByteArray → Option Snapshot
  | none => some []
  | some bytes => (readText bytes).bind fun text => (parsePublished interpreter text).toOption

/-- What an update promises: if it succeeds, the file it wrote is read as the earlier snapshot
extended by the current one, and nothing that was published is missing or changed; if it is
refused, the file is as it was. -/
def KeepsPublished (current snapshot : Snapshot) (published : Option ByteArray)
    (outcome : Outcome) : Prop :=
  (outcome.result = .ok 0 → ∃ bytes written, outcome.published = some bytes ∧
    readPublished interpreter (some bytes) = some written ∧
      SameSnapshot written (snapshot.update current) ∧ Extends snapshot written) ∧
    (outcome.result = .ok 1 → outcome.published = published)

/-- An entry that is read as it was written. -/
structure IsFaithful (entry : (Str × Int) × Fields) : Prop where
  writable : IsWritable entry
  stable : ∀ field ∈ entry.2, reread interpreter.unicode field.2 = field.2

/-- The update is refused, or each entry it writes is read as it was written. -/
def IsHarmless (current snapshot : Snapshot) : Prop :=
  frozenSchemaViolations current snapshot ≠ [] ∨
    (∀ entry ∈ current, IsFaithful interpreter entry) ∧
      ∀ entry ∈ snapshot, entry.1 ∉ current.keys → IsFaithful interpreter entry

end Update

variable {interpreter : Interpreter} {current snapshot : Snapshot} {published : Option ByteArray}

theorem eq_ok_of_toOption {ε α : Type} {result : Except ε α} {value : α}
    (h : result.toOption = some value) : result = .ok value := by
  cases result with
  | error _ => cases h
  | ok _ => exact congrArg Except.ok (Option.some.inj h)

/-- An update of what is accepted. -/
theorem update_eq {registry : Option ByteArray}
    (hcurrent : readRegistry interpreter registry = some current)
    (hsnapshot : readPublished interpreter published = some snapshot) :
    update interpreter registry published = writeSnapshot current snapshot published := by
  obtain ⟨text, htext, hcurrent⟩ := Option.bind_eq_some_iff.1 hcurrent
  obtain ⟨events, hevents, rfl⟩ := Option.map_eq_some_iff.1 hcurrent
  rw [update, htext]
  simp only [eq_ok_of_toOption hevents]
  cases published with
  | none =>
    obtain rfl := Option.some.inj hsnapshot
    rfl
  | some bytes =>
    obtain ⟨text, htext, hsnapshot⟩ := Option.bind_eq_some_iff.1 hsnapshot
    simp only [htext, eq_ok_of_toOption hsnapshot]

/-- Of a registry or a file that is not accepted, an update makes nothing. -/
theorem update_published_of_none {registry : Option ByteArray}
    (h : readRegistry interpreter registry = none) :
    (update interpreter registry published).published = published := by
  unfold update
  split
  · rfl
  · rename_i text htext
    split
    · rfl
    · rfl
    · rename_i events hevents
      rw [readRegistry, htext, Option.bind_some, hevents] at h
      cases h

theorem isClean_readRegistry {registry : Option ByteArray}
    (h : readRegistry interpreter registry = some current) : IsClean current := by
  obtain ⟨text, -, h⟩ := Option.bind_eq_some_iff.1 h
  obtain ⟨events, hevents, rfl⟩ := Option.map_eq_some_iff.1 h
  exact isClean_currentSnapshot (eq_ok_of_toOption hevents)

theorem isClean_readPublished (h : readPublished interpreter published = some snapshot) :
    IsClean snapshot := by
  cases published with
  | none =>
    obtain rfl := Option.some.inj h
    exact .nil
  | some bytes =>
    obtain ⟨text, -, h⟩ := Option.bind_eq_some_iff.1 h
    exact isClean_of_parsePublished (eq_ok_of_toOption h)

/-! ### Nothing published changes -/

theorem fieldViolation_eq_none_iff {name : Str} {version : Int} {fields : Fields}
    {field : Str × Str} :
    fieldViolation name version fields field = none ↔ fields.get? field.1 = some field.2 := by
  unfold fieldViolation
  cases fields.get? field.1 with
  | none => exact iff_of_false (Option.some_ne_none _) (Option.some_ne_none _).symm
  | some kind =>
    rw [Option.some.injEq]
    exact ite_eq_right_iff.trans ⟨fun h => by_contra fun hne => Option.some_ne_none _ (h hne),
      fun hkind hne => absurd hkind hne⟩

theorem get?_of_no_violations (h : frozenSchemaViolations current snapshot = [])
    {entry : (Str × Int) × Fields} (hentry : entry ∈ snapshot) {fields : Fields}
    (hfields : current.get? entry.1 = some fields) {field : Str × Str} (hfield : field ∈ entry.2) :
    fields.get? field.1 = some field.2 := by
  have hnone := List.flatMap_eq_nil_iff.1 h entry ((perm_sortedEntries snapshot).mem_iff.2 hentry)
  rw [hfields] at hnone
  exact fieldViolation_eq_none_iff.1
    (List.filterMap_eq_nil_iff.1 hnone field ((perm_sortedFields entry.2).mem_iff.2 hfield))

theorem extends_update (hcurrent : IsClean current)
    (h : frozenSchemaViolations current snapshot = []) :
    Extends snapshot (snapshot.update current) := by
  intro key fields hfields
  rw [Dict.get?_update hcurrent.nodup]
  cases hnow : current.get? key with
  | none => exact ⟨fields, hfields, fun _ _ hfield => hfield⟩
  | some now =>
    refine ⟨now, rfl, fun field kind hfield => ?_⟩
    exact get?_of_no_violations h (Dict.mem_of_get?_eq_some hfields) hnow
      (Dict.mem_of_get?_eq_some hfield)

/-! ### Kinds that are reread -/

theorem get?_rereadFields {unicode : Unicode} {fields : Fields} (h : fields.keys.Nodup)
    (field : Str) :
    (rereadFields unicode fields).get? field = (fields.get? field).map (reread unicode) := by
  rw [rereadFields, Dict.get?_map_values, Dict.get?_of_perm (perm_sortedFields fields) h]

theorem get?_rereadEntries {unicode : Unicode} (h : snapshot.keys.Nodup) (key : Str × Int) :
    (rereadEntries unicode (sortedEntries snapshot)).get? key =
      (snapshot.get? key).map (rereadFields unicode) := by
  rw [rereadEntries, Dict.get?_map_values, Dict.get?_of_perm (perm_sortedEntries snapshot) h]

/-- What is read is what was written if and only if each kind is read as it was written. -/
theorem sameSnapshot_reread_iff (h : IsClean snapshot) :
    SameSnapshot (rereadEntries interpreter.unicode (sortedEntries snapshot)) snapshot ↔
      ∀ entry ∈ snapshot, ∀ field ∈ entry.2, reread interpreter.unicode field.2 = field.2 := by
  constructor
  · intro hsame entry hentry field hfield
    have hclean := h.entries entry hentry
    have hfields := (Dict.get?_eq_some_iff h.nodup).2 hentry
    have hkind := (Dict.get?_eq_some_iff hclean.nodup).2 hfield
    have hrel := hsame entry.1
    rw [get?_rereadEntries h.nodup, hfields] at hrel
    cases hrel with
    | some hrel =>
      have hkinds := hrel field.1
      rw [get?_rereadFields hclean.nodup, hkind] at hkinds
      exact Option.some.inj hkinds
  · intro hstable key
    rw [get?_rereadEntries h.nodup]
    cases hfields : snapshot.get? key with
    | none => exact .none
    | some fields =>
      have hentry := Dict.mem_of_get?_eq_some hfields
      refine .some fun field => ?_
      rw [get?_rereadFields (h.entries _ hentry).nodup]
      cases hkind : fields.get? field with
      | none => rfl
      | some kind =>
        exact congrArg some (hstable _ hentry _ (Dict.mem_of_get?_eq_some hkind))

/-! ### The promise -/

theorem isHarmless_iff (hcurrent : IsClean current) (hsnapshot : IsClean snapshot) :
    IsHarmless interpreter current snapshot ↔ frozenSchemaViolations current snapshot ≠ [] ∨
      ∀ entry ∈ snapshot.update current, IsFaithful interpreter entry := by
  refine or_congr_right ⟨fun h entry hentry => ?_, fun h => ⟨fun entry hentry => ?_, ?_⟩⟩
  · rcases (Dict.mem_update_iff hsnapshot.nodup hcurrent.nodup).1 hentry with hentry | hentry
    · exact h.1 entry hentry
    · exact h.2 entry hentry.1 hentry.2
  · exact h entry ((Dict.mem_update_iff hsnapshot.nodup hcurrent.nodup).2 (Or.inl hentry))
  · intro entry hentry hnew
    exact h entry ((Dict.mem_update_iff hsnapshot.nodup hcurrent.nodup).2 (Or.inr ⟨hentry, hnew⟩))

/-- The promise of an update, by what is written and what is refused. -/
theorem keepsPublished_iff {registry : Option ByteArray}
    (hcurrent : readRegistry interpreter registry = some current)
    (hsnapshot : readPublished interpreter published = some snapshot) :
    KeepsPublished interpreter current snapshot published (update interpreter registry published) ↔
      IsHarmless interpreter current snapshot := by
  have hclean := isClean_readRegistry hcurrent
  have hmerged : IsClean (snapshot.update current) :=
    (isClean_readPublished hsnapshot).update hclean.entries
  rw [isHarmless_iff hclean (isClean_readPublished hsnapshot), update_eq hcurrent hsnapshot,
    writeSnapshot]
  by_cases hrefused : frozenSchemaViolations current snapshot ≠ []
  · rw [if_pos hrefused]
    refine ⟨fun _ => Or.inl hrefused, fun _ => ⟨fun h => ?_, fun _ => rfl⟩⟩
    exact absurd (Except.ok.inj h) (by decide)
  · rw [if_neg hrefused]
    have hextends := extends_update hclean (not_not.1 hrefused)
    have hread : readPublished interpreter
        (some (writeText (renderPublished (snapshot.update current)))) =
          (parsePublished interpreter (renderPublished (snapshot.update current))).toOption := by
      rw [readPublished, readText_render hmerged, Option.bind_some]
    constructor
    · intro h
      refine Or.inr fun entry hentry => ?_
      obtain ⟨bytes, written, hbytes, hwritten, hsame, -⟩ := h.1 rfl
      obtain rfl := Option.some.inj hbytes
      rw [hread] at hwritten
      have hwritable : ∀ entry ∈ snapshot.update current, IsWritable entry := by
        by_contra hnot
        push Not at hnot
        obtain ⟨failure, hfailure⟩ : ∃ failure, parsePublished interpreter
            (renderPublished (snapshot.update current)) = .error failure :=
          parsePublished_render_error hmerged hnot
        rw [hfailure] at hwritten
        cases hwritten
      rw [parsePublished_render hmerged hwritable] at hwritten
      obtain rfl := Option.some.inj hwritten
      exact ⟨hwritable entry hentry, (sameSnapshot_reread_iff hmerged).1 hsame entry hentry⟩
    · intro h
      have hfaithful := h.resolve_left hrefused
      have hsame : SameSnapshot (rereadEntries interpreter.unicode
          (sortedEntries (snapshot.update current))) (snapshot.update current) :=
        (sameSnapshot_reread_iff hmerged).2 fun entry hentry => (hfaithful entry hentry).stable
      refine ⟨fun _ => ⟨_, _, rfl, ?_, hsame, hextends.of_same hsame⟩, fun h => ?_⟩
      · rw [hread,
          parsePublished_render hmerged fun entry hentry => (hfaithful entry hentry).writable]
        rfl
      · exact absurd (Except.ok.inj h) (by decide)

/-! ### Histories -/

/-- The file of the snapshot under updates, each with the registry as it is then. -/
def snapshotFile (interpreter : Interpreter) :
    Machine (fun _ : Option ByteArray => Outcome) Empty (Option ByteArray) where
  exec registry published :=
    (.ok (update interpreter registry published), (update interpreter registry published).published)

section Histories

variable {s s' : Option ByteArray}
  {t : Turn (fun _ : Option ByteArray => Outcome) Empty (Option ByteArray)}
  {steps : List (Turn (fun _ : Option ByteArray => Outcome) Empty (Option ByteArray))}

/-- If both files are accepted, the update is harmless. -/
def IsHarmlessTurn (interpreter : Interpreter)
    (t : Turn (fun _ : Option ByteArray => Outcome) Empty (Option ByteArray)) : Prop :=
  ∀ current snapshot, readRegistry interpreter t.entry.op = some current →
    readPublished interpreter t.before = some snapshot → IsHarmless interpreter current snapshot

/-- After a harmless update the file is accepted, and nothing that was published is lost. -/
theorem extends_of_harmless {registry : Option ByteArray}
    (hsnapshot : readPublished interpreter published = some snapshot)
    (hharmless : ∀ current, readRegistry interpreter registry = some current →
      IsHarmless interpreter current snapshot) :
    ∃ later, readPublished interpreter (update interpreter registry published).published =
      some later ∧ Extends snapshot later := by
  cases hcurrent : readRegistry interpreter registry with
  | none =>
    rw [update_published_of_none hcurrent]
    exact ⟨snapshot, hsnapshot, .refl snapshot⟩
  | some current =>
    have hkept := (keepsPublished_iff hcurrent hsnapshot).2 (hharmless current hcurrent)
    have hresult : (update interpreter registry published).result = .ok 0 ∨
        (update interpreter registry published).result = .ok 1 := by
      rw [update_eq hcurrent hsnapshot, writeSnapshot]
      split
      · exact Or.inr rfl
      · exact Or.inl rfl
    rcases hresult with hwritten | hrefused
    · obtain ⟨bytes, written, hbytes, hread, -, hextends⟩ := hkept.1 hwritten
      exact ⟨written, hbytes ▸ hread, hextends⟩
    · rw [hkept.2 hrefused]
      exact ⟨snapshot, hsnapshot, .refl snapshot⟩

theorem extends_of_linked (hrun : Linked (snapshotFile interpreter) s steps s')
    (hharmless : ∀ t ∈ steps, IsHarmlessTurn interpreter t)
    (hsnapshot : readPublished interpreter s = some snapshot) :
    ∃ last, readPublished interpreter s' = some last ∧ Extends snapshot last := by
  refine hrun.keeps (P := fun file => ∃ last, readPublished interpreter file = some last ∧
    Extends snapshot last) (fun t ht hbefore => ?_) ⟨snapshot, hsnapshot, .refl snapshot⟩
  obtain ⟨before, hread, hextends⟩ := hbefore
  have hafter : (update interpreter t.entry.op t.before).published = t.after :=
    congrArg Prod.snd (hrun.exec_eq ht)
  obtain ⟨later, hlater, hmore⟩ := extends_of_harmless hread
    fun current hcurrent => hharmless t ht current before hcurrent hread
  exact ⟨later, hafter ▸ hlater, hextends.trans hmore⟩

/-- **What was published is kept** by an update if and only if it is harmless: it is refused, or
each entry it writes is read as it was written. In a run of such updates the file is accepted all
along, and every field of every type and version that was in it stays there, of the same kind. -/
theorem published_is_kept (interpreter : Interpreter) :
    (∀ {registry published current snapshot}, readRegistry interpreter registry = some current →
      readPublished interpreter published = some snapshot →
        (KeepsPublished interpreter current snapshot published
          (update interpreter registry published) ↔ IsHarmless interpreter current snapshot)) ∧
    ∀ {s s' steps snapshot}, Linked (snapshotFile interpreter) s steps s' →
      (∀ t ∈ steps, IsHarmlessTurn interpreter t) → readPublished interpreter s = some snapshot →
        ∃ last, readPublished interpreter s' = some last ∧ Extends snapshot last :=
  ⟨keepsPublished_iff, extends_of_linked⟩

end Histories

/-! ### Two registries -/

section Registries

/-- An interpreter that allows few calls to be open. -/
def narrow : Interpreter := ⟨.onlyAscii, 1⟩

/-- A registry with one event of this type. -/
def registryOf (name : Str) : Str :=
  name ++ ":\n  version: 1\n  fields:\n    minutes:\n      type: minutes\n".toList

/-- The entry of this event. -/
def entryOf (name : Str) : (Str × Int) × Fields :=
  ((name, 1), [("minutes".toList, "minutes".toList)])

/-- A type with capital letters. -/
def shouted : Str := "Notes.Published".toList

/-- The type with small ones. -/
def spoken : Str := "notes.published".toList

theorem readRegistry_registryOf {name : Str} (h : '\r' ∉ registryOf name)
    (hread : (parseEvents narrow (registryOf name)).toOption.map (currentSnapshot narrow) =
      some [entryOf name]) :
    readRegistry narrow (some (writeText (registryOf name))) = some [entryOf name] := by
  rw [readRegistry, Option.bind_some, readText_writeText h]
  exact hread

theorem readRegistry_shouted :
    readRegistry narrow (some (writeText (registryOf shouted))) = some [entryOf shouted] :=
  readRegistry_registryOf (by decide +kernel) (by decide +kernel)

theorem readRegistry_spoken :
    readRegistry narrow (some (writeText (registryOf spoken))) = some [entryOf spoken] :=
  readRegistry_registryOf (by decide +kernel) (by decide +kernel)

/-- **A type with a capital letter is lost**: the update succeeds, and what it wrote is not read. -/
theorem capital_letter_is_lost :
    readRegistry narrow (some (writeText (registryOf shouted))) = some [entryOf shouted] ∧
      readPublished narrow none = some [] ∧
      (update narrow (some (writeText (registryOf shouted))) none).result = .ok 0 ∧
      ¬ KeepsPublished narrow [entryOf shouted] [] none
        (update narrow (some (writeText (registryOf shouted))) none) := by
  refine ⟨readRegistry_shouted, rfl, ?_, fun h => ?_⟩
  · rw [update_eq readRegistry_shouted rfl]
    rfl
  · rcases (keepsPublished_iff readRegistry_shouted rfl).1 h with hrefused | hfaithful
    · exact hrefused rfl
    · have hshaped := (hfaithful.1 (entryOf shouted) List.mem_cons_self).writable.shaped
      exact absurd hshaped (by decide +kernel)

theorem isFaithful_spoken : IsFaithful narrow (entryOf spoken) where
  writable := {
    shaped := by decide +kernel
    version := by decide
    first := fun field hfield => by
      obtain rfl := Option.some.inj hfield
      decide +kernel }
  stable := by
    have hstable : reread narrow.unicode "minutes".toList = "minutes".toList := by decide +kernel
    intro field hfield
    obtain rfl := List.mem_singleton.1 hfield
    exact hstable

theorem isHarmless_spoken : IsHarmless narrow [entryOf spoken] [] :=
  Or.inr ⟨fun _ hentry => List.mem_singleton.1 hentry ▸ isFaithful_spoken,
    fun _ hentry => absurd hentry List.not_mem_nil⟩

/-- What is the same as the snapshot of this event is extended without harm. -/
theorem isHarmless_again {written : Snapshot}
    (hsame : SameSnapshot written (Dict.update [] [entryOf spoken])) :
    IsHarmless narrow [entryOf spoken] written := by
  refine Or.inr ⟨fun _ hentry => List.mem_singleton.1 hentry ▸ isFaithful_spoken,
    fun entry hentry hother => ?_⟩
  -- no other key was written
  have hone : (Dict.keys [entryOf spoken]).Nodup := List.nodup_singleton _
  have hrel := hsame entry.1
  rw [Dict.get?_update hone, Dict.get?_eq_none_iff.2 hother] at hrel
  change Option.Rel SameFields _ none at hrel
  cases hfound : written.get? entry.1 with
  | none => exact absurd (List.mem_map_of_mem hentry) (Dict.get?_eq_none_iff.1 hfound)
  | some fields =>
    rw [hfound] at hrel
    cases hrel

/-- What was published with small letters is kept, also when the file is written anew. -/
theorem small_letters_are_kept :
    let registry := some (writeText (registryOf spoken))
    KeepsPublished narrow [entryOf spoken] [] none (update narrow registry none) ∧
      ∃ bytes written last, (update narrow registry none).published = some bytes ∧
        readPublished narrow (some bytes) = some written ∧
        readPublished narrow (turns (snapshotFile narrow) [registry] (some bytes)).2 = some last ∧
        Extends written last ∧
        ∃ fields, last.get? (spoken, 1) = some fields ∧
          fields.get? "minutes".toList = some "minutes".toList := by
  intro registry
  have hkeeps : KeepsPublished narrow [entryOf spoken] [] none (update narrow registry none) :=
    ((published_is_kept narrow).1 readRegistry_spoken rfl).2 isHarmless_spoken
  have hresult : (update narrow registry none).result = .ok 0 := by
    rw [update_eq readRegistry_spoken rfl]
    rfl
  obtain ⟨bytes, written, hbytes, hwritten, hsame, -⟩ := hkeeps.1 hresult
  obtain ⟨last, hlast, hextends⟩ := (published_is_kept narrow).2
    (turns_linked (snapshotFile narrow) [registry] (some bytes))
    (fun t ht current snapshot hnow hread => by
      obtain rfl := List.mem_singleton.1 ht
      obtain rfl := Option.some.inj (readRegistry_spoken.symm.trans hnow)
      obtain rfl := Option.some.inj (hwritten.symm.trans hread)
      exact isHarmless_again hsame)
    hwritten
  refine ⟨hkeeps, bytes, written, last, hbytes, hwritten, hlast, hextends, ?_⟩
  have hrel : Option.Rel SameFields _ (some (entryOf spoken).2) := hsame (spoken, 1)
  cases hfound : written.get? (spoken, 1) with
  | none =>
    rw [hfound] at hrel
    cases hrel
  | some fields =>
    rw [hfound] at hrel
    cases hrel with
    | some hfields =>
      obtain ⟨fields', hfields', hmore⟩ := hextends _ _ hfound
      exact ⟨fields', hfields', hmore _ _ (hfields _)⟩

end Registries

end Pdr.ProductEvents
