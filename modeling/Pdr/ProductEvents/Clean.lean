import Pdr.ProductEvents.RoundTrip

/-!
# What the readers accept

Whatever a text says, the names that come out of it have no colon in them and no end of a line,
no key comes twice, and an entry has at least one field. So it is with the snapshot, with the
entries the registry describes, and with the two of them together.

## Main results

* `Pdr.ProductEvents.isClean_of_parsePublished`: a snapshot that was read is clean.
* `Pdr.ProductEvents.isClean_currentSnapshot`: so are the entries of a registry that was read.
* `Pdr.ProductEvents.IsClean.update`: and one extended by the other.
-/

namespace Pdr.ProductEvents

open Python

variable {interpreter : Interpreter} {total : Nat}

namespace IsClean

theorem nil : IsClean [] where
  nodup := List.nodup_nil
  entries _ h := absurd h List.not_mem_nil

theorem set {snapshot : Snapshot} {entry : (Str × Int) × Fields} (h : IsClean snapshot)
    (hentry : IsCleanEntry entry) : IsClean (snapshot.set entry.1 entry.2) where
  nodup := Dict.nodup_keys_set h.nodup entry.1 entry.2
  entries other hother := by
    rcases Dict.mem_set hother with rfl | hother
    · exact hentry
    · exact h.entries other hother

theorem update {snapshot : Snapshot} {current : List ((Str × Int) × Fields)} (h : IsClean snapshot)
    (hcurrent : ∀ entry ∈ current, IsCleanEntry entry) :
    IsClean (Dict.update snapshot current) where
  nodup := Dict.nodup_keys_update h.nodup current
  entries entry hentry := (Dict.mem_update hentry).elim (h.entries entry) (hcurrent entry)

end IsClean

/-! ### Names -/

theorem plain_of_isKeyChar {c : Char} (h : isKeyChar c = true) :
    endsLine c = false ∧ isSpace c = false ∧ c ≠ ':' ∧ c ≠ '#' := by
  have hcode : (97 ≤ c.toNat ∧ c.toNat ≤ 122) ∨ (48 ≤ c.toNat ∧ c.toNat ≤ 57) ∨ c.toNat = 95 ∨
      c.toNat = 46 := by
    simp only [isKeyChar, Bool.or_eq_true, Bool.and_eq_true, decide_eq_true_eq, Char.le_def,
      UInt32.le_iff_toNat_le] at h
    rcases h with ((h | h) | rfl) | rfl
    · exact Or.inl h
    · exact Or.inr (Or.inl h)
    · decide
    · decide
  have hspace : isSpace c = false := by
    simp only [isSpace, List.contains_cons, List.contains_nil, Bool.or_eq_false_iff,
      Bool.and_eq_false_iff, decide_eq_false_iff_not, beq_eq_false_iff_ne, and_true]
    omega
  refine ⟨Bool.eq_false_iff.2 fun hends => ?_, hspace, ?_, ?_⟩
  · exact absurd (isSpace_of_endsLine hends) (Bool.eq_false_iff.1 hspace)
  · rintro rfl
    exact absurd h (by decide)
  · rintro rfl
    exact absurd h (by decide)

theorem isFieldName_of_isKeyChar {name : Str} (h : ∀ c ∈ name, isKeyChar c = true) :
    IsFieldName name where
  noColon hmem := (plain_of_isKeyChar (h ':' hmem)).2.2.1 rfl
  oneLine c hc := (plain_of_isKeyChar (h c hc)).1
  noSpace c hc := (plain_of_isKeyChar (h c (List.mem_of_mem_head? hc))).2.1
  noComment hc := (plain_of_isKeyChar (h '#' (List.mem_of_mem_head? hc))).2.2.2 rfl

/-- The type in the key of a snapshot. -/
theorem isFieldName_of_matchPublishedKey {decimals : Decimals} {key name digits : Str}
    (h : matchPublishedKey decimals key = some (name, digits)) : IsFieldName name := by
  unfold matchPublishedKey at h
  split at h
  · rename_i first taken rest htake hdrop
    simp only at h
    split at h
    · cases h
      exact isFieldName_of_isKeyChar fun c hc => List.mem_takeWhile_imp (htake ▸ hc)
    · cases h
  · cases h

/-! ### The snapshot -/

section Published

variable {lines : List Str} {published snapshot : Snapshot}

theorem IsRead.onOneLine_str {unicode : Unicode} {value : Value} (h : IsRead value) :
    OnOneLine (value.str unicode) := by
  refine Value.onOneLine_str unicode fun s hs => ?_
  subst hs
  cases h with
  | text oneLine => exact oneLine

/-- A dictionary that was read, each value as text. -/
theorem isCleanEntry_fieldsOf {unicode : Unicode} {name digits : Str} {version : Int}
    {block : Dict Str Value} (hname : IsFieldName name)
    (hversion : int unicode.toDecimals digits = some version) (hblock : IsRead (.dict block)) :
    IsCleanEntry ((name, version), fieldsOf unicode block) := by
  cases hblock with
  | dict nonempty nodup names values =>
    refine ⟨hname, fun n hn => ?_, ?_, ?_, fun field hfield => ?_⟩
    · obtain rfl : version = n := hn
      exact length_str_of_int hversion
    · simpa [fieldsOf] using nonempty
    · have hkeys : Dict.keys (fieldsOf unicode block) = block.keys := by
        simp [fieldsOf, Dict.keys]
      rwa [hkeys]
    · obtain ⟨item, hitem, rfl⟩ := List.mem_map.1 hfield
      exact ⟨names item hitem, (values item hitem).onOneLine_str⟩

theorem isClean_of_parsePublishedFrom (hlines : ∀ line ∈ lines, OnOneLine line)
    (hpublished : IsClean published)
    (h : parsePublishedFrom interpreter total lines published = .ok snapshot) :
    IsClean snapshot := by
  induction hlength : lines.length using Nat.strong_induction_on generalizing lines published with
  | _ length ih =>
  cases lines with
  | nil =>
    rw [parsePublishedFrom] at h
    obtain rfl := Except.ok.inj h
    exact hpublished
  | cons line after =>
    obtain ⟨hline, hafter⟩ := List.forall_mem_cons.1 hlines
    rw [List.length_cons] at hlength
    rw [parsePublishedFrom] at h
    split at h
    · exact ih after.length (by omega) hafter hpublished h rfl
    split at h
    · cases h
    simp only at h
    split at h
    · cases h
    · rename_i name digits hmatch
      split at h
      · rename_i block rest hblock
        split at h
        · cases h
        · rename_i version hversion
          have hsuffix := suffix_of_parseBlock hblock
          have hshorter := hsuffix.length_le
          have hentry := isCleanEntry_fieldsOf (isFieldName_of_matchPublishedKey hmatch) hversion
            (isRead_parseBlock hafter hblock)
          exact ih rest.length (by omega) (fun other hother => hafter other (hsuffix.subset hother))
            (hpublished.set hentry) h rfl
      · cases h
      · cases h

/-- A snapshot that was read is clean. -/
theorem isClean_of_parsePublished {text : Str}
    (h : parsePublished interpreter text = .ok snapshot) : IsClean snapshot :=
  isClean_of_parsePublishedFrom (fun _ hline => endsLine_of_mem_splitlines hline) .nil h

end Published

/-! ### The registry -/

/-- What is so of an event that was read. -/
structure IsReadEvent (event : Str × Dict Str Value) : Prop where
  name : IsFieldName event.1
  body : IsRead (.dict event.2)

section Events

variable {lines : List Str} {events read : Dict Str (Dict Str Value)}

/-- What stands before the colon of a line that is not indented. -/
theorem isFieldName_of_line {line name rest : Str} (hline : OnOneLine line)
    (hread : isPassedOver line = false) (hspace : line.head?.any isSpace = false)
    (h : partition ':' line = (name, [':'], rest)) : IsFieldName name := by
  obtain ⟨hsplit, hcolon⟩ : line = name ++ ':' :: rest ∧ ':' ∉ name := by
    rcases partition_cases ':' line with ⟨-, hcut⟩ | ⟨front, back, hsplit, hfront, hcut⟩
    · rw [hcut] at h
      cases h
    · rw [hcut] at h
      cases h
      exact ⟨hsplit, hfront⟩
  have hhead : ∀ c, name.head? = some c → line.head? = some c := by
    intro c hc
    rw [hsplit, List.head?_append, hc]
    rfl
  have hfirst : ∀ c, name.head? = some c → isSpace c = false := by
    intro c hc
    rw [hhead c hc] at hspace
    exact hspace
  refine ⟨hcolon, hline.of_subset ?_, hfirst, fun hc => ?_⟩
  · rw [hsplit]
    exact List.subset_append_left _ _
  · have hlstrip : (lstrip line).head? = some '#' := by
      cases name with
      | nil => cases hc
      | cons c name =>
        rw [hsplit, List.cons_append, lstrip_of_head (hfirst c rfl)]
        exact hc
    rw [isPassedOver, hlstrip, decide_eq_true rfl, Bool.or_true] at hread
    cases hread

theorem isRead_of_parseEventsFrom (hlines : ∀ line ∈ lines, OnOneLine line)
    (hevents : ∀ event ∈ events, IsReadEvent event)
    (h : parseEventsFrom interpreter total lines events = .ok read) :
    ∀ event ∈ read, IsReadEvent event := by
  induction hlength : lines.length using Nat.strong_induction_on generalizing lines events with
  | _ length ih =>
  cases lines with
  | nil =>
    rw [parseEventsFrom] at h
    obtain rfl := Except.ok.inj h
    exact hevents
  | cons line after =>
    obtain ⟨hline, hafter⟩ := List.forall_mem_cons.1 hlines
    rw [List.length_cons] at hlength
    rw [parseEventsFrom] at h
    split at h
    · exact ih after.length (by omega) hafter hevents h rfl
    rename_i hread
    split at h
    · cases h
    rename_i hspace
    rcases hcut : partition ':' line with ⟨name, separator, rest⟩
    rw [hcut] at h
    simp only at h
    split at h
    · cases h
    rename_i hseparator
    split at h
    · cases h
    split at h
    · rename_i block later hblock
      have hsuffix := suffix_of_parseBlock hblock
      have hshorter := hsuffix.length_le
      have hname : IsFieldName name := by
        rcases partition_cases ':' line with ⟨-, hnone⟩ | ⟨front, back, -, -, hfound⟩
        · rw [hcut] at hnone
          cases hnone
          exact absurd (Or.inl rfl) hseparator
        · rw [hcut] at hfound
          cases hfound
          exact isFieldName_of_line hline (Bool.eq_false_iff.2 hread)
            (Bool.eq_false_iff.2 hspace) hcut
      refine ih later.length (by omega) (fun other hother => hafter other (hsuffix.subset hother))
        (fun event hevent => ?_) h rfl
      rcases Dict.mem_set hevent with rfl | hevent
      · exact ⟨hname, isRead_parseBlock hafter hblock⟩
      · exact hevents event hevent
    · cases h
    · cases h
    · cases h

theorem isRead_of_parseEvents {text : Str} (h : parseEvents interpreter text = .ok read) :
    ∀ event ∈ read, IsReadEvent event :=
  isRead_of_parseEventsFrom (fun _ hline => endsLine_of_mem_splitlines hline)
    (fun _ hevent => absurd hevent List.not_mem_nil) h

theorem onOneLine_kind {body : Value} : IsRead body →
    OnOneLine (match body with
      | .dict body => (Dict.get? "type".toList body).elim [] (·.str interpreter.unicode)
      | _ => []) := by
  intro h
  cases h with
  | text oneLine => exact onOneLine_nil
  | list items => exact onOneLine_nil
  | @dict items nonempty nodup names values =>
    change OnOneLine ((Dict.get? "type".toList items).elim [] (·.str interpreter.unicode))
    cases htype : Dict.get? "type".toList items with
    | none => exact onOneLine_nil
    | some kind => exact (values _ (Dict.mem_of_get?_eq_some htype)).onOneLine_str

theorem isCleanEntry_of_snapshotEntry {event : Str × Dict Str Value} {entry : (Str × Int) × Fields}
    (hevent : IsReadEvent event) (h : snapshotEntry interpreter event = some entry) :
    IsCleanEntry entry := by
  unfold snapshotEntry at h
  split at h
  · rename_i fields hfields
    obtain ⟨number, hversion, rfl⟩ := Option.map_eq_some_iff.1 h
    have hbody : IsRead (.dict fields) := by
      cases hevent.body with
      | dict nonempty nodup names values => exact values _ (Dict.mem_of_get?_eq_some hfields)
    cases hbody with
    | dict nonempty nodup names values =>
      refine ⟨hevent.name, fun n hn => ?_, ?_, ?_, fun field hfield => ?_⟩
      · obtain rfl : number = n := hn
        exact length_str_of_int hversion
      · simpa using nonempty
      · rw [Dict.keys, List.map_map]
        exact nodup
      · obtain ⟨item, hitem, rfl⟩ := List.mem_map.1 hfield
        exact ⟨names item hitem, onOneLine_kind (values item hitem)⟩
  · cases h

/-- The entries of a registry that was read are clean. -/
theorem isClean_currentSnapshot {text : Str} (h : parseEvents interpreter text = .ok read) :
    IsClean (currentSnapshot interpreter read) := by
  refine IsClean.nil.update fun entry hentry => ?_
  obtain ⟨event, hevent, hentry⟩ := List.mem_filterMap.1 hentry
  exact isCleanEntry_of_snapshotEntry (isRead_of_parseEvents h event hevent) hentry

end Events

end Pdr.ProductEvents
