import Mathlib.Data.List.TakeWhile
import Pdr.Db.Schema
import Pdr.Observability.ProductEvent
import Pdr.Patterns.Search

/-!
# The table of product events

The table holds three constraints on what an event consists of, two of them patterns: the type
is shaped in a certain way, the version begins at one, and no key of the fields names a person.
The last rule is written twice, as a pattern of the table and as the list of
`anonymityBreach`, and the two differ: the pattern has `id` at the beginning of a key and `_id`
anywhere in it, the list has `id` itself and `_id` at the end of something. A key that lies
between the two is taken by the code and refused by the table.

## Main definitions

* `Pdr.Observability.typeShaped`, `Pdr.Observability.keyNamesPerson`: the patterns.
* `Pdr.Observability.MeetsConstraints`: the row of an event satisfies the constraints.
* `Pdr.Observability.LiesBetween`: the keys on which the two lists differ.
* `Pdr.Observability.AgreesWithTable`: no event is made that the table refuses.

## Main results

* `Pdr.Observability.isEventType_iff`: the type is shaped as the pattern says.
* `Pdr.Observability.isRefused_iff`: the keys that the code refuses.
* `Pdr.Observability.agreesWithTable_iff`: the code and the table agree on the fields exactly
  if no key lies between, or another field is refused.
-/

namespace Pdr.Observability

open Patterns

/-! ### The constraints as they are written -/

/-- `[a-z]`. -/
def lowerLetters : List UInt8 := ascii "abcdefghijklmnopqrstuvwxyz"

/-- `[a-z0-9_]`. -/
def nameSymbols : List UInt8 := lowerLetters ++ ascii "0123456789_"

/-- `[a-z][a-z0-9_]*`. -/
def namePart : RegularExpression UInt8 := oneOf lowerLetters * (oneOf nameSymbols).star

/-- `^[a-z][a-z0-9_]*\.[a-z][a-z0-9_]*$`. -/
def typeShaped : Pattern UInt8 :=
  [⟨true, namePart * RegularExpression.char 46 * namePart, true⟩]

/-- `_id|^id|person|email|phone|login|name`. -/
def keyNamesPerson : Pattern UInt8 :=
  [⟨false, word (ascii "_id"), false⟩, ⟨true, word (ascii "id"), false⟩,
    ⟨false, word (ascii "person"), false⟩, ⟨false, word (ascii "email"), false⟩,
    ⟨false, word (ascii "phone"), false⟩, ⟨false, word (ascii "login"), false⟩,
    ⟨false, word (ascii "name"), false⟩]

/-- `observability_product_event_fields_are_anonymous`, for an object with these keys. -/
def AreAnonymous (keys : List Text) : Prop := ¬ ∃ key ∈ keys, keyNamesPerson.IsIn key

/-- The constraints on the type, on the version and on the keys of the fields. -/
structure MeetsConstraints (event : ProductEvent) : Prop where
  typeShaped : typeShaped.IsIn event.type
  versionFromOne : 1 ≤ event.version
  fieldsAreAnonymous : AreAnonymous event.fields.names

/-! ### The shape of a type -/

/-- Symbols that follow one another. -/
theorem mem_run {first symbol : UInt8} {count : Nat} (h : first.toNat + count ≤ 256) :
    symbol ∈ (List.range count).map (fun n => first + UInt8.ofNat n) ↔
      first.toNat ≤ symbol.toNat ∧ symbol.toNat < first.toNat + count := by
  have hvalue (n : Nat) (hn : n < count) : (first + UInt8.ofNat n).toNat = first.toNat + n := by
    rw [UInt8.toNat_add, UInt8.toNat_ofNat']
    omega
  rw [List.mem_map]
  constructor
  · rintro ⟨n, hn, rfl⟩
    have hlt := List.mem_range.1 hn
    rw [hvalue n hlt]
    omega
  · rintro ⟨hlower, hupper⟩
    have hlt : symbol.toNat - first.toNat < count := by omega
    refine ⟨symbol.toNat - first.toNat, List.mem_range.2 hlt, UInt8.toNat_inj.1 ?_⟩
    rw [hvalue _ hlt]
    omega

theorem lowerLetters_eq : lowerLetters = (List.range 26).map fun n => 97 + UInt8.ofNat n := by
  decide +kernel

theorem nameSymbols_eq :
    nameSymbols = lowerLetters ++ ((List.range 10).map (fun n => 48 + UInt8.ofNat n) ++ [95]) := by
  have hdigits : ascii "0123456789_" =
      (List.range 10).map (fun n => 48 + UInt8.ofNat n) ++ [95] := by decide +kernel
  rw [nameSymbols, hdigits]

theorem mem_lowerLetters {symbol : UInt8} : symbol ∈ lowerLetters ↔ isLower symbol = true := by
  rw [lowerLetters_eq, mem_run (by decide), isLower, Bool.and_eq_true, decide_eq_true_eq,
    decide_eq_true_eq, UInt8.le_iff_toNat_le, UInt8.le_iff_toNat_le]
  exact and_congr_right fun _ => Nat.lt_succ_iff

theorem mem_nameSymbols {symbol : UInt8} :
    symbol ∈ nameSymbols ↔ isNameSymbol symbol = true := by
  rw [nameSymbols_eq, List.mem_append, mem_lowerLetters, List.mem_append, mem_run (by decide),
    isNameSymbol, isDigit, Bool.or_eq_true, Bool.or_eq_true, Bool.and_eq_true, decide_eq_true_eq,
    decide_eq_true_eq, decide_eq_true_eq, UInt8.le_iff_toNat_le, UInt8.le_iff_toNat_le,
    List.mem_singleton, or_assoc]
  exact or_congr_right (or_congr_left (and_congr_right fun _ => Nat.lt_succ_iff))

theorem isNamePart_iff {part : Text} :
    isNamePart part = true ↔ part ∈ namePart.matches' := by
  rw [namePart, RegularExpression.matches'_mul, Language.mem_mul]
  constructor
  · intro h
    cases part with
    | nil => cases h
    | cons first rest =>
      obtain ⟨hfirst, hall⟩ := Bool.and_eq_true_iff.1 h
      refine ⟨[first], mem_oneOf.2 ⟨first, mem_lowerLetters.2 hfirst, rfl⟩, rest,
        mem_star_oneOf.2 fun symbol hsymbol => ?_, rfl⟩
      exact mem_nameSymbols.2 (List.all_eq_true.1 hall symbol (List.mem_cons_of_mem _ hsymbol))
  · rintro ⟨start, hstart, rest, hrest, rfl⟩
    obtain ⟨first, hfirst, rfl⟩ := mem_oneOf.1 hstart
    have hlower := mem_lowerLetters.1 hfirst
    refine Bool.and_eq_true_iff.2 ⟨hlower, List.all_eq_true.2 fun symbol hsymbol => ?_⟩
    rcases List.mem_cons.1 hsymbol with rfl | hsymbol
    · exact Bool.or_eq_true_iff.2 (Or.inl (Bool.or_eq_true_iff.2 (Or.inl hlower)))
    · exact mem_nameSymbols.1 (mem_star_oneOf.1 hrest symbol hsymbol)

theorem not_mem_of_isNamePart {part : Text} (h : isNamePart part = true) : (46 : UInt8) ∉ part := by
  cases part with
  | nil => exact List.not_mem_nil
  | cons first rest =>
    intro hdot
    have hsymbol := List.all_eq_true.1 (Bool.and_eq_true_iff.1 h).2 46 hdot
    exact absurd hsymbol (by decide)

theorem idxOf?_append_cons {before after : Text} {symbol : UInt8} (h : symbol ∉ before) :
    (before ++ symbol :: after).idxOf? symbol = some before.length := by
  induction before with
  | nil => simp [List.idxOf?_cons]
  | cons first before ih =>
    have hfirst : (first == symbol) = false :=
      beq_eq_false_iff_ne.2 (List.ne_of_not_mem_cons h).symm
    rw [List.cons_append, List.idxOf?_cons, hfirst, ih (List.not_mem_of_not_mem_cons h)]
    rfl

/-- An event type is two parts of a name with a dot between them. -/
theorem isEventType_iff_exists {type : Text} :
    isEventType type = true ↔ ∃ context what, type = context ++ 46 :: what ∧
      isNamePart context = true ∧ isNamePart what = true := by
  constructor
  · intro h
    by_cases hdot : (46 : UInt8) ∈ type
    · obtain ⟨context, what, rfl, hcontext⟩ := List.eq_append_cons_of_mem hdot
      rw [isEventType, idxOf?_append_cons hcontext] at h
      refine ⟨context, what, rfl, ?_⟩
      simpa using h
    · rw [isEventType, List.idxOf?_eq_none_iff.2 hdot] at h
      cases h
  · rintro ⟨context, what, rfl, hcontext, hwhat⟩
    rw [isEventType, idxOf?_append_cons (not_mem_of_isNamePart hcontext)]
    simp [hcontext, hwhat]

/-- The type is shaped as the pattern says. -/
theorem isEventType_iff {type : Text} : isEventType type = true ↔ typeShaped.IsIn type := by
  have hpattern : typeShaped.IsIn type ↔
      type ∈ (namePart * RegularExpression.char 46 * namePart).matches' := by
    simp only [typeShaped, Pattern.IsIn, List.mem_singleton, exists_eq_left, isIn_whole]
  rw [hpattern, isEventType_iff_exists, RegularExpression.matches'_mul,
    RegularExpression.matches'_mul, RegularExpression.matches'_char, Language.mem_mul]
  constructor
  · rintro ⟨context, what, rfl, hcontext, hwhat⟩
    refine ⟨context ++ [46], ?_, what, isNamePart_iff.1 hwhat, by simp⟩
    exact Language.mem_mul.2 ⟨context, isNamePart_iff.1 hcontext, [46], rfl, rfl⟩
  · rintro ⟨start, hstart, what, hwhat, rfl⟩
    obtain ⟨context, hcontext, dot, hdot, rfl⟩ := Language.mem_mul.1 hstart
    rw [Set.mem_singleton_iff.1 hdot]
    exact ⟨context, what, by simp, isNamePart_iff.2 hcontext, isNamePart_iff.2 hwhat⟩

/-! ### The keys of the fields -/

/-- The words the pattern has in common with the code. -/
def tableWords : List Text :=
  [ascii "person", ascii "email", ascii "phone", ascii "login", ascii "name"]

theorem keyNamesPerson_isIn_iff {key : Text} :
    keyNamesPerson.IsIn key ↔
      ascii "_id" <:+: key ∨ ascii "id" <+: key ∨ ∃ word ∈ tableWords, word <:+: key := by
  simp only [keyNamesPerson, Pattern.IsIn, List.mem_cons, List.not_mem_nil, or_false,
    exists_eq_or_imp, exists_eq_left, isIn_word, isIn_word_at_start, tableWords]

/-- The key begins with `id` and is not `id`, or has `_id` in it and not at the end of something
longer; and it has none of the words of the code. -/
def LiesBetween (key : Text) : Prop :=
  (ascii "id" <+: key ∨ ascii "_id" <:+: key) ∧ isIdentifierName key = false ∧
    ∀ word ∈ kPersonWords, contains key word = false

theorem tableWords_subset : tableWords ⊆ kPersonWords := by decide

/-- What the table refuses and the code does not refuse by its name lies between. -/
theorem liesBetween_iff {key : Text} :
    LiesBetween key ↔ keyNamesPerson.IsIn key ∧ isIdentifierName key = false ∧
      ∀ word ∈ kPersonWords, contains key word = false := by
  rw [LiesBetween, keyNamesPerson_isIn_iff]
  constructor
  · rintro ⟨hid | hid, hrest⟩
    · exact ⟨Or.inr (Or.inl hid), hrest⟩
    · exact ⟨Or.inl hid, hrest⟩
  · rintro ⟨hid | hid | ⟨word, hword, hin⟩, hname, hwords⟩
    · exact ⟨Or.inr hid, hname, hwords⟩
    · exact ⟨Or.inl hid, hname, hwords⟩
    · have hnone : ¬ word <:+: key := by
        simpa [contains] using hwords word (tableWords_subset hword)
      exact absurd hin hnone

/-! ### The row in the schema -/

/-! ### The two together -/

/-- An event that is made, or recorded, meets the constraints, and fields that the table
refuses are refused. -/
structure AgreesWithTable (tenant : TenantId) (type : Text) (version : Int) (actor : Role)
    (occurredAt : Int) (fields : Fields) : Prop where
  composed : ∀ event, ProductEvent.compose tenant type version actor occurredAt fields = .ok event →
    MeetsConstraints event
  refused : ¬ AreAnonymous fields.names → anonymityBreach fields ≠ none
  recorded : ∀ stream stream', record stream tenant type version actor occurredAt fields =
    (.ok (), stream') → ∀ event ∈ stream', event ∈ stream ∨ MeetsConstraints event

/-- The field is refused by the code: by its name, or for the text of its value. -/
def IsRefused (name : Text) (value : Value) : Prop :=
  isIdentifierName name = true ∨ (∃ word ∈ kPersonWords, contains name word = true) ∨
    carriesIdentifier value = true

theorem isRefused_iff {name : Text} {value : Value} :
    IsRefused name value ↔ breachOf name value ≠ none := by
  rw [ne_eq, breachOf_eq_none, IsRefused]
  simp only [not_and_or, Bool.not_eq_false, not_forall, exists_prop]

theorem anonymityBreach_ne_none {fields : Fields} :
    anonymityBreach fields ≠ none ↔ ∃ entry ∈ fields.entries, IsRefused entry.1 entry.2 := by
  simp only [ne_eq, anonymityBreach_eq_none, not_forall, exists_prop, isRefused_iff]

/-- Fields that the code lets pass are anonymous to the table if no key lies between. -/
theorem areAnonymous_iff_of_none {fields : Fields} (h : anonymityBreach fields = none) :
    AreAnonymous fields.names ↔ ∀ key ∈ fields.names, ¬ LiesBetween key := by
  have hpassed : ∀ key ∈ fields.names, isIdentifierName key = false ∧
      ∀ word ∈ kPersonWords, contains key word = false := by
    intro key hkey
    obtain ⟨entry, hentry, rfl⟩ := List.mem_map.1 hkey
    obtain ⟨hname, hwords, -⟩ := breachOf_eq_none.1 (anonymityBreach_eq_none.1 h entry hentry)
    exact ⟨hname, hwords⟩
  simp only [AreAnonymous, not_exists, not_and]
  refine forall₂_congr fun key hkey => not_congr ?_
  rw [liesBetween_iff]
  exact (and_iff_left (hpassed key hkey)).symm

/-- The code and the table agree on an event exactly if no key of its fields lies between the
two lists, or another of its fields is refused. -/
theorem agreesWithTable_iff {tenant : TenantId} {type : Text} {version : Int} {actor : Role}
    {occurredAt : Int} {fields : Fields} :
    AgreesWithTable tenant type version actor occurredAt fields ↔
      (∃ entry ∈ fields.entries, IsRefused entry.1 entry.2) ∨
        ∀ key ∈ fields.names, ¬ LiesBetween key := by
  rw [← anonymityBreach_ne_none]
  constructor
  · intro h
    by_cases hnone : anonymityBreach fields = none
    · refine Or.inr ((areAnonymous_iff_of_none hnone).1 ?_)
      by_contra hnamed
      exact h.refused hnamed hnone
    · exact Or.inl hnone
  · intro h
    have hcomposed : ∀ event, ProductEvent.compose tenant type version actor occurredAt fields =
        .ok event → MeetsConstraints event := by
      intro event hevent
      obtain ⟨htype, hversion, -, hnone, rfl⟩ := ProductEvent.compose_eq_ok.1 hevent
      have hbetween := h.resolve_left (not_not.2 hnone)
      exact ⟨isEventType_iff.1 htype, hversion, (areAnonymous_iff_of_none hnone).2 hbetween⟩
    refine ⟨hcomposed, fun hnamed hnone => ?_, fun stream stream' hrecord event hevent => ?_⟩
    · exact hnamed ((areAnonymous_iff_of_none hnone).2 (h.resolve_left (not_not.2 hnone)))
    · unfold record at hrecord
      split at hrecord
      · cases hrecord
      · rename_i made hmade
        obtain rfl := (Prod.mk.inj hrecord).2
        rcases List.mem_append.1 hevent with hold | hnew
        · exact Or.inl hold
        · rw [List.mem_singleton.1 hnew]
          exact Or.inr (hcomposed made hmade)

/-- How long somebody was idle. -/
def idleFields : Fields := ⟨[(ascii "idle_minutes", .minutes 5)], by decide +kernel⟩

/-- A tenant. -/
def watchingTenant : TenantId := ⟨Vector.replicate 16 7⟩

/-- An event with the field `idle_minutes` is made, and the table refuses it. -/
theorem idle_minutes_are_refused :
    (∃ event, ProductEvent.compose watchingTenant (ascii "lessons.watched") 1 .student 10
      idleFields = .ok event) ∧
    ¬ AgreesWithTable watchingTenant (ascii "lessons.watched") 1 .student 10 idleFields := by
  have hnone : anonymityBreach idleFields = none := by
    refine anonymityBreach_eq_none.2 fun entry hentry => ?_
    rw [List.mem_singleton.1 hentry]
    exact breachOf_eq_none.2 (by decide +kernel)
  have htype : isEventType (ascii "lessons.watched") = true := by decide +kernel
  have hnamed : keyNamesPerson.IsIn (ascii "idle_minutes") :=
    keyNamesPerson_isIn_iff.2 (by decide +kernel)
  refine ⟨⟨_, ProductEvent.compose_eq_ok.2 ⟨htype, by decide, List.cons_ne_nil _ _, hnone, rfl⟩⟩,
    fun h => h.refused (not_not.2 ⟨_, List.mem_cons_self, hnamed⟩) hnone⟩

end Pdr.Observability
