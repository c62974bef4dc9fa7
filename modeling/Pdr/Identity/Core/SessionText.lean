import Pdr.Core.Uuid
import Pdr.Identity.Core.Session
import Pdr.Patterns.StringView

/-!
# Identifiers of sessions as text

An identifier of a session is written as the tenant and the secret with a dot between them, and read
by cutting the text at its first dot. What is accepted is known symbol by symbol: besides the case
of the letters there is one spelling of an identifier.

## Main definitions

* `Pdr.StrongId.parse`, `Pdr.Identity.SessionId.parse`, `Pdr.Identity.SessionId.toText`
* `Pdr.IsUuidText`: five groups of digits.

## Main results

* `Pdr.formatUuid_of_parseUuid`: what was read is written in lower case.
* `Pdr.Identity.SessionId.round_trip`: texts and identifiers of sessions.
-/

namespace Pdr

open Identity (toLower lowered)

variable {text : Text}

/-! ### Lower case -/

/-- A digit that is read is written back in lower case. -/
theorem digit_of_digitValue {symbol digit : UInt8} (h : digitValue symbol = some digit) :
    digit.toNat < 16 ∧ uuidDigits.getD digit.toNat 0 = toLower symbol := by
  have hall (symbol : UInt8) : (digitValue symbol).all (fun digit => digit.toNat < 16 ∧
      uuidDigits.getD digit.toNat 0 = toLower symbol) = true := by
    rw [uuidDigits_eq]
    revert symbol
    exact forall_byte (by decide +kernel)
  have hsymbol := hall symbol
  rw [h] at hsymbol
  simpa using hsymbol

/-- What was read is written in lower case. -/
theorem formatBytes_of_parseBytes {part : Text} {bytes : List UInt8}
    (h : parseBytes part = some bytes) : formatBytes bytes = lowered part := by
  induction part using parseBytes.induct generalizing bytes with
  | case1 high low rest ih =>
    obtain ⟨front, back, later, hfront, hback, hlater, rfl⟩ := parseBytes_cons_eq_some.1 h
    obtain ⟨hhigh, htop⟩ := digit_of_digitValue hfront
    obtain ⟨hlow, hbottom⟩ := digit_of_digitValue hback
    obtain ⟨hleft, hright⟩ := halves_of_digits hhigh hlow
    change formatByte _ ++ formatBytes later = toLower high :: toLower low :: lowered rest
    rw [formatByte, hleft, hright, htop, hbottom, ih hlater]
    rfl
  | case2 symbol => cases h
  | case3 =>
    cases h
    rfl

/-! ### Texts of identifiers -/

/-- Five groups of hexadecimal digits with hyphens between them. -/
def IsUuidText (text : Text) : Prop := ∃ a b c d e, AreGroups a b c d e ∧
  text = grouped a b c d e ∧ ∀ symbol ∈ a ++ (b ++ (c ++ (d ++ e))), IsHexDigit symbol

theorem IsUuidText.length (h : IsUuidText text) : text.length = 36 := by
  obtain ⟨a, b, c, d, e, hgroups, rfl, -⟩ := h
  exact hgroups.length_grouped

/-- There is no dot in the text of an identifier. -/
theorem IsUuidText.ne_dot (h : IsUuidText text) {symbol : UInt8} (hmem : symbol ∈ text) :
    symbol ≠ 46 := by
  obtain ⟨a, b, c, d, e, -, rfl, hdigits⟩ := h
  rintro rfl
  have hdigit : ¬ IsHexDigit 46 := by unfold IsHexDigit; decide
  simp only [List.mem_append] at hdigits
  simp only [grouped, List.mem_append, List.mem_cons] at hmem
  have hhyphen : (46 : UInt8) ≠ 45 := by decide
  have hnone := fun hother => hdigit (hdigits 46 hother)
  tauto

/-- The texts that are read. -/
theorem exists_parseUuid_iff : (∃ bytes, parseUuid text = some bytes) ↔ IsUuidText text := by
  constructor
  · rintro ⟨bytes, hparse⟩
    obtain ⟨a, b, c, d, e, hgroups, htext, hbytes⟩ := parseUuid_eq_some_iff.1 hparse
    exact ⟨a, b, c, d, e, hgroups, htext, (exists_parseBytes_iff.1 ⟨_, hbytes⟩).2⟩
  · rintro ⟨a, b, c, d, e, hgroups, htext, hdigits⟩
    have heven : Even (a ++ (b ++ (c ++ (d ++ e)))).length := by
      rw [hgroups.length_digits]
      decide
    obtain ⟨bytes, hbytes⟩ := exists_parseBytes_iff.2 ⟨heven, hdigits⟩
    exact ⟨bytes, parseUuid_eq_some_iff.2 ⟨a, b, c, d, e, hgroups, htext, hbytes⟩⟩

theorem length_of_parseUuid {bytes : List UInt8} (h : parseUuid text = some bytes) :
    bytes.length = 16 := by
  obtain ⟨a, b, c, d, e, hgroups, rfl, hbytes⟩ := parseUuid_eq_some_iff.1 h
  have htwice := congrArg List.length (formatBytes_of_parseBytes hbytes)
  rw [length_formatBytes, lowered, List.length_map, hgroups.length_digits] at htwice
  omega

theorem parseUuid_formatUuid (bytes : Vector UInt8 16) :
    parseUuid (formatUuid bytes) = some bytes.toList := by
  obtain ⟨a, b, c, d, e, hgroups, htext, hdigits⟩ := formatUuid_eq bytes
  exact parseUuid_eq_some_iff.2 ⟨a, b, c, d, e, hgroups, htext,
    hdigits ▸ parseBytes_formatBytes bytes.toList⟩

/-- What was read is written in lower case. -/
theorem formatUuid_of_parseUuid {bytes : Vector UInt8 16}
    (h : parseUuid text = some bytes.toList) : formatUuid bytes = lowered text := by
  obtain ⟨a, b, c, d, e, hgroups, rfl, hbytes⟩ := parseUuid_eq_some_iff.1 h
  obtain ⟨a', b', c', d', e', hgroups', htext, hdigits⟩ := formatUuid_eq bytes
  rw [formatBytes_of_parseBytes hbytes] at hdigits
  simp only [lowered, List.map_append] at hdigits
  obtain ⟨ha, hlater⟩ := List.append_inj hdigits (by simp [hgroups.first, hgroups'.first])
  obtain ⟨hb, hlater⟩ := List.append_inj hlater (by simp [hgroups.second, hgroups'.second])
  obtain ⟨hc, hlater⟩ := List.append_inj hlater (by simp [hgroups.third, hgroups'.third])
  obtain ⟨hd, he⟩ := List.append_inj hlater (by simp [hgroups.fourth, hgroups'.fourth])
  rw [htext, ha, hb, hc, hd, he]
  simp [grouped, lowered, toLower]

theorem toList_ofFn_getD {bytes : List UInt8} (h : bytes.length = 16) :
    (Vector.ofFn fun i : Fin 16 => bytes.getD i 0).toList = bytes := by
  refine List.ext_getElem (by simp [h]) fun i hi hi' => ?_
  rw [Vector.getElem_toList, Vector.getElem_ofFn, List.getD_eq_getElem?_getD,
    List.getElem?_eq_getElem hi', Option.getD_some]

namespace StrongId

variable {tag : IdTag} {id : StrongId tag}

/-- `StrongId::Parse`: the bytes that are not written are zero. -/
def parse (text : Text) : Option (StrongId tag) :=
  (parseUuid text).map fun bytes => ⟨Vector.ofFn fun i => bytes.getD i 0⟩

theorem parse_eq_some_iff : parse text = some id ↔ parseUuid text = some id.bytes.toList := by
  rw [parse, Option.map_eq_some_iff]
  constructor
  · rintro ⟨bytes, hbytes, rfl⟩
    rw [hbytes, toList_ofFn_getD (length_of_parseUuid hbytes)]
  · intro hbytes
    refine ⟨id.bytes.toList, hbytes, ?_⟩
    obtain ⟨bytes⟩ := id
    rw [mk.injEq, ← Vector.toList_inj]
    exact toList_ofFn_getD Vector.length_toList

theorem exists_strongId_iff : (∃ id : StrongId tag, parse text = some id) ↔ IsUuidText text := by
  rw [← exists_parseUuid_iff]
  constructor
  · rintro ⟨id, hid⟩
    exact ⟨id.bytes.toList, parse_eq_some_iff.1 hid⟩
  · rintro ⟨bytes, hbytes⟩
    exact ⟨_, by rw [parse, hbytes, Option.map_some]⟩

end StrongId

/-! ### Identifiers of sessions -/

namespace Identity.SessionId

/-- A text that is no session. -/
def sessionIdMalformed : Error :=
  ⟨.validation, "session_id_malformed", "идентификатор сессии записывается как «арендатор.секрет»"⟩

/-- A text with other parts than a tenant and a secret. -/
def sessionIdOfOtherParts : Error :=
  ⟨.validation, "session_id_malformed", "обе части идентификатора сессии — идентификаторы"⟩

/-- `SessionId::Parse`: the text is cut at its first dot. -/
def parse (text : Text) : Result SessionId :=
  match StringView.find (· = 46) text 0 with
  | none => .error sessionIdMalformed
  | some split =>
    match StrongId.parse (StringView.substr text 0 (some split)),
      StrongId.parse (StringView.substr text (split + 1) none) with
    | some tenant, some secret => .ok ⟨tenant, secret⟩
    | _, _ => .error sessionIdOfOtherParts

/-- `SessionId::ToString`. -/
def toText (id : SessionId) : Text := id.tenant.toText ++ 46 :: id.secret.toText

variable {id same : SessionId}

/-- What is read: the two parts around the first dot. -/
theorem parse_eq_ok_iff : parse text = .ok id ↔ ∃ front back, text = front ++ 46 :: back ∧
    StrongId.parse front = some id.tenant ∧ StrongId.parse back = some id.secret := by
  constructor
  · intro hparse
    rw [parse] at hparse
    split at hparse
    · cases hparse
    · rename_i split hsplit
      split at hparse
      · rename_i tenant secret htenant hsecret
        cases hparse
        obtain ⟨symbol, hdot, htext, -⟩ := StringView.drop_of_find hsplit
        obtain rfl : symbol = 46 := by simpa using hdot
        exact ⟨_, _, htext, htenant, hsecret⟩
      · cases hparse
  · rintro ⟨front, back, rfl, hfront, hback⟩
    have huuid : IsUuidText front := StrongId.exists_strongId_iff.1 ⟨_, hfront⟩
    have hsplit : StringView.find (· = 46) (front ++ 46 :: back) 0 = some front.length := by
      refine StringView.find_eq_some_iff.2
        ⟨front, 46, back, rfl, (Nat.zero_add _).symm, by simp, ?_⟩
      intro symbol hsymbol
      simpa using huuid.ne_dot hsymbol
    have hbehind : (front ++ 46 :: back).drop (front.length + 1) = back := by
      rw [← List.drop_drop, List.drop_left, List.drop_one, List.tail_cons]
    rw [parse, hsplit]
    simp [StringView.substr, hbehind, hfront, hback]

/-- **Texts and identifiers of sessions.** An identifier that is written is read back. A text that
is read has seventy-three symbols and is written in lower case, so two texts are read as one
identifier exactly if they differ in case only. And the texts that are read are two texts of
identifiers with a dot between them. -/
theorem round_trip :
    (∀ id, parse (toText id) = .ok id) ∧
    (∀ text id, parse text = .ok id → id.toText = lowered text ∧ text.length = 73) ∧
    (∀ text other id same, parse text = .ok id → parse other = .ok same →
      (id = same ↔ lowered text = lowered other)) ∧
    ∀ text, (∃ id, parse text = .ok id) ↔
      ∃ front back, text = front ++ 46 :: back ∧ IsUuidText front ∧ IsUuidText back := by
  have hread : ∀ id, parse (toText id) = .ok id := fun id => parse_eq_ok_iff.2 ⟨_, _, rfl,
    StrongId.parse_eq_some_iff.2 (parseUuid_formatUuid _),
    StrongId.parse_eq_some_iff.2 (parseUuid_formatUuid _)⟩
  have hwritten : ∀ text id, parse text = .ok id → id.toText = lowered text ∧ text.length = 73 := by
    intro text id hparse
    obtain ⟨front, back, rfl, hfront, hback⟩ := parse_eq_ok_iff.1 hparse
    have hleft := (StrongId.exists_strongId_iff.1 ⟨_, hfront⟩).length
    have hright := (StrongId.exists_strongId_iff.1 ⟨_, hback⟩).length
    constructor
    · rw [toText, StrongId.toText, StrongId.toText,
        formatUuid_of_parseUuid (StrongId.parse_eq_some_iff.1 hfront),
        formatUuid_of_parseUuid (StrongId.parse_eq_some_iff.1 hback)]
      simp [lowered, toLower]
    · rw [List.length_append, List.length_cons, hleft, hright]
  refine ⟨hread, hwritten, fun text other id same hid hsame => ?_, fun text => ?_⟩
  · rw [← (hwritten text id hid).1, ← (hwritten other same hsame).1]
    constructor
    · exact fun heq => congrArg toText heq
    · intro heq
      have hboth := (hread id).symm.trans ((congrArg parse heq).trans (hread same))
      exact Except.ok.inj hboth
  · constructor
    · rintro ⟨id, hid⟩
      obtain ⟨front, back, htext, hfront, hback⟩ := parse_eq_ok_iff.1 hid
      exact ⟨front, back, htext, StrongId.exists_strongId_iff.1 ⟨_, hfront⟩,
        StrongId.exists_strongId_iff.1 ⟨_, hback⟩⟩
    · rintro ⟨front, back, htext, hfront, hback⟩
      obtain ⟨tenant, htenant⟩ := StrongId.exists_strongId_iff.2 hfront
      obtain ⟨secret, hsecret⟩ := StrongId.exists_strongId_iff.2 hback
      exact ⟨⟨tenant, secret⟩, parse_eq_ok_iff.2 ⟨front, back, htext, htenant, hsecret⟩⟩

/-- An identifier that can be spelled in several ways. -/
def spelled : SessionId :=
  ⟨⟨#v[0, 0, 0, 10, 0, 0, 0, 0, 0, 0, 0, 0, 0, 0, 0, 1]⟩,
    ⟨#v[0, 0, 0, 11, 0, 0, 0, 0, 0, 0, 0, 0, 0, 0, 0, 2]⟩⟩

/-- Two of its spellings are read, and they differ in case only. -/
theorem round_trip_spelled :
    parse (ascii "0000000A-0000-0000-0000-000000000001.0000000b-0000-0000-0000-000000000002") =
        .ok spelled ∧
      lowered (ascii
          "0000000A-0000-0000-0000-000000000001.0000000b-0000-0000-0000-000000000002") =
        lowered (ascii
          "0000000a-0000-0000-0000-000000000001.0000000B-0000-0000-0000-000000000002") :=
  have hread : parse (ascii
      "0000000A-0000-0000-0000-000000000001.0000000b-0000-0000-0000-000000000002") =
        .ok spelled := by decide +kernel
  ⟨hread, (round_trip.2.2.1 _ _ spelled spelled hread (by decide +kernel)).1 rfl⟩

end Identity.SessionId

end Pdr
