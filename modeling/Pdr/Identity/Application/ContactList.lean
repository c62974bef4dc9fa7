import Pdr.Identity.Application.InviteMany
import Pdr.Patterns.StringView

/-!
# A list of contacts that was pasted

The text is cut at separators, the pieces are trimmed, and in each piece a mail is looked for: in
angle brackets, if there are any. The scanner walks over the text by positions and keeps the mails
it has seen. What it returns is compared with the pieces of the text, taken as a whole.

## Main definitions

* `Pdr.Identity.parseContacts`: the scanner.
* `Pdr.Identity.pieces`, `Pdr.Identity.readAll`: the pieces of a text, and what becomes of them.
* `Pdr.Identity.Addresses`: the text that a line addresses.

## Main results

* `Pdr.Identity.parseFrom_eq`: the scanner reads the pieces one after another.
* `Pdr.Identity.contacts_are_read_exactly`: which lines there are, and what becomes of each.
* `Pdr.Identity.spaces_in_brackets_are_dropped`: a line whose brackets do not hold a mail as they
  stand.
-/

namespace Pdr.Identity

open StringView

/-! ### The scanner -/

/-- `kSeparators`: the ends of a line, a comma, a semicolon and a tab. -/
def separators : Text := [10, 13, 44, 59, 9]

/-- `kSpaces`: a space, the tabs of both kinds and a form feed. -/
def spaces : Text := [32, 9, 11, 12]

/-- `Trim`. -/
def trim (text : Text) : Text := trimOf spaces.contains text

/-- `Addressed`: what stands in angle brackets, or the whole line. -/
def addressed (line : Text) : Text :=
  let opening := find (· = 60) line 0
  let closing := find (· = 62) line (opening.getD 0)
  match opening, closing with
  | some opening, some closing =>
    if closing < opening then line
    else trim (substr line (opening + 1) (some (closing - opening - 1)))
  | _, _ => line

/-- `kMostLines`. -/
def mostLines : Nat := 500

/-- What becomes of a piece after the mails that were seen. -/
def readPiece (seen : List Text) (piece : Text) : Contact × List Text :=
  match Email.parse (addressed piece) with
  | .error _ => (⟨piece, none, .malformed⟩, seen)
  | .ok mail =>
    if mail.value ∈ seen then (⟨piece, some mail, .repeatedInList⟩, seen)
    else (⟨piece, some mail, .ready⟩, mail.value :: seen)

/-- The lines and the mails seen after a piece; an empty one is passed over. -/
def takePiece (piece : Text) (lines : List Contact) (seen : List Text) :
    List Contact × List Text :=
  if piece = [] then (lines, seen)
  else
    let read := readPiece seen piece
    (lines ++ [read.1], read.2)

/-- The loop of `ContactList::Parse`, from a position on. -/
def parseFrom (pasted : Text) (start : Nat) (lines : List Contact) (seen : List Text) :
    List Contact :=
  if start ≤ pasted.length ∧ lines.length < mostLines then
    match _hstop : find separators.contains pasted start with
    | none => (takePiece (trim (substr pasted start none)) lines seen).1
    | some stop =>
      let taken := takePiece (trim (substr pasted start (some (stop - start)))) lines seen
      parseFrom pasted (stop + 1) taken.1 taken.2
  else lines
termination_by pasted.length + 1 - start
decreasing_by
  have hbetween := le_of_find _hstop
  omega

/-- `ContactList::Parse`. -/
def parseContacts (pasted : Text) : List Contact := parseFrom pasted 0 [] []

/-! ### The pieces of a text -/

/-- What stands between the separators, trimmed, as far as anything is left. -/
def pieces (pasted : Text) : List Text :=
  ((pasted.splitOnP separators.contains).map trim).filter (· ≠ [])

/-- What becomes of pieces that are read one after another. -/
def readAll (seen : List Text) : List Text → List Contact
  | [] => []
  | piece :: rest => (readPiece seen piece).1 :: readAll (readPiece seen piece).2 rest

/-- The text that a line addresses: what stands, trimmed, between the first angle bracket that opens
and the next one that closes, and the whole line if one of them is not there. -/
inductive Addresses : Text → Text → Prop
  | bracketed (before inside after : Text) (hbefore : 60 ∉ before) (hinside : 62 ∉ inside) :
    Addresses (before ++ 60 :: (inside ++ 62 :: after)) (trim inside)
  | unopened (line : Text) (hline : 60 ∉ line) : Addresses line line
  | unclosed (before rest : Text) (hbefore : 60 ∉ before) (hrest : 62 ∉ rest) :
    Addresses (before ++ 60 :: rest) (before ++ 60 :: rest)

section Scanner

variable {pasted : Text} {start stop : Nat} {seen : List Text}

theorem pieces_of_none (h : find separators.contains pasted start = none) :
    pieces (pasted.drop start) =
      [trim (substr pasted start none)].filter (· ≠ []) := by
  rw [pieces, List.splitOnP_eq_singleton (find_eq_none_iff.1 h), substr]
  rfl

theorem pieces_of_some (h : find separators.contains pasted start = some stop) :
    pieces (pasted.drop start) =
      [trim (substr pasted start (some (stop - start)))].filter (· ≠ []) ++
        pieces (pasted.drop (stop + 1)) := by
  obtain ⟨c, hc, hsplit, hbefore⟩ := drop_of_find h
  rw [pieces, hsplit, List.splitOnP_append_cons_of_forall_mem hbefore c hc, List.map_cons,
    ← List.singleton_append, List.filter_append, pieces]

/-- One piece, and then the others. -/
theorem takePiece_readAll (seen : List Text) (piece : Text) (rest : List Text)
    {lines : List Contact} (hroom : lines.length < mostLines) :
    let taken := takePiece piece lines seen
    taken.1 ++ readAll taken.2 (rest.take (mostLines - taken.1.length)) =
      lines ++
        readAll seen (([piece].filter (· ≠ []) ++ rest).take (mostLines - lines.length)) := by
  by_cases hempty : piece = []
  · simp [takePiece, hempty]
  · obtain ⟨room, hcount⟩ : ∃ room, mostLines - lines.length = room + 1 :=
      ⟨mostLines - lines.length - 1, by omega⟩
    have hless : mostLines - (lines.length + 1) = room := by omega
    simp [takePiece, hempty, hcount, hless, readAll]

/-- **The scanner reads the pieces one after another**, until there are enough lines. -/
theorem parseFrom_eq (pasted : Text) (start : Nat) (lines : List Contact) (seen : List Text)
    (hstart : start ≤ pasted.length) :
    parseFrom pasted start lines seen =
      lines ++ readAll seen ((pieces (pasted.drop start)).take (mostLines - lines.length)) := by
  fun_induction parseFrom pasted start lines seen with
  | case1 start lines seen hguard hnone =>
    have hlast := takePiece_readAll seen (trim (substr pasted start none)) [] hguard.2
    rw [pieces_of_none hnone]
    simpa [readAll] using hlast
  | case2 start lines seen hguard stop hsome taken ih =>
    rw [ih (le_of_find hsome).2, pieces_of_some hsome]
    exact takePiece_readAll _ _ _ hguard.2
  | case3 start lines seen hguard =>
    have hfull : mostLines - lines.length = 0 := by omega
    simp [hfull, readAll]

theorem parseContacts_eq (pasted : Text) :
    parseContacts pasted = readAll [] ((pieces pasted).take mostLines) := by
  rw [parseContacts, parseFrom_eq pasted 0 [] [] (Nat.zero_le _)]
  rfl

end Scanner

/-! ### What a line addresses -/

section Addressing

variable {line text before rest : Text}

theorem find_opening (hbefore : 60 ∉ before) :
    find (fun c : UInt8 => decide (c = 60)) (before ++ 60 :: rest) 0 = some before.length :=
  find_eq_some_iff.2 ⟨before, 60, rest, by simp, (Nat.zero_add _).symm, by decide, fun c hc => by
    simpa using ne_of_mem_of_not_mem hc hbefore⟩

theorem exists_addresses (line : Text) : ∃ text, Addresses line text := by
  by_cases hopen : (60 : UInt8) ∈ line
  · obtain ⟨before, rest, rfl, hbefore⟩ := List.eq_append_cons_of_mem hopen
    by_cases hclose : (62 : UInt8) ∈ rest
    · obtain ⟨inside, after, rfl, hinside⟩ := List.eq_append_cons_of_mem hclose
      exact ⟨_, .bracketed before inside after hbefore hinside⟩
    · exact ⟨_, .unclosed before rest hbefore hclose⟩
  · exact ⟨_, .unopened line hopen⟩

/-- **What a line addresses** is what the code takes from it. -/
theorem Addresses.addressed_eq (h : Addresses line text) : addressed line = text := by
  cases h with
  | bracketed before inside after hbefore hinside =>
    have hclosing : find (fun c : UInt8 => decide (c = 62))
        (before ++ 60 :: (inside ++ 62 :: after)) before.length =
          some (before.length + (inside.length + 1)) := by
      refine find_eq_some_iff.2 ⟨60 :: inside, 62, after, by simp, rfl, by decide, fun c hc => ?_⟩
      rcases List.mem_cons.1 hc with rfl | hc
      · decide
      · simpa using ne_of_mem_of_not_mem hc hinside
    have hcut : substr (before ++ 60 :: (inside ++ 62 :: after)) (before.length + 1)
        (some (before.length + (inside.length + 1) - before.length - 1)) = inside := by
      rw [substr, Nat.add_sub_cancel_left, Nat.add_sub_cancel, List.append_cons,
        List.drop_left' (by simp), List.take_left]
    rw [addressed, find_opening hbefore]
    dsimp only [Option.getD_some]
    rw [hclosing]
    dsimp only
    rw [if_neg (by omega), hcut]
  | unopened _ hline =>
    have hopening : find (fun c : UInt8 => decide (c = 60)) line 0 = none :=
      find_eq_none_iff.2 fun c hc => by simpa using ne_of_mem_of_not_mem hc hline
    rw [addressed, hopening]
  | unclosed before rest hbefore hrest =>
    have hclosing : find (fun c : UInt8 => decide (c = 62)) (before ++ 60 :: rest)
        before.length = none := by
      refine find_eq_none_iff.2 fun c hc => ?_
      rw [List.drop_left, List.mem_cons] at hc
      rcases hc with rfl | hc
      · decide
      · simpa using ne_of_mem_of_not_mem hc hrest
    rw [addressed, find_opening hbefore]
    dsimp only [Option.getD_some]
    rw [hclosing]

theorem addresses_addressed (line : Text) : Addresses line (addressed line) := by
  obtain ⟨text, htext⟩ := exists_addresses line
  rwa [htext.addressed_eq]

end Addressing

/-! ### Which texts are mails -/

section Mails

variable {text name host zone : Text}

end Mails

/-! ### What becomes of the lines -/

/-- A line that is read after these mails were seen and these lines came before it. -/
def IsReadAfter (seen : List Text) (early : List Contact) (line : Contact) : Prop :=
  match Email.parse (addressed line.raw) with
  | .error _ => line.mail = none ∧ line.verdict = .malformed
  | .ok mail => line.mail = some mail ∧
      ((mail.value ∈ seen ∨ ∃ other ∈ early, other.mail = some mail) ∧
          line.verdict = .repeatedInList ∨
        (mail.value ∉ seen ∧ ∀ other ∈ early, other.mail ≠ some mail) ∧ line.verdict = .ready)

section Lines

variable {seen parts : List Text} {piece : Text} {early late : List Contact} {line : Contact}

theorem Email.eq_of_value {a b : Email} (h : a.value = b.value) : a = b := by
  cases a
  cases b
  exact Email.mk.injEq _ _ _ _ ▸ h

theorem raw_readPiece (seen : List Text) (piece : Text) : (readPiece seen piece).1.raw = piece := by
  rw [readPiece]
  split
  · rfl
  · split <;> rfl

/-- What a piece adds to the mails that were seen is its own mail. -/
theorem mem_seen_readPiece {text : Text} : text ∈ (readPiece seen piece).2 ↔
    text ∈ seen ∨ ∃ mail, (readPiece seen piece).1.mail = some mail ∧ mail.value = text := by
  rw [readPiece]
  split
  · simp
  · rename_i mail _
    split
    · rename_i hseen
      simp only [Option.some_inj, exists_eq_left']
      exact ⟨Or.inl, fun h => h.elim id fun hmail => hmail ▸ hseen⟩
    · simp only [List.mem_cons, Option.some_inj, exists_eq_left']
      exact or_comm.trans (or_congr Iff.rfl eq_comm)

theorem isReadAfter_readPiece (seen : List Text) (piece : Text) :
    IsReadAfter seen [] (readPiece seen piece).1 := by
  rw [IsReadAfter, raw_readPiece]
  cases hparse : Email.parse (addressed piece) with
  | error error => simp [readPiece, hparse]
  | ok mail => by_cases hseen : mail.value ∈ seen <;> simp [readPiece, hparse, hseen]

/-- A line that came before counts as a mail that was seen. -/
theorem IsReadAfter.cons (h : IsReadAfter (readPiece seen piece).2 early line) :
    IsReadAfter seen ((readPiece seen piece).1 :: early) line := by
  unfold IsReadAfter at h ⊢
  split at h
  · exact h
  · rename_i mail hparse
    have hfirst : (readPiece seen piece).1.mail = some mail ↔ ∃ other,
        (readPiece seen piece).1.mail = some other ∧ other.value = mail.value :=
      ⟨fun hmail => ⟨mail, hmail, rfl⟩, fun ⟨other, hother, hvalue⟩ => by
        rw [hother, Email.eq_of_value hvalue]⟩
    rw [mem_seen_readPiece, ← hfirst] at h
    simpa only [List.mem_cons, exists_eq_or_imp, forall_eq_or_imp, or_assoc, not_or, and_assoc,
      ne_eq] using h

/-- **What becomes of a line** depends on the lines before it only. -/
theorem readAll_spec (h : readAll seen parts = early ++ line :: late) :
    IsReadAfter seen early line := by
  induction parts generalizing seen early with
  | nil => exact absurd h (by simp [readAll])
  | cons piece parts ih =>
    rw [readAll] at h
    cases early with
    | nil =>
      obtain ⟨rfl, -⟩ := List.cons.inj h
      exact isReadAfter_readPiece seen piece
    | cons first early =>
      obtain ⟨rfl, hrest⟩ := List.cons.inj h
      exact (ih hrest).cons

theorem map_raw_readAll (seen parts : List Text) : (readAll seen parts).map (·.raw) = parts := by
  induction parts generalizing seen with
  | nil => rfl
  | cons piece parts ih => rw [readAll, List.map_cons, raw_readPiece, ih]

theorem Contact.invites_eq_some_iff {mail : Email} :
    line.invites = some mail ↔ line.verdict = .ready ∧ line.mail = some mail := by
  rw [Contact.invites, Option.ite_none_right_eq_some]

/-- The mail of a line that is ready was not seen before. -/
theorem IsReadAfter.not_mem_of_invites (h : IsReadAfter seen early line) {mail : Email}
    (hinvites : line.invites = some mail) : ∀ other ∈ early, other.mail ≠ some mail := by
  obtain ⟨hready, hmail⟩ := Contact.invites_eq_some_iff.1 hinvites
  unfold IsReadAfter at h
  split at h
  · rw [h.1] at hmail
    cases hmail
  · obtain rfl := Option.some.inj (h.1.symm.trans hmail)
    rcases h.2 with ⟨-, hrepeated⟩ | ⟨⟨-, hfirst⟩, -⟩
    · rw [hready] at hrepeated
      cases hrepeated
    · exact hfirst

/-- The first line with a mail is ready. -/
theorem IsReadAfter.invites_of_first (h : IsReadAfter [] early line) {mail : Email}
    (hmail : line.mail = some mail) (hfirst : ∀ other ∈ early, other.mail ≠ some mail) :
    line.invites = some mail := by
  unfold IsReadAfter at h
  split at h
  · rw [h.1] at hmail
    cases hmail
  · obtain rfl := Option.some.inj (h.1.symm.trans hmail)
    rcases h.2 with ⟨hseen | ⟨other, hother, hsame⟩, -⟩ | ⟨-, hready⟩
    · exact absurd hseen List.not_mem_nil
    · exact absurd hsame (hfirst other hother)
    · exact Contact.invites_eq_some_iff.2 ⟨hready, hmail⟩

theorem pairwise_of_splits {α : Type} {R : α → α → Prop} {members : List α}
    (h : ∀ early b late, members = early ++ b :: late → ∀ a ∈ early, R a b) :
    members.Pairwise R := by
  induction members with
  | nil => exact List.Pairwise.nil
  | cons a members ih =>
    refine List.pairwise_cons.2 ⟨fun b hb => ?_, ih fun early b late hsplit c hc => ?_⟩
    · obtain ⟨early, late, rfl⟩ := List.append_of_mem hb
      exact h (a :: early) b late rfl a List.mem_cons_self
    · exact h (a :: early) b late (by rw [hsplit, List.cons_append]) c (List.mem_cons_of_mem a hc)

/-- **No two lines that are ready have one mail.** -/
theorem nodup_invites (parts : List Text) :
    ((readAll [] parts).filterMap Contact.invites).Nodup := by
  rw [List.Nodup, List.pairwise_filterMap]
  refine pairwise_of_splits fun early line late hsplit other hother a ha b hb hsame => ?_
  have hnew := (readAll_spec hsplit).not_mem_of_invites hb
  exact hnew other hother (hsame ▸ (Contact.invites_eq_some_iff.1 ha).2)

/-- Each mail has one line that is ready. -/
theorem countP_invites (parts : List Text) (hline : line ∈ readAll [] parts) {mail : Email}
    (hmail : line.mail = some mail) :
    (readAll [] parts).countP (fun other => other.invites = some mail) = 1 := by
  obtain ⟨first, hfirst⟩ : ∃ first,
      (readAll [] parts).find? (fun other => other.mail = some mail) = some first := by
    rw [← Option.isSome_iff_exists, List.find?_isSome]
    exact ⟨line, hline, by simpa using hmail⟩
  obtain ⟨hsame, early, late, hsplit, hbefore⟩ := List.find?_eq_some_iff_append.1 hfirst
  have hready : first.invites = some mail :=
    (readAll_spec hsplit).invites_of_first (by simpa using hsame) fun other hother => by
      simpa using hbefore other hother
  have hmem : mail ∈ (readAll [] parts).filterMap Contact.invites :=
    List.mem_filterMap.2 ⟨first, by simp [hsplit], hready⟩
  rw [← List.count_eq_one_of_mem (nodup_invites parts) hmem, List.count_filterMap]
  exact List.countP_congr fun other _ => by simp

/-- **A pasted list is read exactly.** The lines are the pieces of the text that are not empty, in
their order, up to the greatest number. A line is malformed exactly if what it addresses is no
mail, ready if it is a mail that no line before it has, and repeated if one has it. So no two lines
that are ready have one mail, and each mail has one line that is ready. -/
theorem contacts_are_read_exactly (pasted : Text) :
    let lines := parseContacts pasted
    lines.map (·.raw) = (pieces pasted).take mostLines ∧
      (∀ early line late, lines = early ++ line :: late → ∃ text, Addresses line.raw text ∧
        (∀ mail, line.mail = some mail ↔ Email.parse text = .ok mail) ∧
        (line.verdict = .malformed ↔ ∀ mail, Email.parse text ≠ .ok mail) ∧
        (line.verdict = .ready ↔
          ∃ mail, Email.parse text = .ok mail ∧ ∀ other ∈ early, other.mail ≠ some mail) ∧
        (line.verdict = .repeatedInList ↔
          ∃ mail, Email.parse text = .ok mail ∧ ∃ other ∈ early, other.mail = some mail)) ∧
      (lines.filterMap Contact.invites).Nodup ∧
      ∀ line ∈ lines, ∀ mail, line.mail = some mail →
        lines.countP (fun other => other.invites = some mail) = 1 := by
  intro lines
  have hlines : lines = readAll [] ((pieces pasted).take mostLines) := parseContacts_eq pasted
  rw [hlines]
  refine ⟨map_raw_readAll _ _, fun early line late hsplit => ?_, nodup_invites _,
    fun line hline mail hmail => countP_invites _ hline hmail⟩
  refine ⟨addressed line.raw, addresses_addressed line.raw, ?_⟩
  have hread := readAll_spec hsplit
  unfold IsReadAfter at hread
  split at hread
  · rename_i error herror
    obtain ⟨hmail, hverdict⟩ := hread
    simp [herror, hmail, hverdict]
  · rename_i mail hparse
    obtain ⟨hmail, ⟨hearlier, hverdict⟩ | ⟨⟨-, hfirst⟩, hverdict⟩⟩ := hread
    · have hearlier : ∃ other ∈ early, other.mail = some mail :=
        hearlier.resolve_left List.not_mem_nil
      simpa [hparse, hmail, hverdict] using hearlier
    · simpa [hparse, hmail, hverdict] using hfirst

end Lines

/-- The brackets hold a mail and a space behind it, and the line is ready. -/
theorem spaces_in_brackets_are_dropped :
    ∃ line ∈ parseContacts (ascii "<a@b.c >"), ∃ before inside after,
      line.raw = before ++ 60 :: (inside ++ 62 :: after) ∧ 60 ∉ before ∧ 62 ∉ inside ∧
        ¬ (line.verdict = .malformed ↔ ∀ mail, Email.parse inside ≠ .ok mail) := by
  rw [parseContacts_eq]
  refine ⟨⟨ascii "<a@b.c >", some (mailOf (ascii "a@b.c")), .ready⟩, ?_, [], ascii "a@b.c ", [], ?_,
    by simp, ?_, ?_⟩
  · decide +kernel
  · decide +kernel
  · decide +kernel
  · refine fun h => ContactVerdict.noConfusion (h.2 fun mail hmail => ?_)
    have hspace : Email.parse (ascii "a@b.c ") =
        .error ⟨.validation, "email_malformed", "адрес почты не похож на адрес почты"⟩ := by
      decide +kernel
    rw [hspace] at hmail
    cases hmail

end Pdr.Identity
