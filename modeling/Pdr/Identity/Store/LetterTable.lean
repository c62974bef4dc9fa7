import Pdr.Identity.Store.Laws

/-!
# Letters in the table of tokens

What sending letters and following their links does to the table of one-time tokens. Sending
appends tokens that were not there; following marks one token as used. Both keep two things: of
the invitations to one mail at most one is usable at a time, and no two tokens have one secret.

## Main definitions

* `Pdr.Identity.OneTimeToken.Invites`: an invitation of a mail to a tenant.
* `Pdr.Identity.LettersInOrder`: what is kept.
* `Pdr.Identity.SendsLetters`: letters are sent, or some of them.
* `Pdr.Identity.SpendsLetter`: a link has worked.

## Main results

* `Pdr.Identity.SendsLetters.inOrder`, `Pdr.Identity.SpendsLetter.inOrder`
-/

namespace Pdr.Identity

open StoreProgram

/-- The token is an invitation of the mail to the tenant. -/
def OneTimeToken.Invites (token : OneTimeToken) (tenant : TenantId) (mail : Digest) : Prop :=
  token.tenant = tenant ∧ token.purpose = .invitation ∧ token.invited = some mail

/-- Of the invitations to one mail at most one is usable at a moment by which both were sent, and
no two tokens have one secret. -/
structure LettersInOrder (table : Table OneTimeToken) : Prop where
  oneUsable : ∀ a ∈ table.rows, ∀ b ∈ table.rows, ∀ tenant mail,
    a.Invites tenant mail → b.Invites tenant mail →
      ∀ moment, a.createdAt ≤ moment → b.createdAt ≤ moment →
        a.isUsableAt moment = true → b.isUsableAt moment = true → a = b
  apart : ∀ a ∈ table.rows, ∀ b ∈ table.rows, a.secret = b.secret → a = b

theorem lettersInOrder_empty : LettersInOrder .empty :=
  ⟨fun _ ha => absurd ha List.not_mem_nil, fun _ ha => absurd ha List.not_mem_nil⟩

/-! ### Sending -/

/-- A token with the fingerprint of the text for a secret; if it is an invitation, no other to
the same mail is usable from its beginning on. -/
structure IsNewLetter (digests : Digests) (text : Text) (table : Table OneTimeToken)
    (token : OneTimeToken) : Prop where
  secret : token.secret = digests text
  alone : ∀ tenant mail, token.Invites tenant mail → ∀ row ∈ table.rows, row.Invites tenant mail →
    ∀ moment, token.createdAt ≤ moment → row.isUsableAt moment = false

/-- Letters with these secrets are sent one after another, or some of them. -/
inductive SendsLetters (digests : Digests) :
    List Text → Table OneTimeToken → Table OneTimeToken → Prop
  | nothing (texts : List Text) (table : Table OneTimeToken) :
      SendsLetters digests texts table table
  | skip {text : Text} {texts : List Text} {table table' : Table OneTimeToken}
      (later : SendsLetters digests texts table table') :
      SendsLetters digests (text :: texts) table table'
  | send {text : Text} {texts : List Text} {table between table' : Table OneTimeToken}
      {token : OneTimeToken} (isNew : IsNewLetter digests text table token)
      (issued : table.insert token = some between)
      (later : SendsLetters digests texts between table') :
      SendsLetters digests (text :: texts) table table'

section Sending

variable {digests : Digests} {text : Text} {texts : List Text} {table table' : Table OneTimeToken}
  {token : OneTimeToken}

/-- A new letter with a new secret. -/
theorem LettersInOrder.insert (h : LettersInOrder table)
    (hnew : IsNewLetter digests text table token) (hissued : table.insert token = some table')
    (hfresh : ∀ row ∈ table.rows, row.secret ≠ digests text) : LettersInOrder table' := by
  constructor
  · intro a ha b hb tenant mail hinvitesA hinvitesB moment hsentA hsentB husableA husableB
    rcases (Table.mem_insert hissued a).1 ha with holdA | rfl
    · rcases (Table.mem_insert hissued b).1 hb with holdB | rfl
      · exact h.oneUsable a holdA b holdB tenant mail hinvitesA hinvitesB moment hsentA hsentB
          husableA husableB
      · rw [hnew.alone tenant mail hinvitesB a holdA hinvitesA moment hsentB] at husableA
        cases husableA
    · rcases (Table.mem_insert hissued b).1 hb with holdB | rfl
      · rw [hnew.alone tenant mail hinvitesA b holdB hinvitesB moment hsentA] at husableB
        cases husableB
      · rfl
  · intro a ha b hb hsame
    rcases (Table.mem_insert hissued a).1 ha with holdA | rfl
    · rcases (Table.mem_insert hissued b).1 hb with holdB | rfl
      · exact h.apart a holdA b holdB hsame
      · exact absurd (hsame.trans hnew.secret) (hfresh a holdA)
    · rcases (Table.mem_insert hissued b).1 hb with holdB | rfl
      · exact absurd (hsame.symm.trans hnew.secret) (hfresh b holdB)
      · rfl

theorem SendsLetters.kept (h : SendsLetters digests texts table table') :
    ∀ row ∈ table.rows, row ∈ table'.rows := by
  induction h with
  | nothing texts table => exact fun row hrow => hrow
  | skip later ih => exact ih
  | send isNew issued later ih =>
    exact fun row hrow => ih row ((Table.mem_insert issued row).2 (Or.inl hrow))

/-- A token that is there after sending was there or has one of the secrets. -/
theorem SendsLetters.cases (h : SendsLetters digests texts table table') :
    ∀ row ∈ table'.rows, row ∈ table.rows ∨ row.secret ∈ texts.map digests := by
  induction h with
  | nothing texts table => exact fun row hrow => Or.inl hrow
  | skip later ih => exact fun row hrow => (ih row hrow).imp_right (List.mem_cons_of_mem _)
  | send isNew issued later ih =>
    intro row hrow
    rcases ih row hrow with hbetween | hsecret
    · rcases (Table.mem_insert issued row).1 hbetween with hold | rfl
      · exact Or.inl hold
      · exact Or.inr (isNew.secret ▸ List.mem_cons_self)
    · exact Or.inr (List.mem_cons_of_mem _ hsecret)

/-- Letters sent after others. -/
theorem SendsLetters.append {later : List Text} {between : Table OneTimeToken}
    (h : SendsLetters digests texts table between)
    (hlater : SendsLetters digests later between table') :
    SendsLetters digests (texts ++ later) table table' := by
  induction h with
  | nothing texts table =>
    induction texts with
    | nil => exact hlater
    | cons text texts ih => exact .skip ih
  | skip _ ih => exact .skip (ih hlater)
  | send isNew issued _ ih => exact .send isNew issued (ih hlater)

/-- Letters with new secrets are sent in order. -/
theorem SendsLetters.inOrder (h : SendsLetters digests texts table table')
    (hnodup : (texts.map digests).Nodup)
    (hfresh : ∀ row ∈ table.rows, row.secret ∉ texts.map digests)
    (horder : LettersInOrder table) : LettersInOrder table' := by
  induction h with
  | nothing texts table => exact horder
  | skip later ih =>
    refine ih (List.nodup_cons.1 hnodup).2 (fun row hrow hsecret => ?_) horder
    exact hfresh row hrow (List.mem_cons_of_mem _ hsecret)
  | @send text texts table between table' token isNew issued later ih =>
    obtain ⟨hfirst, hrest⟩ := List.nodup_cons.1 hnodup
    have hissued : LettersInOrder between :=
      horder.insert isNew issued fun row hrow hsame => hfresh row hrow (hsame ▸ List.mem_cons_self)
    refine ih hrest (fun row hrow hsecret => ?_) hissued
    rcases (Table.mem_insert issued row).1 hrow with hold | rfl
    · exact hfresh row hold (List.mem_cons_of_mem _ hsecret)
    · exact hfirst (isNew.secret ▸ hsecret)

end Sending

/-! ### Following -/

/-- A usable token is marked as used. -/
structure SpendsLetter (found : OneTimeToken) (now : Int) (table table' : Table OneTimeToken) :
    Prop where
  stored : found ∈ table.rows
  usable : found.isUsableAt now = true
  marked : TokenCall.exec (.markUsed { found with usedAt := some now }) table = (.ok (), table')

namespace SpendsLetter

variable {found : OneTimeToken} {now : Int} {table table' : Table OneTimeToken}

theorem usedAt_eq_none (h : SpendsLetter found now table table') : found.usedAt = none :=
  (OneTimeToken.isUsableAt_eq_true.1 h.usable).1

/-- The one row that the mark falls on. -/
theorem isChosen_iff (h : SpendsLetter found now table table') {row : OneTimeToken}
    (hrow : row ∈ table.rows) :
    (row.tenant = found.tenant && row.id = found.id && row.usedAt.isNone) = true ↔ row = found := by
  constructor
  · intro hchosen
    simp only [Bool.and_eq_true, decide_eq_true_eq] at hchosen
    exact table.eq_of_clash hrow h.stored (by simp [Schema.clash, hchosen.1])
  · rintro rfl
    simp [h.usedAt_eq_none]

/-- The rows after the mark: the others as they were, and the marked one. -/
theorem mem_iff (h : SpendsLetter found now table table') (row : OneTimeToken) :
    row ∈ table'.rows ↔ (row ∈ table.rows ∧ row ≠ found) ∨
      row = { found with usedAt := some now } := by
  obtain ⟨-, hmarked⟩ | ⟨hfailed, -⟩ := commit_eq h.marked
  · rw [Table.mem_updateWhere hmarked row]
    constructor
    · rintro ⟨old, hold, rfl⟩
      by_cases hsame : old = found
      · rw [if_pos ((h.isChosen_iff hold).2 hsame), hsame]
        exact Or.inr rfl
      · rw [if_neg (mt (h.isChosen_iff hold).1 hsame)]
        exact Or.inl ⟨hold, hsame⟩
    · rintro (⟨hold, hother⟩ | rfl)
      · exact ⟨row, hold, (if_neg (mt (h.isChosen_iff hold).1 hother)).symm⟩
      · exact ⟨found, h.stored, (if_pos ((h.isChosen_iff h.stored).2 rfl)).symm⟩
  · cases hfailed

theorem exists_secret (h : SpendsLetter found now table table') :
    ∀ row ∈ table'.rows, ∃ old ∈ table.rows, row.secret = old.secret := by
  intro row hrow
  rcases (h.mem_iff row).1 hrow with ⟨hold, -⟩ | rfl
  · exact ⟨row, hold, rfl⟩
  · exact ⟨found, h.stored, rfl⟩

/-- A used token is not usable, so nothing becomes usable by a mark. -/
theorem inOrder (h : SpendsLetter found now table table') (horder : LettersInOrder table) :
    LettersInOrder table' := by
  have hspent : ∀ moment,
      ({ found with usedAt := some now } : OneTimeToken).isUsableAt moment ≠ true :=
    fun moment => Bool.false_ne_true
  constructor
  · intro a ha b hb tenant mail hinvitesA hinvitesB moment hsentA hsentB husableA husableB
    rcases (h.mem_iff a).1 ha with ⟨holdA, -⟩ | rfl
    · rcases (h.mem_iff b).1 hb with ⟨holdB, -⟩ | rfl
      · exact horder.oneUsable a holdA b holdB tenant mail hinvitesA hinvitesB moment hsentA
          hsentB husableA husableB
      · exact absurd husableB (hspent moment)
    · exact absurd husableA (hspent moment)
  · intro a ha b hb hsame
    rcases (h.mem_iff a).1 ha with ⟨holdA, hotherA⟩ | rfl
    · rcases (h.mem_iff b).1 hb with ⟨holdB, -⟩ | rfl
      · exact horder.apart a holdA b holdB hsame
      · exact absurd (horder.apart a holdA found h.stored hsame) hotherA
    · rcases (h.mem_iff b).1 hb with ⟨holdB, hotherB⟩ | rfl
      · exact absurd (horder.apart b holdB found h.stored hsame.symm) hotherB
      · rfl

end SpendsLetter

end Pdr.Identity
