import Pdr.Identity.Application.WaysIn

/-!
# The mail attached to a child

Attaching a mail asks whether the mail has an account and not whether the child has one. The
registry has two keys, and a save that meets the identifier of a stored account leaves the mail
of that account as it was. So the second mail attached to a child is reported as attached, is
sent an invitation, and is nowhere in the registry.

## Main definitions

* `Pdr.Identity.Database.Attached`: each of the two lookups finds the other key.
* `Pdr.Identity.attachedBy`: the child and the mail that a turn attached.

## Main results

* `Pdr.Identity.attached_iff_of_claimMail`: what a claim that succeeded leaves.
* `Pdr.Identity.attached_mail_is_registered`: exactly when the registry keeps what was promised.
* `Pdr.Identity.second_mail_is_nowhere`: a child with two mails attached.
-/

namespace Pdr.Identity

open StoreProgram Program

/-- The account of the mail is the child's, and the account of the child has the mail. -/
def Database.Attached (child : PersonId) (mail : Digest) (db : Database) : Prop :=
  (db.accounts.find? (·.mail = mail)).map (·.id) = some child ∧
    (db.accounts.find? (·.id = child)).map (·.mail) = some mail

/-- Whatever account the child has is under this mail. -/
def Database.HasNoOtherMail (child : PersonId) (mail : Digest) (db : Database) : Prop :=
  ∀ row ∈ db.accounts.rows, row.id = child → row.mail = mail

/-- The child and the mail that a turn attached, if it succeeded. -/
def attachedBy (t : OrderTurn) : Option (PersonId × Email) :=
  match t.entry with
  | ⟨⟨_, _, _, .attachAccount _ child mail⟩, .ok _⟩ => some (child, mail)
  | _ => none

section Claim

variable {db db' : Database} {child : PersonId} {mail : Digest} {drawn : Drawn}

theorem attached_iff :
    db.Attached child mail ↔ ∃ row ∈ db.accounts.rows, row.id = child ∧ row.mail = mail := by
  simp only [Database.Attached, Option.map_eq_some_iff, accounts_find?_mail_eq_some,
    accounts_find?_id_eq_some]
  constructor
  · rintro ⟨⟨row, ⟨hrow, hmail⟩, hid⟩, -⟩
    exact ⟨row, hrow, hid, hmail⟩
  · rintro ⟨row, hrow, hid, hmail⟩
    exact ⟨⟨row, ⟨hrow, hmail⟩, hid⟩, row, ⟨hrow, hid⟩, hmail⟩

/-- A claim that succeeded found the child under the mail, or saved him under it. -/
theorem claimMail_returned (h : (claimMail drawn child mail).run database db = (.ok (), db')) :
    (db.Attached child mail ∧ db' = db) ∨
      (db.IsUnclaimed mail ∧
        AccountCall.exec (.save (Account.invited child mail (drawn.clock 0))) db.accounts =
          (.ok (), db'.accounts)) := by
  obtain ⟨found, between, hfind, hrest⟩ := (run_perform_bind_eq_ok database).1 h
  obtain rfl : db = between := congrArg Prod.snd hfind
  have hfound : db.accounts.find? (·.mail = mail) = found := Except.ok.inj (congrArg Prod.fst hfind)
  cases found with
  | none =>
    rw [run_perform, exec_accounts] at hrest
    obtain ⟨hanswer, rfl⟩ := Prod.mk.inj hrest
    exact Or.inr ⟨hfound, Prod.ext hanswer rfl⟩
  | some existing =>
    dsimp only at hrest
    by_cases hid : existing.id = child
    · obtain ⟨hrow, hmail⟩ := accounts_find?_mail_eq_some.1 hfound
      refine Or.inl ⟨attached_iff.2 ⟨existing, hrow, hid, hmail⟩, ?_⟩
      rw [if_neg (not_not.2 hid)] at hrest
      exact (congrArg Prod.snd hrest).symm
    · rw [if_pos hid] at hrest
      cases hrest

/-- **What a claim that succeeded leaves.** The child is under the mail exactly when he was not
under another one. -/
theorem attached_iff_of_claimMail
    (h : (claimMail drawn child mail).run database db = (.ok (), db')) :
    db'.Attached child mail ↔ db.HasNoOtherMail child mail := by
  rcases claimMail_returned h with ⟨hattached, rfl⟩ | ⟨hunclaimed, hsave⟩
  · refine iff_of_true hattached fun row hrow hid => ?_
    obtain ⟨stored, hstored, hstoredId, hmail⟩ := attached_iff.1 hattached
    obtain rfl : row = stored :=
      db'.accounts.eq_of_clash hrow hstored (by simp [Schema.clash, hid, hstoredId])
    exact hmail
  have hother := isUnclaimed_iff.1 hunclaimed
  rw [attached_iff]
  constructor
  · -- A row changed by the save keeps its mail, and no row had this one.
    rintro ⟨row, hrow, -, hmail⟩
    rcases (mem_accounts_of_save hsave).1 hrow with ⟨old, hold, rfl⟩ | ⟨-, habsent⟩
    · refine absurd ?_ (hother old hold)
      split at hmail <;> exact hmail
    · exact fun old hold hid => absurd hid (habsent old hold)
  · intro hnoOther
    refine ⟨Account.invited child mail (drawn.clock 0),
      (mem_accounts_of_save hsave).2 (Or.inr ⟨rfl, fun old hold hid => ?_⟩), rfl, rfl⟩
    exact hother old hold (hnoOther old hold hid)

end Claim

section Run

variable {digests : Digests} {hasher : PasswordHasher} {t : OrderTurn} {db db' : Database}
  {child : PersonId} {mail : Digest}

/-- The registry after a mail was attached. -/
theorem attached_iff_of_attachedBy {address : Email}
    (hexec : (application digests hasher).exec t.entry.op t.before = (t.entry.answer, t.after))
    (hattached : attachedBy t = some (child, address)) :
    t.after.Attached child (digests address.value) ↔
      t.before.HasNoOtherMail child (digests address.value) := by
  obtain ⟨⟨⟩, ⟨⟨settings, rule, drawn, intent⟩, answer⟩, before, after⟩ := t
  cases intent with
  | attachAccount tenant attachedChild attachedMail =>
    cases answer with
    | error fault => cases hattached
    | ok link =>
      obtain ⟨rfl, rfl⟩ := Prod.mk.inj (Option.some.inj hattached)
      obtain ⟨⟨⟩, between, hclaim, hinvite⟩ := run_bind_eq_ok database hexec
      have hsame := (accounts_belong.yields (footprint_inviteParticipant ..) (by decide) _).of_run
        hinvite
      rw [← attached_iff_of_claimMail hclaim, attached_iff, attached_iff, hsame]
  | _ => cases answer <;> cases hattached

/-- No scenario takes a mail from the account that has it. -/
theorem attached_of_exec
    (hexec : (application digests hasher).exec t.entry.op t.before = (t.entry.answer, t.after))
    (h : t.before.Attached child mail) : t.after.Attached child mail := by
  rw [attached_iff] at h ⊢
  obtain ⟨row, hrow, hid, hmail⟩ := h
  rcases accounts_of_turn hexec with hsame | ⟨account, -, hsave⟩
  · exact ⟨row, hsame ▸ hrow, hid, hmail⟩
  · refine ⟨_, (mem_accounts_of_save hsave).2 (Or.inl ⟨row, hrow, rfl⟩), ?_⟩
    split <;> exact ⟨hid, hmail⟩

/-- **The registry keeps what was promised** exactly where the child had no account under
another mail. In any run, a turn that attached a mail leaves the child under it if and only if
the child was under no other mail before; from then on no turn of the run changes that; and no
two accounts of a registry share an identifier or a mail. -/
theorem attached_mail_is_registered {steps : List OrderTurn}
    (hrun : Linked (application digests hasher) db steps db') :
    (∀ t ∈ steps, ∀ child address, attachedBy t = some (child, address) →
      (t.after.Attached child (digests address.value) ↔
        t.before.HasNoOtherMail child (digests address.value))) ∧
    (∀ early t late child mail, steps = early ++ t :: late → t.after.Attached child mail →
      (∀ u ∈ late, u.after.Attached child mail) ∧ db'.Attached child mail) ∧
    (∀ t ∈ steps, ∀ a ∈ t.after.accounts.rows, ∀ b ∈ t.after.accounts.rows,
      a.id = b.id ∨ a.mail = b.mail → a = b) := by
  refine ⟨fun t ht child address => attached_iff_of_attachedBy (hrun.exec_eq ht), ?_, ?_⟩
  · rintro early t late child mail rfl hattached
    have hlate := hrun.split.2.2
    have hkept : ∀ u ∈ late, u.before.Attached child mail → u.after.Attached child mail :=
      fun u hu => attached_of_exec (hlate.exec_eq hu)
    have hbefore := hlate.holds_before hkept hattached
    exact ⟨fun u hu => hkept u hu (hbefore u hu), hlate.keeps hkept hattached⟩
  · rintro t - a ha b hb hshared
    refine t.after.accounts.eq_of_clash ha hb ?_
    rcases hshared with hid | hmail
    · simp [Schema.clash, hid]
    · simp [Schema.clash, hmail]

end Run

/-! ### A second mail -/

/-- A child of a practice, who has no account yet, gets a mail. -/
def practiceOfChild : List OrderTurn × Database :=
  turns workedApplication [orderAt 5 7 (.openPractice (practiceOpened ownerMail))] {}

/-- The guardian attaches a mail to the child. -/
def attachesMail (now : Int) (byte : UInt8) (mail : Email) : Order :=
  orderAt now byte (.attachAccount (repeated 7) (repeated 1) mail)

/-- The turn in which the mail is attached. -/
def firstMailAttached : OrderTurn :=
  turn workedApplication (attachesMail 20 3 childMail) practiceOfChild.2

theorem firstMailAttached_linked :
    Linked workedApplication {} (practiceOfChild.1 ++ [firstMailAttached])
      firstMailAttached.after :=
  turns_linked_turn workedApplication _ [] _ {}

/-- The first mail of a child stays his. -/
theorem first_mail_is_registered :
    firstMailAttached.after.Attached (repeated 1) (standInDigest childMail.value) := by
  have hattached : attachedBy firstMailAttached = some (repeated 1, childMail) := by rfl
  refine ((attached_mail_is_registered firstMailAttached_linked).1 firstMailAttached (by simp) _ _
    hattached).2 ?_
  have hrows : (practiceOfChild.2.accounts.rows.all fun row => row.id ≠ repeated 1) = true := by
    decide +kernel
  intro row hrow hid
  exact absurd hid (of_decide_eq_true (List.all_eq_true.1 hrows row hrow))

/-- A mail that is attached afterwards. -/
def otherMail : Email := mailOf (ascii "d@b.c")

/-- Later the same child gets another mail. -/
def secondMailAttached : OrderTurn :=
  turn workedApplication (attachesMail 30 15 otherMail) firstMailAttached.after

/-- **The second mail is nowhere.** The child has one mail; another is attached, the call
succeeds and issues an invitation to it; no account has it, and the account of the child still
has the first. -/
theorem second_mail_is_nowhere :
    Linked workedApplication {} (practiceOfChild.1 ++ [firstMailAttached, secondMailAttached])
        secondMailAttached.after ∧
      attachedBy secondMailAttached = some (repeated 1, otherMail) ∧
      secondMailAttached.after.IsUnclaimed (standInDigest otherMail.value) ∧
      (secondMailAttached.after.accounts.find? (·.id = repeated 1)).map (·.mail) =
        some (standInDigest childMail.value) ∧
      ¬ secondMailAttached.after.Attached (repeated 1) (standInDigest otherMail.value) := by
  have hunclaimed : secondMailAttached.after.IsUnclaimed (standInDigest otherMail.value) := by
    rw [isUnclaimed_iff]
    decide +kernel
  have hrun : Linked workedApplication {} ((practiceOfChild.1 ++ [firstMailAttached]) ++
      [secondMailAttached]) secondMailAttached.after :=
    Linked.append.2 ⟨_, firstMailAttached_linked, rfl, rfl, rfl⟩
  rw [List.append_assoc] at hrun
  refine ⟨hrun, rfl, hunclaimed, by decide +kernel, ?_⟩
  rintro ⟨hfound, -⟩
  rw [Database.IsUnclaimed] at hunclaimed
  rw [hunclaimed] at hfound
  cases hfound

end Pdr.Identity
