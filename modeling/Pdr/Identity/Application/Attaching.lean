import Pdr.Identity.Application.GuardianScopes
import Pdr.Identity.Application.OneTimeLinks
import Pdr.Identity.Store.Laws

/-!
# A mail for a child that was enrolled without one

A child is enrolled without a mail. Later the mail is attached: the registry of accounts gets
the child's own identifier under it, and an invitation is sent. Following the invitation
enrols the person of that account once more, and the directory has that person already. So
no invitation ever lets the child in.

## Main definitions

* `Pdr.Identity.attachAccount`
* `Pdr.Identity.LetsIn`: following the invitation makes the child and the mail one person.

## Main results

* `Pdr.Identity.hasPerson_of_enrolChild`: the child is in the directory from then on.
* `Pdr.Identity.acceptInvitation_ne_person`: nobody of the directory comes in by an invitation.
* `Pdr.Identity.attached_mail_never_lets_the_child_in`: so the child never does.
-/

namespace Pdr.Identity

open StoreProgram Program

/-- The draws of the part of an execution that comes after `count` readings of the clock. -/
def Drawn.later (drawn : Drawn) (count : Nat) : Drawn :=
  { drawn with clock := fun reading => drawn.clock (reading + count) }

/-- The account of the mail is somebody else's. -/
def accountBelongsToAnother : Error :=
  ⟨.conflict, "account_belongs_to_another", "этой почтой уже пользуется другой человек"⟩

/-- The registry has the child under the mail, or gets it now. -/
def claimMail (drawn : Drawn) (child : PersonId) (mail : Digest) : Scenario Unit := do
  match ← ask (.accounts (.findByMail mail)) with
  | some existing => if existing.id ≠ child then refuse accountBelongsToAnother else return ()
  | none => ask (.accounts (.save (Account.invited child mail (drawn.clock 0))))

/-- `AttachAccount::Execute`. -/
def attachAccount (ports : AuthPorts) (drawn : Drawn) (tenant : TenantId) (child : PersonId)
    (mail : Email) : Scenario IssuedLink := do
  claimMail drawn child (ports.digests mail.value)
  inviteParticipant ports (drawn.later 1) tenant .student (some mail)

/-- Following the invitation succeeds, the session is the child's, and the tenant has one
person of that identifier, who has the mail. -/
def LetsIn (ports : AuthPorts) (drawn : Drawn) (db : Database)
    (request : AcceptInvitationRequest) (child : PersonId) : Prop :=
  ∃ session db', (acceptInvitation ports drawn request).run database db = (.ok session, db') ∧
    session.person = child ∧
    (db'.people.rows.filter fun row => row.tenant = request.tenant && row.id = child).map (·.mail) =
      [some request.mail]

/-- A child that was enrolled is in the directory. -/
theorem hasPerson_of_enrolChild {drawn : Drawn} {request : EnrolChildRequest} {child : PersonId}
    {db db' : Database} (h : (enrolChild drawn request).run database db = (.ok child, db')) :
    db'.HasPerson request.tenant child := by
  simp only [enrolChild, run_ofExcept_bind_eq_ok, run_perform_bind_eq_ok, Result.orRefuse_eq_ok,
    pure_eq_done, run_done, Prod.mk.injEq, Except.ok.injEq] at h
  obtain ⟨enrolled, db₁, henrol, ⟨⟩, rfl, guardianship, -, ⟨⟩, db₂, hsave, rfl, rfl⟩ := h
  exact (Database.keeps_hasPerson _ _).of_exec hsave (Database.hasPerson_of_enrol henrol)

/-- An invitation lets nobody in whom the tenant's directory has already. -/
theorem acceptInvitation_ne_person {ports : AuthPorts} {drawn : Drawn}
    {request : AcceptInvitationRequest} {db db' : Database} {session : Session}
    {person : PersonId} (hperson : db.HasPerson request.tenant person)
    (h : (acceptInvitation ports drawn request).run database db = (.ok session, db')) :
    session.person ≠ person := by
  rintro rfl
  simp only [acceptInvitation, run_ofExcept_bind_eq_ok, run_perform_bind_eq_ok] at h
  obtain ⟨rules, -, lifetimes, -, found, db₁, hfind, hfollow⟩ := h
  have hkeeps := Database.keeps_hasPerson request.tenant session.person
  have hperson₁ := hkeeps.of_exec hfind hperson
  cases found with
  | none => cases hfollow
  | some found =>
    dsimp only at hfollow
    split at hfollow
    · simp only [followInvitation, run_ofExcept_bind_eq_ok] at hfollow
      obtain ⟨used, -, chosen, -, hash, -, hrest⟩ := hfollow
      obtain ⟨account, db₂, haccount, hafter⟩ := run_bind_eq_ok _ hrest
      have hperson₂ := keeps_of_run _ hkeeps haccount hperson₁
      simp only [openSession, Session.open_of_pos lifetimes.positive.1, run_ofExcept_bind_eq_ok,
        run_perform_bind_eq_ok, Result.orRefuse_eq_ok, pure_eq_done, run_done, Prod.mk.injEq,
        Except.ok.injEq] at hafter
      obtain ⟨enrolled, db₃, henrol, ⟨⟩, rfl, ⟨⟩, db₄, -, ⟨⟩, db₅, -, opened, rfl, ⟨⟩, db₆, -,
        rfl, -⟩ := hafter
      exact Database.enrol_ne_ok_of_hasPerson hperson₂ henrol
    · cases hfollow

/-- **The mail never lets the child in.** A child was enrolled, anything else happened, a mail
was attached to it, anything else happened. Then no following of an invitation in the tenant,
at no moment and by no secret or mail, makes the child and the mail one person. -/
theorem attached_mail_never_lets_the_child_in {ports ports' : AuthPorts}
    {drawn₁ drawn₂ drawn₃ : Drawn} {enrolled : EnrolChildRequest} {child : PersonId} {mail : Email}
    {link : IssuedLink} {between later : List Call} {db db₁ db₂ : Database}
    {request : AcceptInvitationRequest}
    (henrol : (enrolChild drawn₁ enrolled).run database db = (.ok child, db₁))
    (hattach : (attachAccount ports drawn₂ enrolled.tenant child mail).run database
      (database.after between db₁) = (.ok link, db₂))
    (htenant : request.tenant = enrolled.tenant) :
    ¬ LetsIn ports' drawn₃ (database.after later db₂) request child := by
  rintro ⟨session, db', haccept, hsession, -⟩
  have hkeeps := Database.keeps_hasPerson request.tenant child
  have hperson : db₁.HasPerson request.tenant child := by
    rw [htenant]
    exact hasPerson_of_enrolChild henrol
  have hattached : db₂.HasPerson request.tenant child :=
    keeps_of_run _ hkeeps hattach (hkeeps.after between hperson)
  exact acceptInvitation_ne_person (hkeeps.after later hattached) haccept hsession

/-! ### A child and its first mail -/

/-- The child is enrolled at moment 10. -/
def childHome : Except Fault PersonId × Database :=
  (enrolChild (drawnAt 10 1) childEnrolled).run database {}

/-- The mail of the child. -/
def childMail : Email := mailOf (ascii "c@b.c")

/-- The mail is attached at moment 20. -/
def childInvited : Except Fault IssuedLink × Database :=
  (attachAccount standIn (drawnAt 20 3) (repeated 7) (repeated 1) childMail).run database
    childHome.2

/-- The secret of its letter. -/
def childSecret : TokenSecret := ⟨List.replicate 43 68, by decide⟩

/-- What `AttachAccount` returned: an invitation for an hour. -/
def childLink : IssuedLink :=
  ⟨⟨repeated 3, repeated 7, standInDigest childSecret.value, .invitation, some .student, none,
    some (standInDigest childMail.value), 20, 3600000020, none, points_invitation .student⟩,
    childSecret⟩

/-- The child follows the link with its mail and a good password. -/
def childAccepts : AcceptInvitationRequest where
  tenant := repeated 7
  secret := childSecret
  displayName := childEnrolled.displayName
  mail := childMail
  bornOn := childEnrolled.bornOn
  zone := childEnrolled.zone
  password := ascii "password"
  seen := ⟨standInDigest [], standInDigest []⟩

/-- The mail was attached, and at moment 30 the invitation does not let the child in. -/
theorem first_mail_does_not_let_the_child_in :
    ¬ LetsIn standIn (drawnAt 30 5) (database.after [] childInvited.2) childAccepts
      (repeated 1) := by
  have henrol : (enrolChild (drawnAt 10 1) childEnrolled).run database {} =
      (.ok (repeated 1), childHome.2) :=
    Prod.ext (by decide +kernel : childHome.1 = .ok (repeated 1)) rfl
  have hattach : (attachAccount standIn (drawnAt 20 3) childEnrolled.tenant (repeated 1)
      childMail).run database (database.after [] childHome.2) = (.ok childLink, childInvited.2) :=
    Prod.ext (by decide +kernel : childInvited.1 = .ok childLink) rfl
  exact attached_mail_never_lets_the_child_in henrol hattach rfl

/-- Nobody knew the mail, it was attached, the link is live and fits; following it breaks the
primary key of the directory, and nothing is changed by it. -/
theorem first_mail_breaks_the_directory :
    childHome.1 = .ok (repeated 1) ∧ childHome.2.accounts.rows = [] ∧
      (childHome.2.people.rows.all fun row => row.mail ≠ some childMail) = true ∧
      childInvited.1 = .ok childLink ∧ childLink.token.isUsableAt 30 = true ∧
      ((acceptInvitation standIn (drawnAt 30 5) childAccepts).run database childInvited.2).1 =
        .error (.thrown (.schemaViolation "identity_person")) ∧
      ¬ LetsIn standIn (drawnAt 30 5) childInvited.2 childAccepts (repeated 1) := by
  have houtcome : ((acceptInvitation standIn (drawnAt 30 5) childAccepts).run database
      childInvited.2).1 = .error (.thrown (.schemaViolation "identity_person")) := by
    decide +kernel
  refine ⟨by decide +kernel, by decide +kernel, by decide +kernel, by decide +kernel,
    by decide +kernel, houtcome, ?_⟩
  rintro ⟨session, db', haccept, -⟩
  rw [haccept] at houtcome
  cases houtcome

end Pdr.Identity
