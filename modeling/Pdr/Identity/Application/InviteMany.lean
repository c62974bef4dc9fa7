import Pdr.Identity.Application.Attaching
import Pdr.StoreProgram.Alone

/-!
# Invitations by a list

A tutor who moves in pastes the mails of his students. The list is judged line by line, shown
to him, judged once more when he sends it, and each line that is ready then is an invitation of
its own: it is asked again whether one is live, and the first refusal ends the sending, with
the invitations before it sent.

## Main definitions

* `Pdr.Identity.Contact`: a line of the list with its verdict.
* `Pdr.Identity.judge`, `Pdr.Identity.inviteMany`
-/

namespace Pdr.Identity

open StoreProgram Program

/-! ### The list -/

/-- What becomes of a line. -/
inductive ContactVerdict where
  | ready
  | malformed
  | repeatedInList
  | alreadyInvited
  | alreadyEnrolled
deriving DecidableEq, Repr

/-- A line of the list: what was pasted, the mail in it, and what becomes of it. -/
structure Contact where
  raw : Text
  mail : Option Email
  verdict : ContactVerdict
deriving DecidableEq

/-- `Judged`. -/
def Contact.judged (line : Contact) (verdict : ContactVerdict) : Contact := { line with verdict }

/-- The mail of a line that is ready. -/
def Contact.invites (line : Contact) : Option Email :=
  if line.verdict = .ready then line.mail else none

/-- An invitation that was sent. -/
structure SentInvitation where
  mail : Email
  secret : TokenSecret
deriving DecidableEq

/-- What became of a list. -/
structure InvitationRun where
  judged : List Contact
  sent : List SentInvitation
deriving DecidableEq

/-! ### Judging and sending -/

/-- A line of `InviteMany::Judge`. -/
def judgeLine (ports : AuthPorts) (tenant : TenantId) (now : Int) (line : Contact) :
    Scenario Contact :=
  match line.invites with
  | none => return line
  | some mail => do
    let known ← ask (.directory (.knows tenant mail))
    if known then return line.judged .alreadyEnrolled
    else
      match ← ask (.tokens (.liveInvitationTo tenant (ports.digests mail.value) now)) with
      | some _ => return line.judged .alreadyInvited
      | none => return line

/-- `InviteMany::Judge`. Each line comes with what will be drawn if it is sent. -/
def judge (ports : AuthPorts) (tenant : TenantId) (now : Int) :
    List (Contact × Drawn) → Scenario (List (Contact × Drawn))
  | [] => return []
  | (line, drawn) :: lines => do
    let judged ← judgeLine ports tenant now line
    let others ← judge ports tenant now lines
    return (judged, drawn) :: others

/-- The loop of `InviteMany::Send`. -/
def sendAll (ports : AuthPorts) (tenant : TenantId) (role : Role) :
    List (Contact × Drawn) → Scenario (List SentInvitation)
  | [] => return []
  | (line, drawn) :: lines =>
    match line.invites with
    | none => sendAll ports tenant role lines
    | some mail => do
      let issued ← inviteParticipant ports drawn tenant role (some mail)
      let sent ← sendAll ports tenant role lines
      return ⟨mail, issued.secret⟩ :: sent

/-- `InviteMany::Send`. -/
def inviteMany (ports : AuthPorts) (drawn : Drawn) (tenant : TenantId) (role : Role)
    (lines : List (Contact × Drawn)) : Scenario InvitationRun := do
  let judged ← judge ports tenant (drawn.clock 0) lines
  let sent ← sendAll ports tenant role judged
  return ⟨judged.map (·.1), sent⟩

/-! ### What judging leaves -/

section Judging

variable {ports : AuthPorts} {tenant : TenantId} {now : Int} {db : Database}

/-- A line is judged by reading. -/
theorem yields_judgeLine (line : Contact) :
    (judgeLine ports tenant now line).Yields database (fun _ db' => db' = db) db := by
  unfold judgeLine
  cases line.invites with
  | none => rfl
  | some mail =>
    refine yields_perform_bind (fun _ _ h => by cases h) fun known db₁ hknown => ?_
    obtain rfl : db = db₁ := congrArg Prod.snd hknown
    cases known with
    | true => rfl
    | false =>
      refine yields_perform_bind (fun _ _ h => by cases h) fun live db₂ hlive => ?_
      obtain rfl : db = db₂ := congrArg Prod.snd hlive
      cases live <;> rfl

/-- A list is judged by reading, and each line keeps its draws. -/
theorem yields_judge (lines : List (Contact × Drawn)) :
    (judge ports tenant now lines).Yields database
      (fun answer db' => db' = db ∧
        ∀ judged, answer = .ok judged → judged.map (·.2) = lines.map (·.2)) db := by
  induction lines with
  | nil => exact ⟨rfl, fun judged h => by cases h; rfl⟩
  | cons pair lines ih =>
    obtain ⟨line, drawn⟩ := pair
    have hline : (judgeLine ports tenant now line).Yields database (fun _ db' => db' = db) db :=
      yields_judgeLine line
    refine Yields.bind (fun error db₁ hfailed => ?_) fun judged db₁ hjudged => ?_
    · exact ⟨hline.of_run hfailed, fun judged h => by cases h⟩
    obtain rfl : db₁ = db := hline.of_run hjudged
    refine Yields.bind (fun error db₂ hfailed => ?_) fun others db₂ hothers => ?_
    · exact ⟨(ih.of_run hfailed).1, fun judged h => by cases h⟩
    · obtain ⟨hsame, hdraws⟩ := ih.of_run hothers
      refine ⟨hsame, fun judged h => ?_⟩
      cases h
      rw [List.map_cons, List.map_cons, hdraws others rfl]

end Judging

end Pdr.Identity
