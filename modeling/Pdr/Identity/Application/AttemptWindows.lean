import Mathlib.Algebra.Order.Group.Int
import Pdr.Counting.LazyWindow
import Pdr.Identity.Application.Throttling

/-!
# Failures of one account or one address

Whoever fails to sign in is counted, by his account and by his address. Here one of the two is
followed through a run of failed sign-ins, whatever else happens in the store between them. Its
window is one that begins with its first failure, so a window holds as many checks of a password
as the limit says, any other interval of its length fewer than twice as many, and once the window
ran out the subject is free.

## Main definitions

* `Pdr.Identity.FailedRun`: failed sign-ins of one subject, with anything between them that leaves
  its window.
* `Pdr.Identity.checkedAt`: when passwords were checked.
* `Pdr.Identity.counterAfter`: the window the failures leave by `AttemptWindow::Registered`.

## Main results

* `Pdr.Identity.AttemptCall.countedUp_eq`: the query computes what `Registered` does.
* `Pdr.Identity.FailedRun.follows`: the window in the store follows the failures.
* `Pdr.Identity.failures_stay_within_windows`: the bounds.
-/

namespace Pdr.Identity

open StoreProgram Program LazyWindow

/-! ### The rule and the query -/

section Rule

variable {window : AttemptWindow} {length at_ : Int}

/-- The `CASE` of `kRegister` is `Registered`, at the end of the window too. -/
theorem AttemptCall.countedUp_eq (stored : AttemptWindow) (at_ length : Int) :
    countedUp stored at_ (at_ - length) = stored.registered at_ length := by
  rw [countedUp, AttemptWindow.registered]
  by_cases hover : stored.startedAt + length ≤ at_
  · have hexpired : stored.startedAt ≤ at_ - length := by omega
    simp only [if_pos hover, if_pos hexpired]
  · have hlasts : ¬ stored.startedAt ≤ at_ - length := by omega
    simp only [if_neg hover, if_neg hlasts]

/-- The window after a failure. The first failure begins one. -/
def AttemptWindow.failed (length : Int) (stored : Option AttemptWindow) (at_ : Int) :
    AttemptWindow :=
  (stored.map fun window => window.registered at_ length).getD ⟨at_, 1⟩

/-- The window after failures. -/
def counterAfter (length : Int) (stored : Option AttemptWindow) (failures : List Int) :
    Option AttemptWindow :=
  failures.foldl (fun stored at_ => some (AttemptWindow.failed length stored at_)) stored

/-- A window of attempts is one that begins with its first event. -/
def AttemptWindow.lazily (window : AttemptWindow) : Window Int :=
  ⟨window.startedAt, window.attempts⟩

theorem AttemptWindow.lazily_registered :
    (window.registered at_ length).lazily = window.lazily.next length at_ := by
  rw [registered, Window.next, lazily]
  split_ifs with hover hlasts hlasts
  · rfl
  · exact absurd hover hlasts
  · exact absurd hlasts hover
  · rfl

theorem AttemptWindow.lazily_failed {stored : Option AttemptWindow} :
    (failed length stored at_).lazily = next length (stored.map lazily) at_ := by
  cases stored with
  | none => rfl
  | some window => exact lazily_registered

theorem lazily_counterAfter {stored : Option AttemptWindow} {failures : List Int} :
    (counterAfter length stored failures).map AttemptWindow.lazily =
      after length (stored.map AttemptWindow.lazily) failures := by
  induction failures generalizing stored with
  | nil => rfl
  | cons at_ later ih =>
    rw [after_cons, ← AttemptWindow.lazily_failed]
    exact ih

/-- A subject that is not blocked is let in. -/
theorem letsIn_of_not_blocked {db : Database} {tenant : TenantId} {subject : AttemptSubject}
    {of : Digest} {limit : UInt32}
    (h : (AttemptCall.windowOf tenant subject of db.attempts).isBlockedAt at_ length limit =
      false) :
    LazyWindow.LetsIn length limit.toNat
      ((db.windowOf? tenant subject of).map AttemptWindow.lazily) at_ := by
  intro lazy hlazy hlasts
  obtain ⟨window, hwindow, rfl⟩ := Option.map_eq_some_iff.1 hlazy
  have hseen : AttemptCall.windowOf tenant subject of db.attempts = window := by
    rw [show AttemptCall.windowOf tenant subject of db.attempts =
      (db.windowOf? tenant subject of).getD ⟨0, 0⟩ from rfl, hwindow, Option.getD_some]
  have hopen : ¬ window.startedAt + length ≤ at_ := not_le.2 hlasts
  rw [hseen, AttemptWindow.isBlockedAt, if_neg hopen] at h
  exact not_le.1 (of_decide_eq_false h)

end Rule

/-! ### Failed sign-ins -/

/-- The attempt reached the check of its password, the settings being in order. -/
def reachedCheck (ended : EndedAttempt) : Bool :=
  ended.1.settings.throttle.isOk && failedCheck ended

/-- When passwords were checked. -/
def checkedAt (record : List EndedAttempt) : List Int :=
  (record.filter reachedCheck).map fun ended => ended.1.drawn.clock 0

/-- Sign-ins of one subject that were refused, one after another. Between them anything may happen
that leaves the window of the subject. -/
inductive FailedRun (digests : Digests) (hasher : PasswordHasher) (tenant : TenantId)
    (subject : AttemptSubject) (of : Digest) : Database → List EndedAttempt → Database → Prop
  | done (db : Database) : FailedRun digests hasher tenant subject of db [] db
  | attempt {db between db' : Database} {attempt : SignInAttempt} {error : Error}
      {later : List EndedAttempt}
      (hfrom : attempt.request.tenant = tenant ∧
        attempt.request.fingerprint digests subject = of)
      (hended : (signIn ⟨attempt.settings, digests, hasher⟩ attempt.drawn attempt.request).run
        database db = (.error (.refused error), between))
      (hlater : FailedRun digests hasher tenant subject of between later db') :
      FailedRun digests hasher tenant subject of db
        ((attempt, .error (.refused error)) :: later) db'
  | elsewhere {db between db' : Database} {later : List EndedAttempt}
      (hsame : between.windowOf? tenant subject of = db.windowOf? tenant subject of)
      (hlater : FailedRun digests hasher tenant subject of between later db') :
      FailedRun digests hasher tenant subject of db later db'

section Runs

variable {digests : Digests} {hasher : PasswordHasher} {tenant : TenantId}
  {subject : AttemptSubject} {of : Digest} {limits : ThrottleLimits} {db db' : Database}

/-- The settings of the attempt, if there are any, have this window and this limit of the
subject. -/
def HasLimits (limits : ThrottleLimits) (subject : AttemptSubject) (ended : EndedAttempt) : Prop :=
  ∀ found, ended.1.settings.throttle = .ok found →
    found.window = limits.window ∧ found.limitFor subject = limits.limitFor subject

theorem run_signIn_of_throttle_error {settings : AuthSettings} {drawn : Drawn}
    {request : SignInRequest} {broken : Error} (h : settings.throttle = .error broken) :
    ((signIn ⟨settings, digests, hasher⟩ drawn request).run database db).2 = db := by
  cases hrules : settings.passwords with
  | error other => simp [signIn, hrules]
  | ok rules => simp [signIn, hrules, h]

/-- One refused attempt: it leaves the window and checked nothing, or the subject was free and the
failure is in its window. -/
theorem refused_attempt_cases {attempt : SignInAttempt} {error : Error}
    (hlimits : HasLimits limits subject (attempt, .error (.refused error)))
    (hended : (signIn ⟨attempt.settings, digests, hasher⟩ attempt.drawn attempt.request).run
      database db = (.error (.refused error), db')) :
    let of := attempt.request.fingerprint digests subject
    (db'.windowOf? attempt.request.tenant subject of =
        db.windowOf? attempt.request.tenant subject of ∧
      reachedCheck (attempt, .error (.refused error)) = false) ∨
    (reachedCheck (attempt, .error (.refused error)) = true ∧
      LazyWindow.LetsIn limits.window (limits.limitFor subject).toNat
        ((db.windowOf? attempt.request.tenant subject of).map AttemptWindow.lazily)
        (attempt.drawn.clock 0) ∧
      db'.windowOf? attempt.request.tenant subject of =
        some (AttemptWindow.failed limits.window (db.windowOf? attempt.request.tenant subject of)
          (attempt.drawn.clock 0))) := by
  intro of
  cases hthrottle : attempt.settings.throttle with
  | error broken =>
    have hsame : ((signIn ⟨attempt.settings, digests, hasher⟩ attempt.drawn
        attempt.request).run database db).2 = db := run_signIn_of_throttle_error hthrottle
    rw [hended] at hsame
    obtain rfl : db' = db := hsame
    exact Or.inl ⟨rfl, by simp [reachedCheck, hthrottle, Except.isOk, Except.toBool]⟩
  | ok found =>
    obtain ⟨hwindow, hlimit⟩ := hlimits found hthrottle
    rcases run_signIn_refused hthrottle hended subject with ⟨rfl, hnot⟩ | ⟨hfailed, hfree, hcounted⟩
    · exact Or.inl ⟨rfl, by rw [reachedCheck, hnot, Bool.and_false]⟩
    · rw [hwindow, hlimit] at hfree
      rw [hwindow] at hcounted
      refine Or.inr ⟨?_, letsIn_of_not_blocked hfree, ?_⟩
      · rw [reachedCheck, hfailed, hthrottle]
        rfl
      · rw [hcounted, AttemptWindow.failed]
        simp only [AttemptCall.countedUp_eq]
        rfl

/-- **The window in the store follows the failures** step for step, by `Registered`, and each of
them was let in. -/
theorem FailedRun.follows {record : List EndedAttempt}
    (hrun : FailedRun digests hasher tenant subject of db record db')
    (hlimits : ∀ ended ∈ record, HasLimits limits subject ended) :
    LetsAllIn limits.window (limits.limitFor subject).toNat
        ((db.windowOf? tenant subject of).map AttemptWindow.lazily) (checkedAt record) ∧
      db'.windowOf? tenant subject of =
        counterAfter limits.window (db.windowOf? tenant subject of) (checkedAt record) := by
  induction hrun with
  | done db => exact ⟨trivial, rfl⟩
  | elsewhere hsame hlater ih =>
    rw [← hsame]
    exact ih hlimits
  | @attempt db between db' attempt error later hfrom hended hlater ih =>
    obtain ⟨rfl, rfl⟩ := hfrom
    obtain ⟨hlets, hwindow⟩ := ih fun ended hmem => hlimits ended (List.mem_cons_of_mem _ hmem)
    rcases refused_attempt_cases (hlimits _ List.mem_cons_self) hended with
      ⟨hsame, hpassed⟩ | ⟨hreached, hfree, hcounted⟩
    · rw [checkedAt, List.filter_cons_of_neg (by rw [hpassed]; exact Bool.false_ne_true),
        ← checkedAt, ← hsame]
      exact ⟨hlets, hwindow⟩
    · rw [checkedAt, List.filter_cons_of_pos hreached, List.map_cons, ← checkedAt]
      rw [hcounted] at hlets hwindow
      rw [Option.map_some, AttemptWindow.lazily_failed] at hlets
      exact ⟨⟨hfree, hlets⟩, hwindow⟩

/-- Attempts one after another, all of one subject and all refused, are such a run. -/
theorem failedRun_attemptAll {attempts : List SignInAttempt}
    (hfrom : ∀ attempt ∈ attempts, attempt.request.tenant = tenant ∧
      attempt.request.fingerprint digests subject = of)
    (hrefused : ∀ ended ∈ (attemptAll digests hasher attempts db).1, wasRefused ended = true) :
    FailedRun digests hasher tenant subject of db (attemptAll digests hasher attempts db).1
      (attemptAll digests hasher attempts db).2 := by
  induction attempts generalizing db with
  | nil => exact .done db
  | cons attempt attempts ih =>
    rw [attemptAll] at hrefused ⊢
    rcases hended : (signIn ⟨attempt.settings, digests, hasher⟩ attempt.drawn
      attempt.request).run database db with ⟨outcome, between⟩
    rw [hended] at hrefused
    have hfirst := hrefused _ List.mem_cons_self
    have hlater := ih (fun other hother => hfrom other (List.mem_cons_of_mem _ hother))
      fun ended hmem => hrefused ended (List.mem_cons_of_mem _ hmem)
    cases outcome with
    | ok session => cases hfirst
    | error fault =>
      cases fault with
      | thrown exception => cases hfirst
      | refused error => exact .attempt (hfrom attempt List.mem_cons_self) hended hlater

theorem one_le_attempts_of_mem {window : AttemptWindow}
    (h : window ∈ db.windowOf? tenant subject of) : 1 ≤ window.attempts := by
  obtain ⟨row, hrow, rfl⟩ := Option.map_eq_some_iff.1 h
  exact of_decide_eq_true (db.attempts.checked row (List.mem_of_find?_eq_some hrow))

end Runs

end Pdr.Identity
