import Pdr.Identity.Application.SigningIn
import Pdr.Identity.Store.Laws

/-!
# How many passwords can be tried from one address

Failures are counted by account and by address, and a full window lets no password be
checked. A sign-in that succeeds makes both counts forgotten, so what is bounded is the
number of failures between two successes: within one interval of the window's length no
stretch of refused attempts holds more failed checks than the limit of the address. Whoever
has an account of his own may use it to begin a new stretch.

The bound is carried by the window of the address. Within the interval it either has not
begun, or it began inside and holds exactly the failures counted since.

## Main definitions

* `Pdr.Identity.attemptAll`: attempts one after another, with how each of them ended.
* `Pdr.Identity.failedCheck`: an attempt that reached the check of its password and failed it.
* `Pdr.Identity.Settled`, `Pdr.Identity.counted`: the invariant of the window and what it counts.

## Main results

* `Pdr.Identity.refused_step`: what a refused attempt does to the count.
* `Pdr.Identity.settled_step`: what any attempt does to the invariant.
* `Pdr.Identity.failed_checks_between_successes_le_limit`: the bound.
-/

namespace Pdr.Identity

open StoreProgram Program

/-- One attempt to sign in, with the settings in force. -/
structure SignInAttempt where
  settings : AuthSettings
  drawn : Drawn
  request : SignInRequest

/-- An attempt with how it ended. -/
abbrev EndedAttempt : Type := SignInAttempt × Except Fault Session

/-- The attempts one after another: the record of how they ended, and the store after them. -/
def attemptAll (digests : Digests) (hasher : PasswordHasher) :
    List SignInAttempt → Database → List EndedAttempt × Database
  | [], db => ([], db)
  | attempt :: attempts, db =>
    let ended := (signIn ⟨attempt.settings, digests, hasher⟩ attempt.drawn
      attempt.request).run database db
    let later := attemptAll digests hasher attempts ended.2
    ((attempt, ended.1) :: later.1, later.2)

/-- The attempt reached the check of its password and failed it: the settings were in order,
and it was refused for the mail or the password. -/
def failedCheck (ended : EndedAttempt) : Bool :=
  ended.1.settings.passwords.isOk && ended.1.settings.lifetimes.isOk &&
    decide (ended.2 = .error (.refused signInRefused))

/-- By what the failures of a sign-in are counted. -/
def SignInRequest.fingerprint (digests : Digests) (request : SignInRequest) :
    AttemptSubject → Digest
  | .account => accountFingerprint digests request.tenant request.mail
  | .address => request.seen.address

/-- The attempt was refused, for whatever reason. -/
def wasRefused (ended : EndedAttempt) : Bool :=
  match ended.2 with
  | .error (.refused _) => true
  | _ => false

/-! ### What a sign-in does to the counts -/

section Counts

variable {digests : Digests} {hasher : PasswordHasher} {settings : AuthSettings} {drawn : Drawn}
  {request : SignInRequest} {limits : ThrottleLimits} {db db' : Database}

theorem run_refuseIfBlocked (tenant : TenantId) (limits : ThrottleLimits) (now : Int)
    (subject : AttemptSubject) (of : Digest) (db : Database) :
    (refuseIfBlocked tenant limits now subject of).run database db =
      (if (AttemptCall.windowOf tenant subject of db.attempts).isBlockedAt now limits.window
          (limits.limitFor subject) then .error (.refused signInThrottled) else .ok (), db) := by
  simp only [refuseIfBlocked, run_bind, run_perform, exec_attempts, AttemptCall.exec]
  split <;> rfl

theorem throttled_of_run {tenant : TenantId} {now : Int} {subject : AttemptSubject} {of : Digest}
    {error : Error} (h : (refuseIfBlocked tenant limits now subject of).run database db =
      (.error (.refused error), db')) : error = signInThrottled ∧ db' = db := by
  rw [run_refuseIfBlocked] at h
  split at h
  · obtain ⟨herror, rfl⟩ := Prod.mk.inj h
    exact ⟨(Fault.refused.inj (Except.error.inj herror)).symm, rfl⟩
  · cases congrArg Prod.fst h

theorem free_of_run {tenant : TenantId} {now : Int} {subject : AttemptSubject} {of : Digest}
    (h : (refuseIfBlocked tenant limits now subject of).run database db = (.ok (), db')) :
    (AttemptCall.windowOf tenant subject of db.attempts).isBlockedAt now limits.window
      (limits.limitFor subject) = false ∧ db' = db := by
  rw [run_refuseIfBlocked] at h
  split at h
  · cases congrArg Prod.fst h
  · rename_i hfree
    obtain ⟨-, rfl⟩ := Prod.mk.inj h
    exact ⟨Bool.eq_false_iff.2 hfree, rfl⟩

/-- Ending the session one came with is never refused. -/
theorem revokeCurrent_ne_refused (current : Option SessionId) (now : Int) (error : Error) :
    (revokeCurrent current now).run database db ≠ (.error (.refused error), db') := by
  intro h
  cases current with
  | none => cases congrArg Prod.fst h
  | some id =>
    rcases (run_bind_eq_error _).1 h with hfind | ⟨found, between, -, hrest⟩
    · exact run_ask_ne_refused _ _ _ _ hfind
    · cases found with
      | none => cases congrArg Prod.fst hrest
      | some previous => exact run_ask_ne_refused _ _ _ _ hrest

/-- Opening the session is never refused: lifetimes are positive. -/
theorem openSession_ne_refused {lifetimes : AuthLifetimes} {tenant : TenantId}
    {person : PersonId} {now : Int} {seen : Fingerprint} (error : Error) :
    (openSession lifetimes drawn tenant person now seen).run database db ≠
      (.error (.refused error), db') := by
  intro h
  rcases (run_bind_eq_error _).1 h with haccept | ⟨opened, between, -, hrest⟩
  · rw [Session.open_of_pos lifetimes.positive.1] at haccept
    cases congrArg Prod.fst haccept
  rcases (run_bind_eq_error _).1 hrest with hsave | ⟨⟨⟩, between', -, hlast⟩
  · exact run_ask_ne_refused _ _ _ _ hsave
  · cases congrArg Prod.fst hlast

/-- Once the password has let somebody in, the sign-in is not refused. -/
theorem concludeSignIn_ne_refused {lifetimes : AuthLifetimes} {account : Digest}
    {person : PersonId} (error : Error) :
    (concludeSignIn lifetimes limits drawn request account (some person)).run database db ≠
      (.error (.refused error), db') := by
  intro h
  rcases (run_bind_eq_error _).1 h with hforget | ⟨⟨⟩, db₁, -, hrest⟩
  · exact run_ask_ne_refused _ _ _ _ hforget
  rcases (run_bind_eq_error _).1 hrest with hforget | ⟨⟨⟩, db₂, -, hlast⟩
  · exact run_ask_ne_refused _ _ _ _ hforget
  rcases (run_bind_eq_error _).1 hlast with hrevoke | ⟨⟨⟩, db₃, -, hopen⟩
  · exact revokeCurrent_ne_refused _ _ _ hrevoke
  · exact openSession_ne_refused _ hopen

/-- A password that did not fit is counted against the account and the address and refused. -/
theorem run_concludeSignIn_none {lifetimes : AuthLifetimes} {error : Error}
    (h : (concludeSignIn lifetimes limits drawn request
      (accountFingerprint digests request.tenant request.mail) none).run database db =
        (.error (.refused error), db')) (subject : AttemptSubject) :
    error = signInRefused ∧
      db'.windowOf? request.tenant subject (request.fingerprint digests subject) =
        some (((db.windowOf? request.tenant subject (request.fingerprint digests subject)).map
          fun stored => AttemptCall.countedUp stored (drawn.clock 0)
            (drawn.clock 0 - limits.window)).getD ⟨drawn.clock 0, 1⟩) := by
  rcases (run_bind_eq_error _).1 h with hregister | ⟨window₁, db₁, hfirst, hrest⟩
  · exact absurd hregister (run_ask_ne_refused _ _ _ _)
  rcases (run_bind_eq_error _).1 hrest with hregister | ⟨window₂, db₂, hsecond, hlast⟩
  · exact absurd hregister (run_ask_ne_refused _ _ _ _)
  rw [run_perform] at hfirst hsecond
  obtain ⟨herror, rfl⟩ := Prod.mk.inj hlast
  refine ⟨(Fault.refused.inj (Except.error.inj herror)).symm, ?_⟩
  -- Each of the two registrations leaves the window of the other.
  cases subject with
  | account =>
    have hsame : (database.exec (.attempts (.register request.tenant .address
        request.seen.address (drawn.clock 0) limits.window)) db₁).2.windowOf? request.tenant
        .account (accountFingerprint digests request.tenant request.mail) =
          db₁.windowOf? request.tenant .account
            (accountFingerprint digests request.tenant request.mail) :=
      Database.windowOf?_register_other (by simp)
    rw [hsecond] at hsame
    rw [SignInRequest.fingerprint, hsame, Database.windowOf?_register hfirst]
  | address =>
    have hsame : (database.exec (.attempts (.register request.tenant .account
        (accountFingerprint digests request.tenant request.mail) (drawn.clock 0)
        limits.window)) db).2.windowOf? request.tenant .address request.seen.address =
          db.windowOf? request.tenant .address request.seen.address :=
      Database.windowOf?_register_other (by simp)
    rw [hfirst] at hsame
    rw [SignInRequest.fingerprint, Database.windowOf?_register hsecond, hsame]

/-- A refused sign-in either touched no window and checked no password, or it checked one
while neither of its subjects was blocked and counted the failure against both. -/
theorem run_signIn_refused {error : Error} (hlimits : settings.throttle = .ok limits)
    (h : (signIn ⟨settings, digests, hasher⟩ drawn request).run database db =
      (.error (.refused error), db')) (subject : AttemptSubject) :
    (db' = db ∧ failedCheck (⟨settings, drawn, request⟩, .error (.refused error)) = false) ∨
      (failedCheck (⟨settings, drawn, request⟩, .error (.refused error)) = true ∧
        (AttemptCall.windowOf request.tenant subject (request.fingerprint digests subject)
          db.attempts).isBlockedAt (drawn.clock 0) limits.window (limits.limitFor subject) =
            false ∧
        db'.windowOf? request.tenant subject (request.fingerprint digests subject) =
          some (((db.windowOf? request.tenant subject (request.fingerprint digests subject)).map
            fun stored => AttemptCall.countedUp stored (drawn.clock 0)
              (drawn.clock 0 - limits.window)).getD ⟨drawn.clock 0, 1⟩)) := by
  cases hrules : settings.passwords with
  | error broken =>
    simp only [signIn, hrules] at h
    obtain ⟨-, rfl⟩ := Prod.mk.inj h
    exact Or.inl ⟨rfl, by simp [failedCheck, hrules, Except.isOk, Except.toBool]⟩
  | ok rules =>
    cases hlifetimes : settings.lifetimes with
    | error broken =>
      simp only [signIn, hrules, hlimits, hlifetimes] at h
      obtain ⟨-, rfl⟩ := Prod.mk.inj h
      exact Or.inl ⟨rfl, by simp [failedCheck, hlifetimes, Except.isOk, Except.toBool]⟩
    | ok lifetimes =>
      simp only [signIn, hrules, hlimits, hlifetimes, accept_ok, done_bind] at h
      -- Until the password is checked nothing is written, and a block is not a failed check.
      have hthrottled : signInThrottled ≠ signInRefused := by decide
      rcases (run_bind_eq_error _).1 h with hblocked | ⟨⟨⟩, db₁, haccount, hrest⟩
      · obtain ⟨rfl, rfl⟩ := throttled_of_run hblocked
        exact Or.inl ⟨rfl, by simp [failedCheck, hthrottled]⟩
      obtain ⟨hfreeAccount, rfl⟩ := free_of_run haccount
      rcases (run_bind_eq_error _).1 hrest with hblocked | ⟨⟨⟩, db₂, haddress, hlast⟩
      · obtain ⟨rfl, rfl⟩ := throttled_of_run hblocked
        exact Or.inl ⟨rfl, by simp [failedCheck, hthrottled]⟩
      obtain ⟨hfreeAddress, rfl⟩ := free_of_run haddress
      rcases (run_bind_eq_error _).1 hlast with hfind | ⟨found, db₃, hfound, hconclude⟩
      · exact absurd hfind (run_ask_ne_refused _ _ _ _)
      rw [run_perform, exec_credentials] at hfound
      obtain ⟨-, rfl⟩ := Prod.mk.inj hfound
      cases hmatched : matchedPerson hasher (Password.given request.secret) found with
      | some person =>
        rw [hmatched] at hconclude
        exact absurd hconclude (concludeSignIn_ne_refused error)
      | none =>
        rw [hmatched] at hconclude
        obtain ⟨rfl, hcounted⟩ := run_concludeSignIn_none hconclude subject
        refine Or.inr ⟨?_, ?_, hcounted⟩
        · simp [failedCheck, hrules, hlifetimes, Except.isOk, Except.toBool]
        · cases subject with
          | account => exact hfreeAccount
          | address => exact hfreeAddress

/-- A call that leaves the counts as they are. -/
def LeavesCounts : Call → Prop
  | .attempts (.register ..) => False
  | .attempts (.forget ..) => False
  | _ => True

theorem only_refuseIfBlocked {allowed : Call → Prop}
    (hquiet : ∀ call, LeavesCounts call → allowed call) (tenant : TenantId)
    (limits : ThrottleLimits) (now : Int) (subject : AttemptSubject) (of : Digest) :
    (refuseIfBlocked tenant limits now subject of).Only allowed := by
  refine Honours.bind ((honours_perform _).2 (hquiet _ trivial)) fun seen => ?_
  split <;> trivial

theorem only_revokeCurrent {allowed : Call → Prop}
    (hquiet : ∀ call, LeavesCounts call → allowed call) (current : Option SessionId) (now : Int) :
    (revokeCurrent current now).Only allowed := by
  cases current with
  | none => trivial
  | some id =>
    refine Honours.bind ((honours_perform _).2 (hquiet _ trivial)) fun found => ?_
    cases found with
    | none => trivial
    | some previous => exact (honours_perform _).2 (hquiet _ trivial)

theorem only_openSession {allowed : Call → Prop}
    (hquiet : ∀ call, LeavesCounts call → allowed call) (lifetimes : AuthLifetimes)
    (tenant : TenantId) (person : PersonId) (now : Int) (seen : Fingerprint) :
    (openSession lifetimes drawn tenant person now seen).Only allowed := by
  refine Honours.bind (honours_ofExcept _) fun opened => ?_
  exact Honours.bind ((honours_perform _).2 (hquiet _ trivial)) fun _ => trivial

/-- Of the counts a sign-in writes those of its own account and address: it registers a failure at
its own moment, for the window in force, or it forgets. -/
theorem only_signIn {allowed : Call → Prop} (hquiet : ∀ call, LeavesCounts call → allowed call)
    (hregister : ∀ limits, settings.throttle = .ok limits → ∀ subject,
      allowed (.attempts (.register request.tenant subject (request.fingerprint digests subject)
        (drawn.clock 0) limits.window)))
    (hforget : ∀ subject, allowed (.attempts (.forget request.tenant subject
      (request.fingerprint digests subject)))) :
    (signIn ⟨settings, digests, hasher⟩ drawn request).Only allowed := by
  unfold signIn
  refine Honours.bind (honours_ofExcept _) fun _ => ?_
  cases hlimits : settings.throttle with
  | error broken => trivial
  | ok limits =>
    simp only [accept_ok, done_bind]
    refine Honours.bind (honours_ofExcept _) fun lifetimes => ?_
    refine Honours.bind (only_refuseIfBlocked hquiet ..) fun _ => ?_
    refine Honours.bind (only_refuseIfBlocked hquiet ..) fun _ => ?_
    refine Honours.bind ((honours_perform _).2 (hquiet _ trivial)) fun found => ?_
    cases matchedPerson hasher (Password.given request.secret) found with
    | none =>
      refine Honours.bind ((honours_perform _).2 (hregister limits hlimits .account)) fun _ => ?_
      refine Honours.bind ((honours_perform _).2 (hregister limits hlimits .address)) fun _ => ?_
      trivial
    | some person =>
      refine Honours.bind ((honours_perform _).2 (hforget .account)) fun _ => ?_
      refine Honours.bind ((honours_perform _).2 (hforget .address)) fun _ => ?_
      exact Honours.bind (only_revokeCurrent hquiet ..) fun _ => only_openSession hquiet ..

end Counts

/-! ### The window of the address -/

section Address

variable {digests : Digests} {hasher : PasswordHasher} {limits : ThrottleLimits} {begin_ : Int}
  {tenant : TenantId} {address : Digest} {db db' : Database}

/-- The window of the address ran out before the interval, or began inside it. -/
def Settled (begin_ length : Int) (tenant : TenantId) (address : Digest) (db : Database) : Prop :=
  ∀ window ∈ db.windowOf? tenant .address address,
    window.startedAt + length ≤ begin_ ∨ begin_ ≤ window.startedAt

/-- The failures counted inside the interval. -/
def counted (begin_ : Int) (tenant : TenantId) (address : Digest) (db : Database) : Nat :=
  match db.windowOf? tenant .address address with
  | some window => if begin_ ≤ window.startedAt then window.attempts else 0
  | none => 0

/-- An address that is not blocked has room for one more failure. -/
theorem counted_lt_limit {now : Int}
    (hnow : begin_ ≤ now ∧ now < begin_ + limits.window)
    (hfree : (AttemptCall.windowOf tenant .address address db.attempts).isBlockedAt now
      limits.window limits.perAddress = false) :
    counted begin_ tenant address db < limits.perAddress.toNat := by
  have hpositive : 0 < limits.perAddress.toNat := by
    have hleast := UInt32.le_iff_toNat_le.1 limits.atLeastOne.2
    have hone : leastLimit.toNat = 1 := rfl
    omega
  have hwindow : AttemptCall.windowOf tenant .address address db.attempts =
      (db.windowOf? tenant .address address).getD ⟨0, 0⟩ := rfl
  rw [hwindow] at hfree
  unfold counted
  cases hstored : db.windowOf? tenant .address address with
  | none => exact hpositive
  | some window =>
    rw [hstored, Option.getD_some, AttemptWindow.isBlockedAt] at hfree
    by_cases hinside : begin_ ≤ window.startedAt
    · have hopen : ¬ window.startedAt + limits.window ≤ now := by omega
      rw [if_neg hopen, decide_eq_false_iff_not] at hfree
      simp only [if_pos hinside]
      omega
    · simpa only [if_neg hinside] using hpositive

/-- One more failure inside the interval is counted, whichever window it falls into. -/
theorem counted_of_counted_up {now : Int}
    (hsettled : Settled begin_ limits.window tenant address db)
    (hnow : begin_ ≤ now ∧ now < begin_ + limits.window)
    (hcounted : db'.windowOf? tenant .address address =
      some (((db.windowOf? tenant .address address).map fun stored =>
        AttemptCall.countedUp stored now (now - limits.window)).getD ⟨now, 1⟩)) :
    Settled begin_ limits.window tenant address db' ∧
      counted begin_ tenant address db' = counted begin_ tenant address db + 1 := by
  cases hstored : db.windowOf? tenant .address address with
  | none =>
    rw [hstored, Option.map_none, Option.getD_none] at hcounted
    refine ⟨?_, ?_⟩
    · intro window hwindow
      rw [hcounted] at hwindow
      obtain rfl := Option.some.inj hwindow
      exact Or.inr hnow.1
    · simp only [counted, hcounted, hstored, if_pos hnow.1]
  | some window =>
    rw [hstored, Option.map_some, Option.getD_some, AttemptCall.countedUp] at hcounted
    rcases hsettled window hstored with hover | hinside
    · have hexpired : window.startedAt ≤ now - limits.window := by omega
      have hbefore : ¬ begin_ ≤ window.startedAt := by
        have hlasts := limits.lasts
        omega
      simp only [if_pos hexpired] at hcounted
      refine ⟨?_, ?_⟩
      · intro later hlater
        rw [hcounted] at hlater
        obtain rfl := Option.some.inj hlater
        exact Or.inr hnow.1
      · simp only [counted, hcounted, hstored, if_pos hnow.1, if_neg hbefore]
    · have hopen : ¬ window.startedAt ≤ now - limits.window := by omega
      simp only [if_neg hopen] at hcounted
      refine ⟨?_, ?_⟩
      · intro later hlater
        rw [hcounted] at hlater
        obtain rfl := Option.some.inj hlater
        exact Or.inr hinside
      · simp only [counted, hcounted, hstored, if_pos hinside]

/-- A refused attempt inside the interval counts its failed check, for which there was room. -/
theorem refused_step {settings : AuthSettings} {drawn : Drawn} {request : SignInRequest}
    {error : Error} (hlimits : settings.throttle = .ok limits)
    (hfrom : request.tenant = tenant ∧ request.seen.address = address)
    (hnow : begin_ ≤ drawn.clock 0 ∧ drawn.clock 0 < begin_ + limits.window)
    (hsettled : Settled begin_ limits.window tenant address db)
    (h : (signIn ⟨settings, digests, hasher⟩ drawn request).run database db =
      (.error (.refused error), db')) :
    Settled begin_ limits.window tenant address db' ∧
      ((failedCheck (⟨settings, drawn, request⟩, .error (.refused error)) = false ∧
          counted begin_ tenant address db' = counted begin_ tenant address db) ∨
        (failedCheck (⟨settings, drawn, request⟩, .error (.refused error)) = true ∧
          counted begin_ tenant address db < limits.perAddress.toNat ∧
          counted begin_ tenant address db' = counted begin_ tenant address db + 1)) := by
  obtain ⟨rfl, rfl⟩ := hfrom
  rcases run_signIn_refused hlimits h .address with ⟨rfl, hnot⟩ | ⟨hfailed, hfree, hcounted⟩
  · exact ⟨hsettled, Or.inl ⟨hnot, rfl⟩⟩
  · obtain ⟨hsettled', hone⟩ := counted_of_counted_up hsettled hnow hcounted
    exact ⟨hsettled', Or.inr ⟨hfailed, counted_lt_limit hnow hfree, hone⟩⟩

/-! ### Attempts that are not refused -/

/-- A failure is registered inside the interval, for a window of the length in force. -/
def registersInside (begin_ length : Int) : Call → Prop
  | .attempts (.register _ _ _ at_ window) =>
    (begin_ ≤ at_ ∧ at_ < begin_ + length) ∧ window = length
  | _ => True

/-- A sign-in registers failures inside the interval that it is made in. -/
theorem registersInside_signIn {settings : AuthSettings} {drawn : Drawn} {request : SignInRequest}
    (hlimits : settings.throttle = .ok limits)
    (hnow : begin_ ≤ drawn.clock 0 ∧ drawn.clock 0 < begin_ + limits.window) :
    (signIn ⟨settings, digests, hasher⟩ drawn request).Only
      (registersInside begin_ limits.window) := by
  refine only_signIn ?_ ?_ fun _ => trivial
  · intro call hquiet
    cases call with
    | attempts call =>
      cases call with
      | register tenant subject of at_ window => exact absurd hquiet id
      | _ => trivial
    | _ => trivial
  · intro found hfound subject
    obtain rfl := Except.ok.inj (hlimits.symm.trans hfound)
    exact ⟨hnow, rfl⟩

/-- Calls that register failures inside the interval keep the window settled. -/
theorem settled_of_registersInside (call : Call)
    (hinside : registersInside begin_ limits.window call) (db : Database)
    (hsettled : Settled begin_ limits.window tenant address db) :
    Settled begin_ limits.window tenant address (database.exec call db).2 := by
  cases call with
  | attempts call =>
    cases call with
    | seen tenant' subject of => exact hsettled
    | forget tenant' subject of =>
      by_cases hkey : (tenant', subject, of) = (tenant, .address, address)
      · obtain ⟨rfl, rfl, rfl⟩ := hkey
        intro window hwindow
        rw [Database.windowOf?_forget] at hwindow
        cases hwindow
      · intro window hwindow
        rw [Database.windowOf?_forget_other hkey] at hwindow
        exact hsettled window hwindow
    | register tenant' subject of at_ length =>
      obtain ⟨hat, rfl⟩ := hinside
      by_cases hkey : (tenant', subject, of) = (tenant, .address, address)
      · obtain ⟨rfl, rfl, rfl⟩ := hkey
        rcases hexec : database.exec (.attempts (.register tenant .address address at_
          limits.window)) db with ⟨answer, db'⟩
        cases answer with
        | error fault =>
          rw [Database.eq_of_register_error hexec]
          exact hsettled
        | ok answer =>
          exact (counted_of_counted_up hsettled hat (Database.windowOf?_register hexec)).1
      · intro window hwindow
        rw [Database.windowOf?_register_other hkey] at hwindow
        exact hsettled window hwindow
  | _ => exact hsettled

/-- Every attempt inside the interval keeps the window settled. -/
theorem settled_step {settings : AuthSettings} {drawn : Drawn} {request : SignInRequest}
    (hlimits : settings.throttle = .ok limits)
    (hnow : begin_ ≤ drawn.clock 0 ∧ drawn.clock 0 < begin_ + limits.window)
    (hsettled : Settled begin_ limits.window tenant address db) :
    Settled begin_ limits.window tenant address
      ((signIn ⟨settings, digests, hasher⟩ drawn request).run database db).2 :=
  run_keeps_of_only settled_of_registersInside (registersInside_signIn hlimits hnow) hsettled

end Address

/-! ### The bound -/

section Bound

variable {digests : Digests} {hasher : PasswordHasher} {limits : ThrottleLimits} {begin_ : Int}
  {tenant : TenantId} {address : Digest}

/-- The attempt is of this tenant and address, under these limits, inside the interval. -/
def isWithin (limits : ThrottleLimits) (begin_ : Int) (tenant : TenantId) (address : Digest)
    (attempt : SignInAttempt) : Prop :=
  attempt.settings.throttle = .ok limits ∧
    (attempt.request.tenant = tenant ∧ attempt.request.seen.address = address) ∧
    (begin_ ≤ attempt.drawn.clock 0 ∧ attempt.drawn.clock 0 < begin_ + limits.window)

instance (attempt : SignInAttempt) : Decidable (isWithin limits begin_ tenant address attempt) :=
  inferInstanceAs (Decidable (_ ∧ (_ ∧ _) ∧ _ ∧ _))

/-- From a settled store, refused attempts fail no more checks than there is room for. -/
theorem failed_checks_le_room (attempts : List SignInAttempt) {db : Database}
    {refused late : List EndedAttempt}
    (hwithin : ∀ attempt ∈ attempts, isWithin limits begin_ tenant address attempt)
    (hsettled : Settled begin_ limits.window tenant address db)
    (hrecord : (attemptAll digests hasher attempts db).1 = refused ++ late)
    (hrefused : ∀ ended ∈ refused, wasRefused ended = true) :
    refused.countP failedCheck ≤
      limits.perAddress.toNat - counted begin_ tenant address db := by
  induction attempts generalizing db refused with
  | nil =>
    obtain ⟨rfl, -⟩ := List.append_eq_nil_iff.1 hrecord.symm
    exact Nat.zero_le _
  | cons attempt attempts ih =>
    cases refused with
    | nil => exact Nat.zero_le _
    | cons ended refused =>
      simp only [attemptAll, List.cons_append, List.cons.injEq] at hrecord
      obtain ⟨rfl, hlater⟩ := hrecord
      obtain ⟨hlimits, hfrom, hnow⟩ := hwithin attempt List.mem_cons_self
      have hfirst := hrefused _ List.mem_cons_self
      rcases hrun : (signIn ⟨attempt.settings, digests, hasher⟩ attempt.drawn
        attempt.request).run database db with ⟨outcome, db'⟩
      rw [hrun] at hlater hfirst
      obtain ⟨error, rfl⟩ : ∃ error, outcome = .error (.refused error) := by
        cases outcome with
        | ok session => cases hfirst
        | error fault =>
          cases fault with
          | refused error => exact ⟨error, rfl⟩
          | thrown exception => cases hfirst
      obtain ⟨hsettled', hcount⟩ := refused_step hlimits hfrom hnow hsettled hrun
      have hrest := ih (fun attempt h => hwithin attempt (List.mem_cons_of_mem _ h)) hsettled'
        hlater fun ended h => hrefused ended (List.mem_cons_of_mem _ h)
      rcases hcount with ⟨hpassed, hsame⟩ | ⟨hfailed, hroom, hmore⟩
      · rw [List.countP_cons_of_neg (by rw [hpassed]; exact Bool.false_ne_true), ← hsame]
        exact hrest
      · rw [List.countP_cons_of_pos hfailed]
        omega

end Bound

/-! ### A class behind one address -/

/-- Windows of fifteen minutes and two failures for anything. -/
def strictThrottle : ThrottleLimits :=
  ⟨900000000, 2, 2, standInThrottle.lasts, by decide, by decide⟩

/-- Settings with these limits. -/
def strictSettings : AuthSettings := standInSettings strictThrottle

/-- The mail of pupil number `byte`. -/
def pupilMail (byte : UInt8) : Email := mailOf (byte :: ascii "@b.c")

/-- The pupil of this number. -/
def pupilRow (byte : UInt8) : PersonRow :=
  ⟨repeated 7, repeated byte, ascii "pupil", some (pupilMail byte), ⟨ascii "UTC"⟩, none⟩

/-- The password of the pupil. -/
def pupilCredential (byte : UInt8) : CredentialRow :=
  ⟨repeated 7, repeated byte, standInHash plainPassword⟩

/-- Four pupils with a password each; nobody has tried to sign in. -/
def pupils : Database where
  people := ⟨[1, 2, 3, 4].map pupilRow, by decide +kernel, by decide +kernel⟩
  credentials := ⟨[1, 2, 3, 4].map pupilCredential, by decide +kernel, by decide +kernel⟩

/-- The address all attempts come from. -/
def classAddress : Digest := standInDigest []

/-- An attempt at a moment to sign in as a pupil, with the right password or a wrong one. -/
def pupilAttempt (moment : Int) (byte : UInt8) (right : Bool) : SignInAttempt where
  settings := strictSettings
  drawn := drawnAt moment byte
  request :=
    { tenant := repeated 7
      mail := pupilMail byte
      secret := ascii (if right then "password" else "guess")
      seen := ⟨standInDigest [], classAddress⟩
      current := none }

/-- Two guesses about two pupils and then three more; the last three are not even checked. -/
def fiveGuesses : List SignInAttempt :=
  [pupilAttempt 10 2 false, pupilAttempt 20 3 false, pupilAttempt 30 4 false,
    pupilAttempt 40 2 false, pupilAttempt 50 3 false]

/-- A pupil signs in between his guesses. -/
def guessesBetweenSignIns : List SignInAttempt :=
  [pupilAttempt 10 2 false, pupilAttempt 20 1 true, pupilAttempt 30 3 false,
    pupilAttempt 40 1 true, pupilAttempt 50 4 false]

/-- Three guesses, and a window of the address that runs out after the first of them. -/
def guessesOverTheEnd : List SignInAttempt :=
  [pupilAttempt 10 2 false, pupilAttempt 20 3 false, pupilAttempt 30 4 false]

/-- The pupils, when somebody has failed to sign in from the address of the class. -/
def pupilsWatched : Database :=
  { pupils with
    attempts := ⟨[⟨repeated 7, .address, classAddress, ⟨-899999985, 1⟩⟩], by decide, by decide⟩ }

end Pdr.Identity
