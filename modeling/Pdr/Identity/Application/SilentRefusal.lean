import Pdr.Identity.Application.Refusals
import Pdr.Identity.Application.Throttling
import Pdr.Identity.Store.Moments
import Pdr.StoreProgram.TwoRuns

/-!
# A refusal tells nothing

Somebody who tries mails must not learn which of them are known. The answer, the failures counted
and the work on hashes are the same whether the mail is of nobody, of somebody without a password,
or of somebody with another one. The scenario is taken here with the calls to the hasher among its
calls, the one included whose result is dropped, so that they can be counted.

## Main definitions

* `Pdr.Identity.signInHashing`: `SignIn::Execute` with its calls to the hasher.
* `Pdr.Identity.IsNotLetIn`: the three ways not to be let in.
* `Pdr.Identity.counterCalls`, `Pdr.Identity.hashings`: what a run does besides its answer.

## Main results

* `Pdr.Identity.run_signInHashing`: without the calls to the hasher it is `signIn`.
* `Pdr.Identity.alike_signIn`: two runs that let nobody in look the same.
* `Pdr.Identity.refusal_tells_nothing`: the runs of any two of the three ways.
-/

namespace Pdr.Identity

open StoreProgram Program

/-! ### Signing in, the hasher included -/

/-- A call of `SignIn::Execute`: to a store, or to the hasher. -/
inductive SignInCall where
  | store (call : Call)
  | hash (password : Password) (rules : PasswordRules)
  | matches_ (password : Password) (hash : PasswordHash)

/-- What each call answers. -/
@[reducible] def SignInCall.Answer : SignInCall → Type
  | .store asked => asked.Answer
  | .hash .. => Result PasswordHash
  | .matches_ .. => Bool

/-- The database, with a hasher beside it. -/
def withHasher (hasher : PasswordHasher) (salt : Text) :
    Machine SignInCall.Answer Fault Database where
  exec asked db := match asked with
    | .store asked => database.exec asked db
    | .hash password rules => (.ok (hasher.hash salt password rules), db)
    | .matches_ password hash => (.ok (hasher.matchesHash password hash), db)

/-- A scenario that calls no hasher. -/
def hashless {α : Type} : Scenario α → Program SignInCall.Answer Fault α
  | .done value => .done value
  | .raise fault => .raise fault
  | .call op rest => .call (.store op) fun answer => hashless (rest answer)

section Hashless

variable {α β : Type} {hasher : PasswordHasher} {salt : Text}

@[simp] theorem hashless_bind (scenario : Scenario α) (next : α → Scenario β) :
    hashless (scenario >>= next) = hashless scenario >>= fun value => hashless (next value) := by
  induction scenario with
  | done value => rfl
  | raise fault => rfl
  | call op rest ih => exact congrArg (Program.call (SignInCall.store op)) (funext ih)

theorem hashless_ask (asked : Call) : hashless (ask asked) = perform (SignInCall.store asked) := by
  refine congrArg (Program.call (SignInCall.store asked)) (funext fun answer => ?_)
  cases answer <;> rfl

@[simp] theorem run_hashless (scenario : Scenario α) (db : Database) :
    (hashless scenario).run (withHasher hasher salt) db = scenario.run database db := by
  induction scenario generalizing db with
  | done value => rfl
  | raise fault => rfl
  | call op rest ih => exact ih (database.exec op db).1 (database.exec op db).2

/-- A sequence runs as it does without the hasher, if its rest does. -/
theorem run_hashless_bind {scenario : Scenario α} {next : α → Program SignInCall.Answer Fault β}
    {next' : α → Scenario β} (h : ∀ value db,
      (next value).run (withHasher hasher salt) db = (next' value).run database db)
    (db : Database) : (hashless scenario >>= next).run (withHasher hasher salt) db =
      (scenario >>= next').run database db := by
  rw [run_bind, run_bind, run_hashless]
  rcases scenario.run database db with ⟨outcome, between⟩
  cases outcome with
  | error fault => rfl
  | ok value => exact h value between

end Hashless

/-- The person whose mail it is, if the secret is his password. The hash that is computed where the
mail is unknown is dropped: it is there so that the answer takes as long. -/
def checkSecret (rules : PasswordRules) (given : Result Password) (found : Option Credential) :
    Program SignInCall.Answer Fault (Option PersonId) := do
  match given, found with
  | .ok password, some credential =>
    let same ← perform (.matches_ password credential.hash)
    return if same then some credential.person else none
  | .ok password, none =>
    let _ ← perform (.hash password rules)
    return none
  | .error _, _ => return none

/-- Who has the mail, and whether the secret is his. -/
def findMatched (rules : PasswordRules) (request : SignInRequest) :
    Program SignInCall.Answer Fault (Option PersonId) := do
  let found ← perform (.store (.credentials (.findByEmail request.tenant request.mail)))
  checkSecret rules (Password.given request.secret) found

/-- `SignIn::Execute`, with its calls to the hasher. -/
def signInHashing (settings : AuthSettings) (digests : Digests) (drawn : Drawn)
    (request : SignInRequest) : Program SignInCall.Answer Fault Session := do
  let rules ← ofExcept settings.passwords.orRefuse
  let limits ← ofExcept settings.throttle.orRefuse
  let lifetimes ← ofExcept settings.lifetimes.orRefuse
  let now := drawn.clock 0
  let account := accountFingerprint digests request.tenant request.mail
  hashless (refuseIfBlocked request.tenant limits now .account account)
  hashless (refuseIfBlocked request.tenant limits now .address request.seen.address)
  let matched ← findMatched rules request
  hashless (concludeSignIn lifetimes limits drawn request account matched)

section Runs

variable {settings : AuthSettings} {digests : Digests} {hasher : PasswordHasher} {salt : Text}
  {drawn : Drawn} {rules : PasswordRules} {request : SignInRequest}

/-- The credential of a mail, if it is known and its person has a password. -/
def Database.credentialOf (tenant : TenantId) (mail : Email) (db : Database) : Option Credential :=
  (db.people.find? fun row => row.tenant = tenant && row.mail = some mail).bind fun person =>
    (db.credentials.find? fun row => row.tenant = tenant && row.person = person.id).map fun row =>
      ⟨row.person, row.hash⟩

/-- The secret is checked as it is without the calls to the hasher. -/
theorem run_findMatched (db : Database) :
    (findMatched rules request).run (withHasher hasher salt) db =
      (.ok (matchedPerson hasher (Password.given request.secret)
        (db.credentialOf request.tenant request.mail)), db) := by
  have hfound : (perform (.store (.credentials (.findByEmail request.tenant request.mail))) :
      Program SignInCall.Answer Fault _).run (withHasher hasher salt) db =
        (.ok (db.credentialOf request.tenant request.mail), db) := rfl
  rw [findMatched, run_bind, hfound]
  dsimp only
  cases Password.given request.secret with
  | error broken => rfl
  | ok password =>
    cases db.credentialOf request.tenant request.mail with
    | none => rfl
    | some credential =>
      simp only [checkSecret, run_bind, run_perform, withHasher, matchedPerson]
      rfl

/-- Without its calls to the hasher it is the scenario. -/
theorem run_signInHashing (db : Database) :
    (signInHashing settings digests drawn request).run (withHasher hasher salt) db =
      (signIn ⟨settings, digests, hasher⟩ drawn request).run database db := by
  unfold signInHashing signIn
  cases settings.passwords with
  | error broken => rfl
  | ok rules =>
    cases settings.throttle with
    | error broken => rfl
    | ok limits =>
      cases settings.lifetimes with
      | error broken => rfl
      | ok lifetimes =>
        refine run_hashless_bind (fun _ db₁ => run_hashless_bind (fun _ db₂ => ?_) db₁) db
        rw [run_bind, run_findMatched]
        exact run_hashless _ db₂

/-! ### Two runs that let nobody in -/

/-- What can be told from outside about the calls of a run, besides its answer. -/
inductive Observation where
  | counter (call : AttemptCall)
  | hashing

/-- What can be told about a call. -/
def SignInCall.observed : SignInCall → Option Observation
  | .store (.attempts asked) => some (.counter asked)
  | .store _ => none
  | .hash .. => some .hashing
  | .matches_ .. => some .hashing

/-- The two states are these two with the same counters. -/
def SameCounters (db db' s t : Database) : Prop :=
  ∃ table, s = { db with attempts := table } ∧ t = { db' with attempts := table }

section Alike

variable {db db' s t : Database} {salt' : Text}

theorem alike_counter (asked : AttemptCall) (h : SameCounters db db' s t) :
    Alike (withHasher hasher salt) (withHasher hasher salt') (SameCounters db db')
      SignInCall.observed (hashless (ask (.attempts asked))) (hashless (ask (.attempts asked)))
      s t := by
  obtain ⟨table, rfl, rfl⟩ := h
  rw [hashless_ask]
  exact alike_perform rfl ⟨(asked.exec table).2, rfl, rfl⟩

theorem alike_refuseIfBlocked (tenant : TenantId) (limits : ThrottleLimits) (now : Int)
    (subject : AttemptSubject) (of : Digest) (h : SameCounters db db' s t) :
    Alike (withHasher hasher salt) (withHasher hasher salt') (SameCounters db db')
      SignInCall.observed (hashless (refuseIfBlocked tenant limits now subject of))
      (hashless (refuseIfBlocked tenant limits now subject of)) s t := by
  simp only [refuseIfBlocked, hashless_bind]
  refine (alike_counter _ h).bind fun seen s' t' _ h' => ?_
  split
  · exact alike_raise _ h'
  · exact alike_done _ h'

/-- A secret takes one hash, whoever has the mail, if it has the form of a password. -/
theorem calls_findMatched (db : Database) :
    ((findMatched rules request).calls (withHasher hasher salt) db).filterMap SignInCall.observed =
      if (Password.given request.secret).isOk then [.hashing] else [] := by
  have hfound : (perform (.store (.credentials (.findByEmail request.tenant request.mail))) :
      Program SignInCall.Answer Fault _).run (withHasher hasher salt) db =
        (.ok (db.credentialOf request.tenant request.mail), db) := rfl
  rw [findMatched, calls_bind, calls_perform, hfound]
  dsimp only
  cases Password.given request.secret with
  | error broken => rfl
  | ok password =>
    cases db.credentialOf request.tenant request.mail with
    | none => rfl
    | some credential =>
      simp only [checkSecret, calls_bind, calls_perform, run_perform, withHasher]
      rfl

/-- A secret that is no password of the mail is rejected alike. -/
theorem alike_findMatched {request' : SignInRequest}
    (hsecret : request.secret = request'.secret)
    (hnone : ∀ table, matchedPerson hasher (Password.given request.secret)
      ({ db with attempts := table }.credentialOf request.tenant request.mail) = none)
    (hnone' : ∀ table, matchedPerson hasher (Password.given request'.secret)
      ({ db' with attempts := table }.credentialOf request'.tenant request'.mail) = none)
    (h : SameCounters db db' s t) :
    Alike (withHasher hasher salt) (withHasher hasher salt') (SameCounters db db')
      SignInCall.observed (findMatched rules request) (findMatched rules request') s t := by
  obtain ⟨table, rfl, rfl⟩ := h
  refine ⟨?_, ?_, ?_⟩
  · rw [run_findMatched, run_findMatched, hnone, hnone']
  · rw [run_findMatched, run_findMatched]
    exact ⟨table, rfl, rfl⟩
  · rw [calls_findMatched, calls_findMatched, hsecret]

end Alike

end Runs

/-! ### The three ways not to be let in -/

section NotLetIn

/-- The mail is of nobody; or it is of somebody without a password; or it is of somebody whose
password the secret is not. -/
def IsNotLetIn (hasher : PasswordHasher) (request : SignInRequest) (db : Database) : Prop :=
  ¬ db.KnowsMail request.tenant request.mail ∨
    ∃ person ∈ db.people.rows, person.tenant = request.tenant ∧ person.mail = some request.mail ∧
      ((∀ row ∈ db.credentials.rows, ¬ (row.tenant = request.tenant ∧ row.person = person.id)) ∨
        ∃ row ∈ db.credentials.rows, row.tenant = request.tenant ∧ row.person = person.id ∧
          ∀ password, Password.given request.secret = .ok password →
            hasher.matchesHash password row.hash = false)

/-- The two requests ask for the same from the same address. -/
structure AsksTheSame (request request' : SignInRequest) : Prop where
  tenant : request.tenant = request'.tenant
  mail : request.mail = request'.mail
  secret : request.secret = request'.secret
  address : request.seen.address = request'.seen.address

variable {settings : AuthSettings} {digests : Digests} {hasher : PasswordHasher}
  {drawn drawn' : Drawn} {request request' : SignInRequest} {db db' : Database}

/-- In none of the three ways the secret lets anybody in. -/
theorem IsNotLetIn.matchedPerson_eq_none (h : IsNotLetIn hasher request db) :
    matchedPerson hasher (Password.given request.secret)
      (db.credentialOf request.tenant request.mail) = none := by
  rw [Database.credentialOf]
  rcases h with hunknown | ⟨person, hperson, htenant, hmail, hcredential⟩
  · have hnobody : db.people.find? (fun row => row.tenant = request.tenant &&
        row.mail = some request.mail) = none := by
      refine List.find?_eq_none.2 fun row hrow hsame => hunknown ⟨row, hrow, ?_⟩
      simpa using hsame
    rw [hnobody]
    cases Password.given request.secret <;> rfl
  · have hfound : db.people.find? (fun row => row.tenant = request.tenant &&
        row.mail = some request.mail) = some person := by
      refine (Table.find?_eq_some_iff fun a b ha hb => ?_).2 ⟨hperson, by simp [htenant, hmail]⟩
      simp only [Bool.and_eq_true, decide_eq_true_eq] at ha hb
      simp [Schema.clash, ha, hb]
    rw [hfound, Option.bind_some]
    rcases hcredential with hwithout | ⟨row, hrow, hhome, hperson, hother⟩
    · have hnone : db.credentials.find? (fun row => row.tenant = request.tenant &&
          row.person = person.id) = none := by
        refine List.find?_eq_none.2 fun row hrow hsame => hwithout row hrow ?_
        simpa using hsame
      rw [hnone]
      cases Password.given request.secret <;> rfl
    · have hcredential : db.credentials.find? (fun row => row.tenant = request.tenant &&
          row.person = person.id) = some row := by
        refine (Table.find?_eq_some_iff fun a b ha hb => ?_).2 ⟨hrow, by simp [hhome, hperson]⟩
        simp only [Bool.and_eq_true, decide_eq_true_eq] at ha hb
        simp [Schema.clash, ha, hb]
      rw [hcredential, Option.map_some]
      cases hgiven : Password.given request.secret with
      | error broken => rfl
      | ok password => exact if_neg (by rw [hother password hgiven]; exact Bool.false_ne_true)

/-- **Two runs that let nobody in look the same**: the same answer, the same questions to the
counters and the same number of hashes, and nothing but the counters may change. -/
theorem alike_signIn (hsame : AsksTheSame request request')
    (hclock : drawn.clock 0 = drawn'.clock 0) (hattempts : db.attempts = db'.attempts)
    (h : IsNotLetIn hasher request db) (h' : IsNotLetIn hasher request' db') :
    Alike (withHasher hasher drawn.salt) (withHasher hasher drawn'.salt) (SameCounters db db')
      SignInCall.observed (signInHashing settings digests drawn request)
      (signInHashing settings digests drawn' request') db db' := by
  have hstart : SameCounters db db' db db' := ⟨db.attempts, rfl, by rw [hattempts]⟩
  unfold signInHashing
  refine (alike_ofExcept _ hstart).bind fun rules s t _ hstates => ?_
  refine (alike_ofExcept _ hstates).bind fun limits s t _ hstates => ?_
  refine (alike_ofExcept _ hstates).bind fun lifetimes s t _ hstates => ?_
  rw [hsame.tenant, hsame.mail, hsame.address, hclock]
  refine (alike_refuseIfBlocked _ _ _ _ _ hstates).bind fun _ s t _ hstates => ?_
  refine (alike_refuseIfBlocked _ _ _ _ _ hstates).bind fun _ s t _ hstates => ?_
  have hmatched : (findMatched rules request).run (withHasher hasher drawn.salt) s =
      (.ok none, s) := by
    obtain ⟨table, rfl, -⟩ := hstates
    rw [run_findMatched]
    exact congrArg (fun matched => (Except.ok matched, _)) h.matchedPerson_eq_none
  refine (alike_findMatched hsame.secret (fun _ => h.matchedPerson_eq_none)
    (fun _ => h'.matchedPerson_eq_none) hstates).bind fun matched s t hnone hstates => ?_
  obtain rfl : none = matched := by
    rw [hmatched] at hnone
    exact Except.ok.inj hnone
  simp only [concludeSignIn, hashless_bind]
  rw [hsame.tenant, hsame.address, hclock]
  refine (alike_counter _ hstates).bind fun _ s t _ hstates => ?_
  exact (alike_counter _ hstates).bind fun _ s t _ hstates => alike_raise _ hstates

theorem refused_of_refuseIfBlocked {tenant : TenantId} {limits : ThrottleLimits} {now : Int}
    {subject : AttemptSubject} {of : Digest} {fault : Fault} {between : Database}
    (h : (refuseIfBlocked tenant limits now subject of).run database db =
      (.error fault, between)) : fault = .refused signInThrottled := by
  rw [run_refuseIfBlocked] at h
  split at h
  · exact (Except.error.inj (congrArg Prod.fst h)).symm
  · cases congrArg Prod.fst h

/-- Whoever is not let in is refused: the counters throw nothing. -/
theorem signIn_is_refused (h : IsNotLetIn hasher request db) :
    (signIn ⟨settings, digests, hasher⟩ drawn request).Yields database
      (fun outcome _ => ∃ error, outcome = .error (.refused error)) db := by
  have hsettings : ∀ {α : Type} {setting : Result α} {fault : Fault},
      setting.orRefuse = .error fault →
        ∃ error, (.error fault : Except Fault Session) = .error (.refused error) := by
    intro α setting fault hfault
    cases setting with
    | ok value => cases hfault
    | error error => exact ⟨error, congrArg _ (Except.error.inj hfault).symm⟩
  have hcounted : ∀ (asked : AttemptCall) {fault : Fault} {s s' : Database},
      database.exec (.attempts asked) s ≠ (.error fault, s') := by
    intro asked fault s s' hthrown
    obtain ⟨answer, hanswer⟩ : Answers (.attempts asked) s := exec_attempts_ok asked
    rw [hthrown] at hanswer
    cases hanswer
  unfold signIn
  refine yields_ofExcept_bind (fun fault hfault => hsettings hfault) fun rules _ => ?_
  refine yields_ofExcept_bind (fun fault hfault => hsettings hfault) fun limits _ => ?_
  refine yields_ofExcept_bind (fun fault hfault => hsettings hfault) fun lifetimes _ => ?_
  refine Yields.bind (fun fault s hblocked => ?_) fun _ s hfree => ?_
  · exact ⟨_, congrArg _ (refused_of_refuseIfBlocked hblocked)⟩
  obtain ⟨-, rfl⟩ := free_of_run hfree
  refine Yields.bind (fun fault s hblocked => ?_) fun _ s hfree => ?_
  · exact ⟨_, congrArg _ (refused_of_refuseIfBlocked hblocked)⟩
  obtain ⟨-, rfl⟩ := free_of_run hfree
  refine yields_perform_bind (fun fault between hthrown => ?_) fun found between hfound => ?_
  · cases congrArg Prod.fst hthrown
  have hsame : ((.ok (s.credentialOf request.tenant request.mail), s) :
      Except Fault (Option Credential) × Database) = (.ok found, between) := hfound
  obtain ⟨hanswer, rfl⟩ := Prod.mk.inj hsame
  obtain rfl := Except.ok.inj hanswer
  rw [h.matchedPerson_eq_none]
  refine yields_perform_bind (fun fault s hthrown => absurd hthrown (hcounted _)) fun _ s _ => ?_
  refine yields_perform_bind (fun fault s hthrown => absurd hthrown (hcounted _)) fun _ s _ => ?_
  exact ⟨signInRefused, rfl⟩

/-- The questions to the counters and the failures told to them, in their order. -/
def counterCalls (made : List SignInCall) : List AttemptCall :=
  made.filterMap fun
    | .store (.attempts asked) => some asked
    | _ => none

/-- How many hashes are computed. -/
def hashings (made : List SignInCall) : Nat :=
  made.countP fun
    | .hash .. => true
    | .matches_ .. => true
    | .store _ => false

theorem counterCalls_eq (made : List SignInCall) :
    counterCalls made = (made.filterMap SignInCall.observed).filterMap fun
      | .counter asked => some asked
      | .hashing => none := by
  rw [counterCalls, List.filterMap_filterMap]
  refine List.filterMap_congr fun asked _ => ?_
  cases asked with
  | store asked => cases asked <;> rfl
  | _ => rfl

theorem hashings_eq (made : List SignInCall) :
    hashings made = (made.filterMap SignInCall.observed).countP fun
      | .counter _ => false
      | .hashing => true := by
  rw [hashings, List.countP_filterMap]
  refine List.countP_congr fun asked _ => ?_
  cases asked with
  | store asked => cases asked <;> simp [SignInCall.observed]
  | _ => simp [SignInCall.observed]

/-- **A refusal tells nothing.** Two requests in one tenant from one address with one mail and one
secret, at one moment under one set of settings, in two stores with the same counters; in each the
mail may be of nobody, of somebody without a password or of somebody with another one. Both are
refused for the same reason, ask and tell the counters the same and compute as many hashes, whatever
form the secret has, and nothing but the counters changes, in both alike. -/
theorem refusal_tells_nothing (hsame : AsksTheSame request request')
    (hclock : drawn.clock 0 = drawn'.clock 0) (hattempts : db.attempts = db'.attempts)
    (h : IsNotLetIn hasher request db) (h' : IsNotLetIn hasher request' db') :
    let scenario := signInHashing settings digests drawn request
    let scenario' := signInHashing settings digests drawn' request'
    let made := scenario.calls (withHasher hasher drawn.salt) db
    let made' := scenario'.calls (withHasher hasher drawn'.salt) db'
    (∃ error counters,
      scenario.run (withHasher hasher drawn.salt) db =
        (.error (.refused error), { db with attempts := counters }) ∧
      scenario'.run (withHasher hasher drawn'.salt) db' =
        (.error (.refused error), { db' with attempts := counters })) ∧
    counterCalls made = counterCalls made' ∧ hashings made = hashings made' := by
  intro scenario scenario' made made'
  have halike : Alike (withHasher hasher drawn.salt) (withHasher hasher drawn'.salt)
      (SameCounters db db') SignInCall.observed scenario scenario' db db' :=
    alike_signIn hsame hclock hattempts h h'
  refine ⟨?_, ?_, ?_⟩
  · obtain ⟨error, herror⟩ : ∃ error, (scenario.run (withHasher hasher drawn.salt) db).1 =
        .error (.refused error) := by
      rw [run_signInHashing]
      exact signIn_is_refused h
    obtain ⟨counters, hstate, hstate'⟩ := halike.states
    exact ⟨error, counters, Prod.ext herror hstate,
      Prod.ext (halike.outcome.symm.trans herror) hstate'⟩
  · rw [counterCalls_eq, counterCalls_eq, halike.seen]
  · rw [hashings_eq, hashings_eq, halike.seen]

end NotLetIn

/-- A pupil's mail in a store that knows nobody, and in one where the pupil has another password. -/
theorem pupil_guess_tells_nothing :
    let guess := signInHashing strictSettings standInDigest (drawnAt 10 2)
      (pupilAttempt 10 2 false).request
    hashings (guess.calls (withHasher standInHasher []) {}) = 1 ∧
      hashings (guess.calls (withHasher standInHasher []) pupils) = 1 := by
  have hunknown : IsNotLetIn standInHasher (pupilAttempt 10 2 false).request {} := by
    refine Or.inl ?_
    rintro ⟨row, hrow, -⟩
    cases hrow
  have hother : IsNotLetIn standInHasher (pupilAttempt 10 2 false).request pupils := by
    refine Or.inr ⟨pupilRow 2, by decide +kernel, by decide +kernel, by decide +kernel, Or.inr ?_⟩
    refine ⟨pupilCredential 2, by decide +kernel, by decide +kernel, by decide +kernel, ?_⟩
    intro password hgiven
    have hguess : Password.given (pupilAttempt 10 2 false).request.secret =
        .ok ⟨ascii "guess", by decide +kernel⟩ := by decide +kernel
    obtain rfl := Except.ok.inj (hguess.symm.trans hgiven)
    decide +kernel
  have hcounters : ({} : Database).attempts = pupils.attempts := rfl
  have hone : hashings ((signInHashing strictSettings standInDigest (drawnAt 10 2)
      (pupilAttempt 10 2 false).request).calls (withHasher standInHasher []) {}) = 1 := by
    decide +kernel
  have hsame : hashings ((signInHashing strictSettings standInDigest (drawnAt 10 2)
      (pupilAttempt 10 2 false).request).calls (withHasher standInHasher []) {}) =
      hashings ((signInHashing strictSettings standInDigest (drawnAt 10 2)
        (pupilAttempt 10 2 false).request).calls (withHasher standInHasher []) pupils) :=
    (refusal_tells_nothing ⟨rfl, rfl, rfl, rfl⟩ rfl hcounters hunknown hother).2.2
  exact ⟨hone, hsame.symm.trans hone⟩

end Pdr.Identity
