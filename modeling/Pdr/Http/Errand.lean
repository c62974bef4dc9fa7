import Pdr.Http.AuthorizedHandler
import Pdr.StoreProgram.Automaton

/-!
# A changing request, stage by stage

Of a request that is let in to change something the database sees at most seven calls. This
module tells them as an automaton: the transaction opens, the key is asked for, and then
either it is held, the work is done and its answer recorded, or an answer was there before,
or something failed and the transaction is rolled back.

## Main definitions

* `Pdr.Http.Errand`, `Pdr.Http.errandOf`: what a request brings to the tenant's area.
* `Pdr.Http.Stage`, `Pdr.Http.Errand.automaton`: the stages and what is due in each.
* `Pdr.Http.Errand.ends`: how the request is answered after each.

## Main results

* `Pdr.Http.conforms_serve`: a handler serves a changing request by its automaton.
* `Pdr.Http.enter_cases`: who is turned away before the tenant's area.
-/

namespace Pdr.Http

open StoreProgram Program

variable {ι E : Type}

/-- What a request brings to the tenant's area. -/
structure Errand (E : Type) where
  tenant : TenantId
  key : IdempotencyKey
  fingerprint : RequestFingerprint
  expiresAt : Int
  script : Script E

/-- The primary key of the errand's row. -/
def Errand.id (errand : Errand E) : KeyId := (errand.tenant, errand.key)

/-- The errand of a request, if it is let in to change something. -/
def errandOf (platform : Platform) (handler : Handler) (arrival : Arrival E) (request : Request) :
    Option (Errand E) :=
  match enter platform handler arrival request with
  | .ok (.changing caller body key fingerprint) =>
    some ⟨caller.tenant, key, fingerprint, handler.lifetime.expiresFrom arrival.now,
      arrival.run caller body (requestIdOf arrival request)⟩
  | _ => none

/-- Where an errand stands. -/
inductive Stage where
  | idle
  | opened
  | asking
  | holding
  | worked (answer : SavedAnswer)
  | settled (served : Served)
  | failed (fault : Fault)
  | ended (outcome : Except Fault Served)

namespace Errand

/-- The call that is due. -/
def due (errand : Errand E) (session : ι) : Stage → Option (Statement ι E)
  | .idle => some (.open_ session errand.tenant)
  | .opened => some (.snapshot session)
  | .asking =>
    some (.claim session errand.tenant errand.key errand.fingerprint errand.expiresAt)
  | .holding => some (.run session errand.script)
  | .worked answer => some (.complete session errand.tenant errand.key answer)
  | .settled _ => some (.commit session)
  | .failed _ => some (.rollback session)
  | .ended _ => none

/-- The stage after the key was asked for. -/
def claimed : Except Fault (Result Claim) → Stage
  | .ok (.ok ⟨.taken, _⟩) => .holding
  | .ok (.ok ⟨.replay, answer⟩) => .settled ⟨.replay, answer⟩
  | .ok (.ok ⟨.inFlight, answer⟩) => .settled ⟨.inFlight, answer⟩
  | .ok (.error refusal) => .failed (.refused refusal)
  | .error fault => .failed fault

/-- The stage after the answer was recorded. -/
def recorded (answer : SavedAnswer) (changed : Nat) : Stage :=
  if changed ≠ 1 then
    .failed (.thrown (.runtime "http_idempotency_key: закрывать нечего — строка занята не нами"))
  else .settled ⟨.taken, answer⟩

/-- The stage to which an answer leads. -/
def next (platform : Platform) (errand : Errand E) :
    Stage → (op : Statement ι E) → Except Fault op.Answer → Stage
  | .idle, .open_ .., .ok _ => .opened
  | .opened, .snapshot _, .ok _ => .asking
  | .asking, .claim .., .ok rows => claimed (claimOf rows errand.fingerprint)
  | .holding, .run .., .ok (.ok value) => .worked ⟨kOk, platform.toText value⟩
  | .holding, .run .., .ok (.error refusal) => .failed (.refused refusal)
  | .worked answer, .complete .., .ok changed => recorded answer changed
  | .settled served, .commit _, .ok _ => .ended (.ok served)
  | .failed fault, .rollback _, .ok _ => .ended (.error fault)
  | .idle, _, .error fault => .ended (.error fault)
  | .settled _, _, .error fault => .ended (.error fault)
  | .failed _, _, .error fault => .ended (.error fault)
  | _, _, .error fault => .failed fault
  | stage, _, .ok _ => stage

/-- The automaton of an errand in the transaction of `session`. -/
def automaton (platform : Platform) (session : ι) (errand : Errand E) :
    Automaton (Statement.Answer : Statement ι E → Type) Fault Stage :=
  ⟨fun stage op => errand.due session stage = some op, errand.next platform⟩

/-- How the request is answered at the end of its errand. -/
def ends (respond : Result Served → Response) : Stage → Except Fault Response → Prop
  | .ended (.ok served), outcome => outcome = .ok (respond (.ok served))
  | .ended (.error (.refused failure)), outcome => outcome = .ok (respond (.error failure))
  | .ended (.error (.thrown exception)), outcome => outcome = .error (.thrown exception)
  | _, _ => False

section Conforms

variable (platform : Platform) (session : ι) (errand : Errand E)
  (respond : Result Served → Response)

/-- What is left of an area after its work: the end of the transaction and the answer. -/
private abbrev closing (work : Work ι E Served) : Work ι E Response :=
  catchRollback (do
    let served ← tryCatch work fun fault => do
      perform (Statement.rollback session)
      raise fault
    perform (Statement.commit session)
    pure served) >>= fun served => pure (respond served)

theorem conforms_failed (fault : Fault) :
    (errand.automaton platform session).Conforms (ends respond) (.failed fault)
      (closing session respond (raise fault)) := by
  refine ⟨rfl, fun answer => ?_⟩
  cases answer with
  | error broken => cases broken <;> rfl
  | ok _ => cases fault <;> rfl

theorem conforms_settled (served : Served) :
    (errand.automaton platform session).Conforms (ends respond) (.settled served)
      (closing session respond (pure served)) := by
  refine ⟨rfl, fun answer => ?_⟩
  cases answer with
  | error broken => cases broken <;> rfl
  | ok _ => rfl

/-- After the answer was recorded, however many rows that changed. -/
theorem conforms_recorded (answer : SavedAnswer) (changed : Nat) :
    (errand.automaton platform session).Conforms (ends respond) (recorded answer changed)
      (closing session respond (do
        let completed ← (
          if changed ≠ 1 then
            raise (.thrown (.runtime
              "http_idempotency_key: закрывать нечего — строка занята не нами"))
          else pure (.ok ()) : Work ι E (Result Unit))
        ofExcept completed.orRefuse
        pure ⟨.taken, answer⟩)) := by
  by_cases hchanged : changed ≠ 1
  · rw [recorded, if_pos hchanged, if_pos hchanged]
    exact conforms_failed platform session errand respond _
  · rw [recorded, if_neg hchanged, if_neg hchanged]
    exact conforms_settled platform session errand respond _

/-- Once the key is held, the work is done and its answer recorded. -/
theorem conforms_holding :
    (errand.automaton platform session).Conforms (ends respond) .holding
      (closing session respond (do
        let answer ← produce platform session errand.script
        let completed ← complete session errand.tenant errand.key answer
        ofExcept completed.orRefuse
        pure ⟨.taken, answer⟩)) := by
  refine ⟨rfl, fun answer => ?_⟩
  cases answer with
  | error fault => exact conforms_failed platform session errand respond fault
  | ok produced =>
    cases produced with
    | error refusal => exact conforms_failed platform session errand respond (.refused refusal)
    | ok value =>
      refine ⟨rfl, fun answer => ?_⟩
      cases answer with
      | error fault => exact conforms_failed platform session errand respond fault
      | ok changed => exact conforms_recorded platform session errand respond _ changed

/-- After the key was asked for, whatever the answer was. -/
theorem conforms_claimed (claim : Except Fault (Result Claim)) :
    (errand.automaton platform session).Conforms (ends respond) (claimed claim)
      (closing session respond (do
        let taken ← ofExcept claim
        let claim ← ofExcept taken.orRefuse
        if claim.outcome ≠ .taken then pure ⟨claim.outcome, claim.answer⟩
        else do
          let answer ← produce platform session errand.script
          let completed ← complete session errand.tenant errand.key answer
          ofExcept completed.orRefuse
          pure ⟨.taken, answer⟩)) := by
  cases claim with
  | error fault => exact conforms_failed platform session errand respond fault
  | ok result =>
    cases result with
    | error refusal => exact conforms_failed platform session errand respond (.refused refusal)
    | ok claim =>
      obtain ⟨outcome, answer⟩ := claim
      cases outcome with
      | taken => exact conforms_holding platform session errand respond
      | replay => exact conforms_settled platform session errand respond _
      | inFlight => exact conforms_settled platform session errand respond _

/-- A request that is let in to change something goes by its automaton. -/
theorem conforms_guarded :
    (errand.automaton platform session).Conforms (ends respond) .idle
      (guarded platform session errand.tenant errand.key errand.fingerprint errand.expiresAt
        errand.script >>= fun served => pure (respond served)) := by
  refine ⟨rfl, fun answer => ?_⟩
  cases answer with
  | error fault => cases fault <;> rfl
  | ok _ =>
    refine ⟨rfl, fun answer => ?_⟩
    cases answer with
    | error fault => exact conforms_failed platform session errand respond fault
    | ok _ =>
      refine ⟨rfl, fun answer => ?_⟩
      cases answer with
      | error fault => exact conforms_failed platform session errand respond fault
      | ok rows => exact conforms_claimed platform session errand respond _

end Conforms

end Errand

/-! ### The way up to the tenant's area -/

section Entering

variable {platform : Platform} {handler : Handler} {arrival : Arrival E} {request : Request}

/-- The refusals on the way up to the tenant's area: of the schema, of identification, of
the policy, and of a bad key. -/
inductive TurnedAway (platform : Platform) (handler : Handler) (arrival : Arrival E)
    (request : Request) : Problem → Prop where
  | schema {failure : Error} {field : String}
      (malformedBody : handler.schema.parse platform request.body = .error (failure, field)) :
      TurnedAway platform handler arrival request
        (malformed failure field (occasionOf arrival request))
  | identification {failure : Error}
      (unknown : arrival.identify (request.cookie handler.whereCredential.cookie)
        (request.header handler.whereCredential.header) = .ok (.error failure)) :
      TurnedAway platform handler arrival request
        (unidentified failure (occasionOf arrival request))
  | policy {caller : Caller} {body : Json} {verdict : Verdict}
      (decided : arrival.decide caller.tenant caller.actor handler.wants
        (handler.about caller body) = .ok verdict) (denied : verdict.1.allowed = false) :
      TurnedAway platform handler arrival request
        (denialProblem verdict.1 (occasionOf arrival request))
  | badKey {failure : Error}
      (malformedKey :
        IdempotencyKey.parse (request.header kIdempotencyKeyHeader) = .error failure) :
      TurnedAway platform handler arrival request
        (keyRequired kIdempotencyKeyHeader (occasionOf arrival request))

theorem TurnedAway.status_ne_ok {problem : Problem}
    (h : TurnedAway platform handler arrival request problem) : problem.status ≠ kOk := by
  cases h with
  | schema _ => exact (by decide : kBadRequest ≠ kOk)
  | identification _ => exact (by decide : kUnauthorized ≠ kOk)
  | @policy caller body verdict _ denied => exact statusOfDenial_ne_ok (verdict.2 denied)
  | badKey _ => exact (by decide : kBadRequest ≠ kOk)

/-- A changing request is turned away, or it is let in with its key and the fingerprint of
its body. -/
theorem enter_cases (hmutating : request.method.mutating = true) {entrance : Entrance}
    (h : enter platform handler arrival request = .ok entrance) :
    (∃ problem, entrance = .refused problem ∧
        TurnedAway platform handler arrival request problem) ∨
      ∃ caller body key fingerprint, entrance = .changing caller body key fingerprint ∧
        arrival.identify (request.cookie handler.whereCredential.cookie)
          (request.header handler.whereCredential.header) = .ok (.ok caller) ∧
        IdempotencyKey.parse (request.header kIdempotencyKeyHeader) = .ok key ∧
        fingerprintOf platform request.body = .ok fingerprint := by
  unfold enter at h
  dsimp only at h
  split at h
  · rename_i failure field hparse
    cases h
    exact Or.inl ⟨_, rfl, .schema hparse⟩
  · rename_i body hparse
    obtain ⟨result, hidentify, h⟩ := bind_eq_ok.1 h
    cases result with
    | error failure =>
      cases h
      exact Or.inl ⟨_, rfl, .identification hidentify⟩
    | ok caller =>
      obtain ⟨verdict, hdecide, h⟩ := bind_eq_ok.1 h
      cases hallowed : verdict.1.allowed with
      | false =>
        rw [hallowed] at h
        cases h
        exact Or.inl ⟨_, rfl, .policy hdecide hallowed⟩
      | true =>
        rw [hallowed, hmutating] at h
        cases hkey : IdempotencyKey.parse (request.header kIdempotencyKeyHeader) with
        | error failure =>
          rw [hkey] at h
          cases h
          exact Or.inl ⟨_, rfl, .badKey hkey⟩
        | ok key =>
          rw [hkey] at h
          obtain ⟨fingerprint, hfingerprint, h⟩ := bind_eq_ok.1 h
          cases h
          exact Or.inr ⟨caller, body, key, fingerprint, rfl, hidentify, rfl, hfingerprint⟩

/-! ### Serving by the automaton -/

/-- The automaton by which a changing request is served: its errand's, or, if it is turned
away, one that makes no call. -/
def servingAutomaton (platform : Platform) (session : ι) :
    Option (Errand E) → Automaton (Statement.Answer : Statement ι E → Type) Fault Stage
  | none => ⟨fun _ _ => False, fun stage _ _ => stage⟩
  | some errand => errand.automaton platform session

/-- How a changing request is answered: from its errand, or with a refusal. -/
def servingEnds (platform : Platform) (arrival : Arrival E) (request : Request) :
    Option (Errand E) → Stage → Except Fault Response → Prop
  | none, _, outcome => ∀ response, outcome = .ok response → response.status ≠ kOk
  | some errand, stage, outcome =>
    Errand.ends (fun served => answer platform (headersOf arrival request) served
      (occasionOf arrival request) (some errand.key)) stage outcome

/-- A handler serves a changing request by its automaton. -/
theorem conforms_serve (hmutating : request.method.mutating = true) (session : ι) :
    (servingAutomaton platform session (errandOf platform handler arrival request)).Conforms
      (servingEnds platform arrival request (errandOf platform handler arrival request)) .idle
      (serve platform handler arrival request session) := by
  cases henter : enter platform handler arrival request with
  | error exception =>
    simp only [serve, errandOf, henter]
    intro response hresponse
    cases hresponse
  | ok entrance =>
    rcases enter_cases hmutating henter with ⟨problem, rfl, hrefused⟩ |
      ⟨caller, body, key, fingerprint, rfl, -⟩
    · simp only [serve, errandOf, henter]
      rintro response ⟨⟩
      exact hrefused.status_ne_ok
    · simp only [serve, errandOf, henter]
      exact Errand.conforms_guarded platform session
        ⟨caller.tenant, key, fingerprint, handler.lifetime.expiresFrom arrival.now,
          arrival.run caller body (requestIdOf arrival request)⟩
        fun served => answer platform (headersOf arrival request) served
          (occasionOf arrival request) (some key)

end Entering

end Pdr.Http
