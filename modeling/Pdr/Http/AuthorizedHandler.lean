import Pdr.Http.Store.IdempotencyKeys
import Pdr.Identity.Policies.ContractService

/-!
# The base handler

Every request goes one way: the body is parsed, the caller is identified, the policy is
asked, and only then the tenant's area opens. A request that changes something takes its
key, does its work and records the answer in one transaction, which commits when the work
returns and is rolled back when anything is thrown.

## Main definitions

* `Pdr.Http.Handler`, `Pdr.Http.Request`, `Pdr.Http.Arrival`: what a handler is made of,
  what a client sends, what the request meets on its way.
* `Pdr.Http.enter`: the way up to the tenant's area.
* `Pdr.Http.guarded`, `Pdr.Http.plain`: the tenant's area.
* `Pdr.Http.serve`: `AuthorizedHandler::Serve`.
-/

namespace Pdr.Http

open StoreProgram Program
open Identity (Action Resource PolicyDecision)

/-! ### Requests and responses -/

/-- The header that brings the key. -/
def kIdempotencyKeyHeader : String := "Idempotency-Key"

/-- The header of an answer that was saved. -/
def kReplayedHeader : String := "Idempotency-Replayed"

/-- The header with the trace of the request. -/
def kRequestIdHeader : String := "X-Request-Id"

/-- The content type of a problem. -/
def kProblemContentType : String := "application/problem+json"

/-- The longest trace that is taken from outside. -/
def kRequestIdLimit : Nat := 64

/-- What a client sends. A header or a cookie that is not there is empty. -/
structure Request where
  method : Method
  path : Text
  body : Text
  header : String → Text := fun _ => []
  cookie : String → Text := fun _ => []

/-- What is answered over HTTP. -/
structure Response where
  status : Int
  headers : List (String × Text)
  body : Text
deriving DecidableEq

/-- `kSecurityHeaders`. -/
def kSecurityHeaders : List (String × Text) :=
  [("Content-Security-Policy",
      utf8 "default-src 'none'; frame-ancestors 'none'; base-uri 'none'; form-action 'none'"),
    ("Referrer-Policy", utf8 "no-referrer"),
    ("Permissions-Policy",
      utf8 ("accelerometer=(), camera=(), geolocation=(), gyroscope=(), magnetometer=(), " ++
        "microphone=(), payment=(), usb=()")),
    ("X-Content-Type-Options", utf8 "nosniff")]

/-- `Usable`. -/
def usable (symbol : UInt8) : Bool :=
  (97 ≤ symbol && symbol ≤ 122) || (65 ≤ symbol && symbol ≤ 90) ||
    (48 ≤ symbol && symbol ≤ 57) || symbol = 45 || symbol = 95 || symbol = 46 || symbol = 58

/-- `IsUsableRequestId`. -/
def isUsableRequestId (value : Text) : Bool :=
  !value.isEmpty && value.length ≤ kRequestIdLimit && value.all usable

/-- The schema of a body: what is wrong with a value, and where, if anything is. -/
structure RequestSchema where
  validate : Json → Option (String × String)

/-- `RequestSchema::Parse`: the value, or the refusal with the path to the field. -/
def RequestSchema.parse (schema : RequestSchema) (platform : Platform) (body : Text) :
    Except (Error × String) Json :=
  match platform.fromText body with
  | .error broken => .error (⟨.validation, "request_not_json", broken⟩, "")
  | .ok parsed =>
    match schema.validate parsed with
    | none => .ok parsed
    | some (field, details) =>
      .error (⟨.validation, "request_field_invalid",
        "поле «" ++ field ++ "» не проходит схему: " ++ details⟩, field)

/-! ### A handler and its surroundings -/

/-- Who came. -/
structure Caller where
  tenant : TenantId
  actor : PersonId
deriving DecidableEq

/-- Where the transport keeps the credential. -/
structure CredentialSource where
  cookie : String
  header : String

/-- A decision of the policy; a refusal names a reason to refuse. -/
abbrev Verdict : Type := { decision : PolicyDecision // decision.Coherent }

/-- What one handler differs from another by. -/
structure Handler where
  schema : RequestSchema
  whereCredential : CredentialSource
  wants : Action
  about : Caller → Json → Resource
  lifetime : KeyLifetime

/-- What one request meets on its way: how it is identified, what the policy decides, the
moment, the trace given to it, and what the scenario does when it is called. Identification
and the policy may throw. -/
structure Arrival (E : Type) where
  identify : Text → Text → Except Exception (Result Caller)
  decide : TenantId → PersonId → Action → Resource → Except Exception Verdict
  now : Int
  tracingRequestId : Text
  run : Caller → Json → Text → Script E

/-- The policy of the service over what the stores show. -/
def contractVerdict (view : Identity.AccessView) (now : Int) (tenant : TenantId)
    (actor : PersonId) (action : Action) (resource : Resource) : Except Exception Verdict :=
  .ok ⟨view.decide now tenant actor action resource,
    Identity.AccessView.coherent_decide view now tenant actor action resource⟩

/-- `FingerprintOf`. -/
def fingerprintOf (platform : Platform) (body : Text) : Except Exception RequestFingerprint :=
  match RequestFingerprint.parse ((platform.sha256 body).map fun symbol =>
    if 65 ≤ symbol && symbol ≤ 90 then symbol + 32 else symbol) with
  | .ok fingerprint => .ok fingerprint
  | .error failure => .error (.runtime ("SHA-256 вернул не отпечаток: " ++ failure.detail))

/-! ### The tenant's area -/

/-- How the area ended: what to answer, and whether the operation was done. -/
structure Served where
  outcome : ClaimOutcome := .taken
  answer : SavedAnswer
deriving DecidableEq, Repr

section Area

variable {ι E α : Type}

/-- `InTenant`: the work in a transaction of its own, which commits if the work returns and
is rolled back if it throws. -/
def inTenant (session : ι) (tenant : TenantId) (work : Work ι E α) : Work ι E α := do
  perform (Statement.open_ session tenant)
  let result ← tryCatch work fun fault => do
    perform (Statement.rollback session)
    raise fault
  perform (Statement.commit session)
  pure result

/-- A refusal thrown to roll the transaction back is a value again behind the area. -/
def catchRollback (area : Work ι E α) : Work ι E (Result α) :=
  tryCatch (area >>= fun value => pure (.ok value)) fun
    | .refused error => pure (.error error)
    | .thrown exception => raise (.thrown exception)

/-- `Produce`. -/
def produce (platform : Platform) (session : ι) (script : Script E) : Work ι E SavedAnswer := do
  let produced ← perform (Statement.run session script)
  let value ← ofExcept produced.orRefuse
  pure ⟨kOk, platform.toText value⟩

/-- `Plain`: a request that changes nothing takes no key. -/
def plain (platform : Platform) (session : ι) (tenant : TenantId) (script : Script E) :
    Work ι E (Result Served) :=
  catchRollback <| inTenant session tenant do
    let answer ← produce platform session script
    pure ⟨.taken, answer⟩

/-- `Guarded`: take the key, do the work, record the answer. -/
def guarded (platform : Platform) (session : ι) (tenant : TenantId) (key : IdempotencyKey)
    (fingerprint : RequestFingerprint) (expiresAt : Int) (script : Script E) :
    Work ι E (Result Served) :=
  catchRollback <| inTenant session tenant do
    let taken ← take session tenant key fingerprint expiresAt
    let claim ← ofExcept taken.orRefuse
    if claim.outcome ≠ .taken then pure ⟨claim.outcome, claim.answer⟩
    else do
      let answer ← produce platform session script
      let completed ← complete session tenant key answer
      ofExcept completed.orRefuse
      pure ⟨.taken, answer⟩

end Area

/-! ### Responses -/

/-- `Refuse`. -/
def refuse (platform : Platform) (headers : List (String × Text)) (problem : Problem) : Response :=
  ⟨problem.status, headers ++ [("Content-Type", utf8 kProblemContentType)],
    render platform problem⟩

/-- `Answer`: the one place where an answer is put together. -/
def answer (platform : Platform) (headers : List (String × Text)) (served : Result Served)
    (occasion : Occasion) (key : Option IdempotencyKey) : Response :=
  match served with
  | .error failure => refuse platform headers (asProblem failure occasion)
  | .ok ⟨.inFlight, _⟩ =>
    refuse platform headers (keyInFlight ((key.map (·.value)).getD []) occasion)
  | .ok ⟨.taken, saved⟩ =>
    ⟨saved.status, headers ++ [("Content-Type", utf8 "application/json")], saved.body⟩
  | .ok ⟨.replay, saved⟩ =>
    ⟨saved.status, headers ++ [("Content-Type", utf8 "application/json"),
      (kReplayedHeader, utf8 "true")], saved.body⟩

/-- The response says that its operation was done before. -/
def Response.isReplayed (response : Response) : Bool :=
  response.headers.any fun header => header.1 = kReplayedHeader

/-! ### The whole way -/

/-- How a request leaves the way up to the tenant's area: refused, or let in to read, or let
in to change something under a key. -/
inductive Entrance where
  | refused (problem : Problem)
  | reading (caller : Caller) (body : Json)
  | changing (caller : Caller) (body : Json) (key : IdempotencyKey)
      (fingerprint : RequestFingerprint)

section Serve

variable {ι E : Type} (platform : Platform) (handler : Handler) (arrival : Arrival E)
  (request : Request)

/-- `RequestIdOf`: the trace the client sent, if it is usable, or else our own. -/
def requestIdOf : Text :=
  if isUsableRequestId (request.header kRequestIdHeader) then request.header kRequestIdHeader
  else arrival.tracingRequestId

/-- Where a problem of the request occurred. -/
def occasionOf : Occasion := ⟨request.path, requestIdOf arrival request⟩

/-- The headers that are set before the way forks. -/
def headersOf : List (String × Text) :=
  kSecurityHeaders ++ [(kRequestIdHeader, requestIdOf arrival request)]

/-- `Serve` up to the tenant's area. -/
def enter : Except Exception Entrance :=
  let occasion := occasionOf arrival request
  match handler.schema.parse platform request.body with
  | .error (failure, field) => .ok (.refused (malformed failure field occasion))
  | .ok body => do
    match ← arrival.identify (request.cookie handler.whereCredential.cookie)
      (request.header handler.whereCredential.header) with
    | .error failure => .ok (.refused (unidentified failure occasion))
    | .ok caller =>
      let decision ← arrival.decide caller.tenant caller.actor handler.wants
        (handler.about caller body)
      if !decision.1.allowed then .ok (.refused (denialProblem decision.1 occasion))
      else if !request.method.mutating then .ok (.reading caller body)
      else
        match IdempotencyKey.parse (request.header kIdempotencyKeyHeader) with
        | .error _ => .ok (.refused (keyRequired kIdempotencyKeyHeader occasion))
        | .ok key =>
          let fingerprint ← fingerprintOf platform request.body
          .ok (.changing caller body key fingerprint)

/-- `Serve`. -/
def serve (session : ι) : Work ι E Response :=
  let occasion := occasionOf arrival request
  let headers := headersOf arrival request
  let requestId := requestIdOf arrival request
  match enter platform handler arrival request with
  | .error exception => raise (.thrown exception)
  | .ok (.refused problem) => pure (refuse platform headers problem)
  | .ok (.reading caller body) => do
    let served ← plain platform session caller.tenant (arrival.run caller body requestId)
    pure (answer platform headers served occasion none)
  | .ok (.changing caller body key fingerprint) => do
    let served ← guarded platform session caller.tenant key fingerprint
      (handler.lifetime.expiresFrom arrival.now) (arrival.run caller body requestId)
    pure (answer platform headers served occasion (some key))

end Serve

end Pdr.Http
