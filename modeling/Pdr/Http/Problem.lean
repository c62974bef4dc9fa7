import Pdr.Http.Core.Idempotency
import Pdr.Identity.Policies.Policy

/-!
# Refusals as answers

Every refusal, whoever makes it, becomes an answer of one form, and its status follows from
the kind of the refusal. No refusal is answered with the status of a success.

## Main definitions

* `Pdr.Http.Json`, `Pdr.Http.Platform`: what the service takes from its platform.
* `Pdr.Http.Problem`, `Pdr.Http.render`: the one form of a refusal.
* `Pdr.Http.asProblem`, `Pdr.Http.denialProblem`, `Pdr.Http.unidentified`,
  `Pdr.Http.malformed`, `Pdr.Http.keyRequired`, `Pdr.Http.keyInFlight`: the refusals.

## Main results

* `Pdr.Http.statusOf_ne_ok`, `Pdr.Http.statusOfDenial_ne_ok`: refusals are no successes.
-/

namespace Pdr.Http

open Identity (DenyReason PolicyDecision)

/-! ### What the platform gives -/

/-- A value of JSON. -/
inductive Json where
  | null
  | boolean (value : Bool)
  | integer (value : Int)
  | string (text : Text)
  | array (items : List Json)
  | object (members : List (String × Json))

/-- What the service takes from userver: JSON from its text, or what is wrong with the text;
JSON as text; the SHA-256 of some bytes, in hexadecimal. -/
structure Platform where
  fromText : Text → Except String Json
  toText : Json → Text
  sha256 : Text → Text

/-! ### The form of a refusal -/

/-- A problem as it is told to the client. -/
structure Problem where
  type : String
  title : String
  status : Int
  detail : Text
  instance_ : Text
  requestId : Text
  field : Option String := none
deriving DecidableEq

/-- What the type of every problem begins with. -/
def kProblemTypePrefix : String := "urn:pdr:error:"

/-- The type of the problem with a code. -/
def problemType (code : String) : String := kProblemTypePrefix ++ code

/-- `Render`: the members in the order in which they are set. -/
def render (platform : Platform) (problem : Problem) : Text :=
  platform.toText <| .object <|
    [("type", .string (utf8 problem.type)),
      ("title", .string (utf8 problem.title)),
      ("status", .integer problem.status),
      ("detail", .string problem.detail),
      ("instance", .string problem.instance_),
      ("request_id", .string problem.requestId)] ++
    (problem.field.map fun field => ("field", Json.string (utf8 field))).toList

/-- The path a request came to and its trace. -/
structure Occasion where
  instance_ : Text
  requestId : Text

/-- `Build`. -/
def buildProblem (code title : String) (status : Int) (detail : Text) (occasion : Occasion) :
    Problem :=
  ⟨problemType code, title, status, detail, occasion.instance_, occasion.requestId, none⟩

/-! ### Refusals of the domain -/

/-- The statuses of HTTP that are answered. -/
def kOk : Int := 200
def kBadRequest : Int := 400
def kUnauthorized : Int := 401
def kForbidden : Int := 403
def kNotFound : Int := 404
def kConflict : Int := 409
def kUnprocessable : Int := 422
def kInternal : Int := 500

/-- `StatusOf` of a kind of refusal. -/
def statusOf : ErrorKind → Int
  | .validation => kUnprocessable
  | .notFound => kNotFound
  | .conflict => kConflict
  | .forbidden => kForbidden

/-- `TitleOf` of a kind of refusal. -/
def titleOf : ErrorKind → String
  | .validation => "Данные не проходят правило"
  | .notFound => "Не найдено"
  | .conflict => "Состояние не позволяет"
  | .forbidden => "Нельзя"

/-- `AsProblem` of a refusal. -/
def asProblem (error : Error) (occasion : Occasion) : Problem :=
  buildProblem error.code (titleOf error.kind) (statusOf error.kind) (utf8 error.detail) occasion

theorem statusOf_ne_ok (kind : ErrorKind) : statusOf kind ≠ kOk := by
  cases kind <;> decide

/-! ### Refusals of the policy -/

/-- `StatusOf` of a reason. A foreign tenant is not confirmed to exist. -/
def statusOfDenial : DenyReason → Int
  | .allowed => kOk
  | .foreignTenant => kNotFound
  | .roleMissing | .notYours | .scopeMissing | .studentGrewUp | .tooYoung => kForbidden
  | .noPolicy | .boundary => kInternal

/-- `TitleOf` of a reason. -/
def titleOfDenial : DenyReason → String
  | .allowed => "Можно"
  | .foreignTenant => "Не найдено"
  | .roleMissing | .notYours | .scopeMissing | .studentGrewUp | .tooYoung => "Нельзя"
  | .noPolicy | .boundary => "Поломка"

/-- `AsProblem` of a decision. -/
def denialProblem (decision : PolicyDecision) (occasion : Occasion) : Problem :=
  buildProblem decision.reason.name (titleOfDenial decision.reason)
    (statusOfDenial decision.reason) (utf8 decision.reason.name) occasion

theorem statusOfDenial_ne_ok {reason : DenyReason} (h : reason ≠ .allowed) :
    statusOfDenial reason ≠ kOk := by
  cases reason with
  | allowed => exact absurd rfl h
  | _ => decide

/-! ### Refusals of the handler -/

/-- `Unidentified`: who comes is not known. -/
def unidentified (error : Error) (occasion : Occasion) : Problem :=
  { buildProblem "not_identified" "Кто вы" kUnauthorized (utf8 error.detail) occasion with
    type := problemType error.code }

/-- `Malformed`: the body is no JSON, or not what the schema asks for. -/
def malformed (error : Error) (field : String) (occasion : Occasion) : Problem :=
  { buildProblem "request_malformed" "Запрос не разобрался" kBadRequest (utf8 error.detail)
      occasion with
    type := problemType error.code
    field := if field.isEmpty then none else some field }

/-- `KeyRequired`: no key, or one that is no good. -/
def keyRequired (header : String) (occasion : Occasion) : Problem :=
  buildProblem "idempotency_key_required" "Нужен ключ повтора" kBadRequest
    (utf8 ("заголовок " ++ header ++
      " обязателен: без него повтор по оборванной связи выполнит операцию второй раз")) occasion

/-- `KeyInFlight`: the first request of the key goes on. -/
def keyInFlight (key : Text) (occasion : Occasion) : Problem :=
  buildProblem "idempotency_key_in_flight" "Тот же запрос уже выполняется" kConflict
    (utf8 "ключ «" ++ key ++
      utf8 ("» занят запросом, который ещё идёт. Повторите через несколько секунд: " ++
        "параллельно операция не выполняется")) occasion

end Pdr.Http
