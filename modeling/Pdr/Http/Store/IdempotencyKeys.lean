import Pdr.Http.Problem
import Pdr.StoreProgram.Interleaving
import Pdr.StoreProgram.Versions

/-!
# The table of keys

The table `http_idempotency_key` under PostgreSQL's READ COMMITTED. A statement sees the
rows that were committed when it took its snapshot, and those of its own transaction. The
statement that takes a key first inserts: where another transaction has written the key and
is not over, the insertion waits; where the key is committed, it inserts nothing. The rest
of the statement reads the snapshot, which may be older than what the insertion met. So a
claim is two calls here, the snapshot and the insertion with its answer.

## Main definitions

* `Pdr.Http.KeyRow`: a row of the table.
* `Pdr.Http.Statement`: what a transaction asks of the database.
* `Pdr.Http.Postgres`, `Pdr.Http.postgres`: the database and what the statements do to it.
* `Pdr.Http.claimOf`, `Pdr.Http.take`, `Pdr.Http.complete`: the repository of keys.
-/

namespace Pdr.Http

open StoreProgram Program

/-! ### Rows -/

/-- The primary key: whose key it is and the key itself. -/
abbrev KeyId : Type := TenantId × IdempotencyKey

/-- The state of a row. The schema has the answer in a completed row and nowhere else. -/
inductive KeyState where
  | inProgress
  | completed (answer : SavedAnswer)
deriving DecidableEq, Repr

/-- A row of `http_idempotency_key` without its primary key. When the row was created is left out,
and with it the check that it expires later: the database takes that moment from a clock of its
own. -/
structure KeyRow where
  fingerprint : RequestFingerprint
  state : KeyState
  expiresAt : Int
deriving DecidableEq

/-- What the claiming statement returns: a row, and whether it is the one just inserted. -/
structure ClaimRow where
  fingerprint : RequestFingerprint
  state : KeyState
  mine : Bool
deriving DecidableEq

/-! ### Transactions -/

/-- What a scenario does in its transaction: what it has written when it ends, and how it
ends, with a value, with a refusal, or with an exception at any point of its work. -/
structure Script (E : Type) where
  effect : E
  outcome : Except Exception (Result Json)

/-- An open transaction: the tenant it is opened for, the rows its statement saw when it
began, and what the scenario has written. -/
structure Transaction (E : Type) where
  tenant : TenantId
  snapshot : KeyId → Option KeyRow := fun _ => none
  effect : Option E := none

/-- The database: the keys, what the scenarios of committed transactions have written, in
the order of the commits, and the transactions that are open. -/
structure Postgres (ι E : Type) where
  keys : Versions ι KeyId KeyRow := {}
  effects : List (ι × E) := []
  transactions : ι → Option (Transaction E) := fun _ => none

/-- What is asked of the database in the transaction of `session`. -/
inductive Statement (ι E : Type) where
  /-- `TenantContext::Open`: begin the transaction and name its tenant. -/
  | open_ (session : ι) (tenant : TenantId)
  /-- The claiming statement begins: it takes its snapshot. -/
  | snapshot (session : ι)
  /-- The claiming statement inserts and returns. -/
  | claim (session : ι) (tenant : TenantId) (key : IdempotencyKey)
      (fingerprint : RequestFingerprint) (expiresAt : Int)
  /-- The scenario does its work. -/
  | run (session : ι) (script : Script E)
  /-- The statement that closes a key; it returns how many rows it changed. -/
  | complete (session : ι) (tenant : TenantId) (key : IdempotencyKey) (answer : SavedAnswer)
  | commit (session : ι)
  | rollback (session : ι)

/-- What a statement returns. -/
abbrev Statement.Answer {ι E : Type} : Statement ι E → Type
  | open_ .. | snapshot _ | commit _ | rollback _ => Unit
  | claim .. => List ClaimRow
  | run .. => Result Json
  | complete .. => Nat

/-- A computation over the database. -/
abbrev Work (ι E α : Type) : Type :=
  Program (Statement.Answer : Statement ι E → Type) Fault α

/-- What a statement outside a transaction gets. -/
def noTransaction : Fault := .thrown (.runtime "no transaction is open")

/-- What a row of another tenant than the declared one gets from the row policy, and a
status out of range from its check. -/
def keyRefused : Fault := .thrown (.schemaViolation "http_idempotency_key")

namespace Postgres

variable {ι E : Type} [DecidableEq ι]

/-- The database with another transaction of the session. -/
def withTransaction (db : Postgres ι E) (session : ι) (transaction : Option (Transaction E)) :
    Postgres ι E :=
  { db with transactions := Function.update db.transactions session transaction }

/-- The claiming statement from its insertion on. -/
def claim (db : Postgres ι E) (transaction : Transaction E) (session : ι) (tenant : TenantId)
    (key : IdempotencyKey) (fingerprint : RequestFingerprint) (expiresAt : Int) :
    Except Fault (List ClaimRow) × Postgres ι E :=
  if tenant = transaction.tenant then
    match db.keys.visible session (tenant, key) with
    | none =>
      (.ok [⟨fingerprint, .inProgress, true⟩],
        { db with
          keys := db.keys.write session (tenant, key) ⟨fingerprint, .inProgress, expiresAt⟩ })
    | some _ =>
      -- Nothing was inserted: the other branch looks for the key in the statement's snapshot.
      (.ok ((transaction.snapshot (tenant, key)).toList.map fun row =>
        ⟨row.fingerprint, row.state, false⟩), db)
  else (.error keyRefused, db)

/-- The statement that closes a key. -/
def complete (db : Postgres ι E) (transaction : Transaction E) (session : ι) (tenant : TenantId)
    (key : IdempotencyKey) (answer : SavedAnswer) : Except Fault Nat × Postgres ι E :=
  if tenant = transaction.tenant then
    match db.keys.visible session (tenant, key) with
    | some ⟨fingerprint, .inProgress, expiresAt⟩ =>
      if 100 ≤ answer.status ∧ answer.status ≤ 599 then
        (.ok 1,
          { db with
            keys := db.keys.write session (tenant, key)
              ⟨fingerprint, .completed answer, expiresAt⟩ })
      else (.error keyRefused, db)
    | _ => (.ok 0, db)
  else (.ok 0, db)

/-- What each statement does. Statements but the first need an open transaction. -/
def exec (statement : Statement ι E) (db : Postgres ι E) :
    Except Fault statement.Answer × Postgres ι E :=
  match statement with
  | .open_ session tenant => (.ok (), db.withTransaction session (some { tenant := tenant }))
  | .snapshot session =>
    match db.transactions session with
    | none => (.error noTransaction, db)
    | some transaction =>
      (.ok (), db.withTransaction session
        (some { transaction with snapshot := db.keys.visible session }))
  | .claim session tenant key fingerprint expiresAt =>
    match db.transactions session with
    | none => (.error noTransaction, db)
    | some transaction => db.claim transaction session tenant key fingerprint expiresAt
  | .run session script =>
    match db.transactions session with
    | none => (.error noTransaction, db)
    | some transaction =>
      (script.outcome.mapError .thrown,
        db.withTransaction session (some { transaction with effect := some script.effect }))
  | .complete session tenant key answer =>
    match db.transactions session with
    | none => (.error noTransaction, db)
    | some transaction => db.complete transaction session tenant key answer
  | .commit session =>
    match db.transactions session with
    | none => (.error noTransaction, db)
    | some transaction =>
      (.ok (),
        { db.withTransaction session none with
          keys := db.keys.publish session
          effects := db.effects ++ transaction.effect.toList.map fun effect => (session, effect) })
  | .rollback session =>
    (.ok (), { db.withTransaction session none with keys := db.keys.discard session })

/-- A statement that writes a key waits while another open transaction has written it. -/
def ready : Statement ι E → Postgres ι E → Bool
  | .claim session tenant key _ _, db => db.keys.isFree session (tenant, key)
  | .complete session tenant key _, db => db.keys.isFree session (tenant, key)
  | _, _ => true

end Postgres

/-- The database as a machine. -/
def postgres {ι E : Type} [DecidableEq ι] :
    Machine (Statement.Answer : Statement ι E → Type) Fault (Postgres ι E) :=
  ⟨Postgres.exec, Postgres.ready⟩

/-! ### The repository of keys -/

/-- What `PostgresIdempotencyKeys::Take` makes of the rows it gets. -/
def claimOf (rows : List ClaimRow) (fingerprint : RequestFingerprint) :
    Except Fault (Result Claim) :=
  match rows with
  | [] => .error (.thrown (.runtime "http_idempotency_key: занятие ключа не вернуло строки"))
  | row :: _ =>
    if row.mine then .ok (.ok ⟨.taken, {}⟩)
    else if row.fingerprint ≠ fingerprint then
      .ok (.error ⟨.conflict, "idempotency_key_reused",
        "этот ключ уже занят запросом с другим телом. Это ошибка клиента, а не повтор: " ++
          "возьмите новый ключ"⟩)
    else
      match row.state with
      | .inProgress => .ok (.ok ⟨.inFlight, {}⟩)
      | .completed answer => .ok (.ok ⟨.replay, answer⟩)

section Repository

variable {ι E : Type}

/-- `PostgresIdempotencyKeys::Take`. -/
def take (session : ι) (tenant : TenantId) (key : IdempotencyKey)
    (fingerprint : RequestFingerprint) (expiresAt : Int) : Work ι E (Result Claim) := do
  perform (Statement.snapshot session)
  let rows ← perform (.claim session tenant key fingerprint expiresAt)
  ofExcept (claimOf rows fingerprint)

/-- `PostgresIdempotencyKeys::Complete`. -/
def complete (session : ι) (tenant : TenantId) (key : IdempotencyKey) (answer : SavedAnswer) :
    Work ι E (Result Unit) := do
  let changed ← perform (.complete session tenant key answer)
  if changed ≠ 1 then
    raise (.thrown (.runtime "http_idempotency_key: закрывать нечего — строка занята не нами"))
  else pure (.ok ())

end Repository

end Pdr.Http
