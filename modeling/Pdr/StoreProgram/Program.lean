import Mathlib.Data.List.Basic

/-!
# Programs over a store

A scenario talks to its stores through calls: it makes a call, waits for the answer and
goes on with it. Between two calls it computes on its own, so nobody else can see where
in that computation it stands. `Program` is a scenario cut at its calls; a call answers
with a value or with an exception, and the program may look at either.

The same program is run in two ways: alone (`Program.run`), or step by step among others
(`StoreProgram.Runs`). What one program can do, whatever its answers are, is
described by the histories it follows.

## Main definitions

* `StoreProgram.Program`: a computation cut at its calls. `Answer` gives the type of the
  answer to each call of `Op`.
* `StoreProgram.Machine`: what each call does to a state; `StoreProgram.Machine.Keeps`: a
  predicate that every call keeps; `StoreProgram.Machine.after`: the state after calls.
* `StoreProgram.Program.run`: a program alone against a machine.
* `StoreProgram.Program.Follows`: the histories of a program.
* `StoreProgram.Program.Returns`: the histories that end with a value.
* `StoreProgram.Program.Honours`: every call keeps a promise, as long as the answers can be
  relied on; `StoreProgram.Program.Only`: every call keeps it, whatever the answers.

## Main results

* `StoreProgram.Program.run_bind`: a sequence runs as its parts do.
* `StoreProgram.Program.returns_bind`: a returning history of a sequence splits at it.
* `StoreProgram.Program.Follows.honours`: a program keeps its promise along its histories.
-/

namespace StoreProgram

/-- A computation cut at its store calls. The rest of a `call` sees the answer, which is a
value or the exception the store threw. -/
inductive Program {Op : Type} (Answer : Op → Type) (ε α : Type) : Type where
  | done (value : α)
  | raise (error : ε)
  | call (op : Op) (rest : Except ε (Answer op) → Program Answer ε α)

/-- What each call does to a state, and in which states it can be made at all: a call that
is not `ready` waits. -/
structure Machine {Op : Type} (Answer : Op → Type) (ε σ : Type) where
  exec : (op : Op) → σ → Except ε (Answer op) × σ
  ready : Op → σ → Bool := fun _ _ => true

/-- A predicate no call destroys. -/
def Machine.Keeps {Op : Type} {Answer : Op → Type} {ε σ : Type} (M : Machine Answer ε σ)
    (P : σ → Prop) : Prop :=
  ∀ op s, P s → P (M.exec op s).2

/-- The state after some calls, whoever makes them. -/
def Machine.after {Op : Type} {Answer : Op → Type} {ε σ : Type} (M : Machine Answer ε σ)
    (ops : List Op) (s : σ) : σ :=
  ops.foldl (fun s op => (M.exec op s).2) s

theorem Machine.Keeps.of_exec {Op : Type} {Answer : Op → Type} {ε σ : Type}
    {M : Machine Answer ε σ} {P : σ → Prop} (kept : M.Keeps P) {op : Op} {s s' : σ}
    {answer : Except ε (Answer op)} (h : M.exec op s = (answer, s')) (start : P s) : P s' := by
  have hafter := kept op s start
  rwa [h] at hafter

/-- What every call keeps, any number of calls keep. -/
theorem Machine.Keeps.after {Op : Type} {Answer : Op → Type} {ε σ : Type}
    {M : Machine Answer ε σ} {P : σ → Prop} (kept : M.Keeps P) (ops : List Op) {s : σ}
    (start : P s) : P (M.after ops s) := by
  induction ops generalizing s with
  | nil => exact start
  | cons op ops ih => exact ih (kept op s start)

/-- One call with the answer it was given. -/
structure Entry {Op : Type} (Answer : Op → Type) (ε : Type) where
  op : Op
  answer : Except ε (Answer op)

namespace Program

variable {Op : Type} {Answer : Op → Type} {ε α β σ : Type}

/-- One program after another. -/
protected def bind : Program Answer ε α → (α → Program Answer ε β) → Program Answer ε β
  | done value, next => next value
  | raise error, _ => raise error
  | call op rest, next => call op fun answer => (rest answer).bind next

instance : Monad (Program Answer ε) where
  pure := done
  bind := Program.bind

/-- A computation that needs no store. -/
def ofExcept : Except ε α → Program Answer ε α
  | .ok value => done value
  | .error error => raise error

/-- Make one call; an exception of the store goes up. -/
def perform (op : Op) : Program Answer ε (Answer op) :=
  call op ofExcept

/-- Run `program`; where it raises an error, go on with what `handler` makes of it. -/
def tryCatch : Program Answer ε α → (ε → Program Answer ε α) → Program Answer ε α
  | done value, _ => done value
  | raise error, handler => handler error
  | call op rest, handler => call op fun answer => (rest answer).tryCatch handler

@[simp] theorem pure_eq_done (value : α) : (pure value : Program Answer ε α) = done value := rfl

@[simp] theorem done_bind (value : α) (next : α → Program Answer ε β) :
    done value >>= next = next value := rfl

@[simp] theorem raise_bind (error : ε) (next : α → Program Answer ε β) :
    raise error >>= next = (raise error : Program Answer ε β) := rfl

@[simp] theorem call_bind (op : Op) (rest : Except ε (Answer op) → Program Answer ε α)
    (next : α → Program Answer ε β) :
    call op rest >>= next = call op fun answer => rest answer >>= next := rfl

theorem bind_bind {γ : Type} (program : Program Answer ε α) (next : α → Program Answer ε β)
    (last : β → Program Answer ε γ) :
    program >>= next >>= last = program >>= fun value => next value >>= last := by
  induction program with
  | done value => rfl
  | raise error => rfl
  | call op rest ih => exact congrArg (call op) (funext ih)

@[simp] theorem done_tryCatch (value : α) (handler : ε → Program Answer ε α) :
    (done value).tryCatch handler = done value := rfl

@[simp] theorem raise_tryCatch (error : ε) (handler : ε → Program Answer ε α) :
    (raise error).tryCatch handler = handler error := rfl

@[simp] theorem call_tryCatch (op : Op) (rest : Except ε (Answer op) → Program Answer ε α)
    (handler : ε → Program Answer ε α) :
    (call op rest).tryCatch handler = call op fun answer => (rest answer).tryCatch handler := rfl

@[simp] theorem ofExcept_ok (value : α) :
    (ofExcept (.ok value) : Program Answer ε α) = done value := rfl

@[simp] theorem ofExcept_error (error : ε) :
    (ofExcept (.error error) : Program Answer ε α) = raise error := rfl

/-- The value of a program that is at its end and has one. -/
def value? : Program Answer ε α → Option α
  | done value => some value
  | _ => none

theorem value?_eq_some {program : Program Answer ε α} {value : α} :
    program.value? = some value ↔ program = done value := by
  cases program <;> simp [value?]

/-- The program is at its end, with a value or an error. -/
def isOver : Program Answer ε α → Bool
  | call .. => false
  | _ => true

/-! ### A program alone -/

/-- Run a program to its end, each call taking effect at once. -/
def run (M : Machine Answer ε σ) : Program Answer ε α → σ → Except ε α × σ
  | done value, s => (.ok value, s)
  | raise error, s => (.error error, s)
  | call op rest, s => (rest (M.exec op s).1).run M (M.exec op s).2

section Run

variable (M : Machine Answer ε σ)

@[simp] theorem run_done (value : α) (s : σ) :
    (done value : Program Answer ε α).run M s = (.ok value, s) := rfl

@[simp] theorem run_raise (error : ε) (s : σ) :
    (raise error : Program Answer ε α).run M s = (.error error, s) := rfl

@[simp] theorem run_call (op : Op) (rest : Except ε (Answer op) → Program Answer ε α)
    (s : σ) :
    (call op rest).run M s = (rest (M.exec op s).1).run M (M.exec op s).2 := rfl

@[simp] theorem run_ofExcept (result : Except ε α) (s : σ) :
    (ofExcept result : Program Answer ε α).run M s = (result, s) := by
  cases result <;> rfl

@[simp] theorem run_perform (op : Op) (s : σ) :
    (perform op : Program Answer ε _).run M s = M.exec op s := by
  simp [perform]

theorem run_keeps {P : σ → Prop} (kept : M.Keeps P) (program : Program Answer ε α) {s : σ}
    (start : P s) : P (program.run M s).2 := by
  induction program generalizing s with
  | done value => exact start
  | raise error => exact start
  | call op rest ih => exact ih (M.exec op s).1 (kept op s start)

theorem keeps_of_run {P : σ → Prop} (kept : M.Keeps P) {program : Program Answer ε α} {s s' : σ}
    {outcome : Except ε α} (h : program.run M s = (outcome, s')) (start : P s) : P s' := by
  have hafter := run_keeps M kept program start
  rwa [h] at hafter

/-- Running a sequence: the first part, then either its error or the second part. -/
theorem run_bind (program : Program Answer ε α) (next : α → Program Answer ε β) (s : σ) :
    (program >>= next).run M s =
      match program.run M s with
      | (.ok value, s') => (next value).run M s'
      | (.error error, s') => (.error error, s') := by
  induction program generalizing s with
  | done value => rfl
  | raise error => rfl
  | call op rest ih => exact ih (M.exec op s).1 (M.exec op s).2

/-- A sequence that returned did so through a value of its first part. -/
theorem run_bind_eq_ok {program : Program Answer ε α} {next : α → Program Answer ε β} {s s' : σ}
    {value : β} (h : (program >>= next).run M s = (.ok value, s')) :
    ∃ middle between, program.run M s = (.ok middle, between) ∧
      (next middle).run M between = (.ok value, s') := by
  rw [run_bind] at h
  rcases hp : program.run M s with ⟨result, between⟩
  rw [hp] at h
  cases result with
  | ok middle => exact ⟨middle, between, rfl, h⟩
  | error error => cases h

/-- A sequence ends with an error of its first part or with one of the second. -/
theorem run_bind_eq_error {program : Program Answer ε α} {next : α → Program Answer ε β}
    {s s' : σ} {error : ε} :
    (program >>= next).run M s = (.error error, s') ↔
      program.run M s = (.error error, s') ∨
        ∃ middle between, program.run M s = (.ok middle, between) ∧
          (next middle).run M between = (.error error, s') := by
  rw [run_bind]
  rcases program.run M s with ⟨result, between⟩
  cases result with
  | ok middle => simp
  | error error' => simp

theorem run_ofExcept_bind_eq_ok {outcome : Except ε α} {next : α → Program Answer ε β} {s s' : σ}
    {value : β} :
    (ofExcept outcome >>= next).run M s = (.ok value, s') ↔
      ∃ given, outcome = .ok given ∧ (next given).run M s = (.ok value, s') := by
  cases outcome <;> simp

/-- A sequence that begins with a call returned after the call gave an answer. -/
theorem run_perform_bind_eq_ok {op : Op} {next : Answer op → Program Answer ε β} {s s' : σ}
    {value : β} :
    (perform op >>= next).run M s = (.ok value, s') ↔
      ∃ answer between, M.exec op s = (.ok answer, between) ∧
        (next answer).run M between = (.ok value, s') := by
  constructor
  · intro h
    obtain ⟨answer, between, hfirst, hnext⟩ := run_bind_eq_ok M h
    exact ⟨answer, between, by rwa [run_perform] at hfirst, hnext⟩
  · rintro ⟨answer, between, hfirst, hnext⟩
    rw [run_bind, run_perform, hfirst]
    exact hnext

end Run

/-! ### What a program can do -/

/-- `Follows p h q`: given the answers of the history `h`, the program `p` makes exactly
its calls and stands at `q`. -/
inductive Follows : Program Answer ε α → List (Entry Answer ε) → Program Answer ε α → Prop where
  | stay (program : Program Answer ε α) : Follows program [] program
  | step {op : Op} {rest : Except ε (Answer op) → Program Answer ε α}
      {answer : Except ε (Answer op)} {history : List (Entry Answer ε)}
      {program : Program Answer ε α} (h : Follows (rest answer) history program) :
      Follows (call op rest) (⟨op, answer⟩ :: history) program

/-- The history `h` takes the program to the value `value`. -/
def Returns (program : Program Answer ε α) (history : List (Entry Answer ε)) (value : α) : Prop :=
  Follows program history (done value)

theorem follows_raise {error : ε} {program : Program Answer ε α}
    {history : List (Entry Answer ε)} (h : Follows (raise error) history program) :
    history = [] := by
  cases h
  rfl

theorem follows_call {op : Op} {rest : Except ε (Answer op) → Program Answer ε α}
    {program : Program Answer ε α} {history : List (Entry Answer ε)}
    (h : Follows (call op rest) history program) :
    (history = [] ∧ program = call op rest) ∨
      ∃ answer later, history = ⟨op, answer⟩ :: later ∧ Follows (rest answer) later program := by
  cases h with
  | stay program => exact Or.inl ⟨rfl, rfl⟩
  | step h => exact Or.inr ⟨_, _, rfl, h⟩

@[simp] theorem returns_done (value result : α) (history : List (Entry Answer ε)) :
    Returns (done value) history result ↔ history = [] ∧ value = result := by
  constructor
  · intro h
    cases h
    exact ⟨rfl, rfl⟩
  · rintro ⟨rfl, rfl⟩
    exact .stay _

@[simp] theorem not_returns_raise (error : ε) (result : α) (history : List (Entry Answer ε)) :
    ¬ Returns (raise error) history result := by
  intro h
  cases h

theorem returns_call (op : Op) (rest : Except ε (Answer op) → Program Answer ε α)
    (history : List (Entry Answer ε)) (result : α) :
    Returns (call op rest) history result ↔
      ∃ answer later, history = ⟨op, answer⟩ :: later ∧ Returns (rest answer) later result := by
  constructor
  · intro h
    cases h with
    | step h => exact ⟨_, _, rfl, h⟩
  · rintro ⟨answer, later, rfl, h⟩
    exact .step h

@[simp] theorem returns_ofExcept (outcome : Except ε α) (history : List (Entry Answer ε))
    (result : α) :
    Returns (ofExcept outcome) history result ↔ history = [] ∧ outcome = .ok result := by
  cases outcome <;> simp

@[simp] theorem returns_perform (op : Op) (history : List (Entry Answer ε))
    (result : Answer op) :
    Returns (perform op) history result ↔ history = [⟨op, .ok result⟩] := by
  rw [perform, returns_call]
  constructor
  · rintro ⟨answer, later, rfl, h⟩
    obtain ⟨rfl, rfl⟩ := (returns_ofExcept _ _ _).1 h
    rfl
  · rintro rfl
    exact ⟨_, _, rfl, (returns_ofExcept _ _ _).2 ⟨rfl, rfl⟩⟩

/-- A history that takes a sequence to a value takes the first part to a value and, from
there on, the second part to the value of the whole. -/
theorem returns_bind (program : Program Answer ε α) (next : α → Program Answer ε β)
    (history : List (Entry Answer ε)) (result : β) :
    Returns (program >>= next) history result ↔
      ∃ value early late, Returns program early value ∧ Returns (next value) late result ∧
        history = early ++ late := by
  induction program generalizing history with
  | done value => simp
  | raise error => simp
  | call op rest ih =>
    rw [call_bind, returns_call]
    constructor
    · rintro ⟨answer, later, rfl, h⟩
      obtain ⟨value, early, late, hearly, hlate, rfl⟩ := (ih answer later).1 h
      exact ⟨value, ⟨op, answer⟩ :: early, late, .step hearly, hlate, rfl⟩
    · rintro ⟨value, early, late, hearly, hlate, rfl⟩
      obtain ⟨answer, later, rfl, h⟩ := (returns_call ..).1 hearly
      exact ⟨answer, later ++ late, rfl,
        (ih answer (later ++ late)).2 ⟨value, later, late, h, hlate, rfl⟩⟩

theorem returns_ofExcept_bind (outcome : Except ε α) (next : α → Program Answer ε β)
    (history : List (Entry Answer ε)) (result : β) :
    Returns (ofExcept outcome >>= next) history result ↔
      ∃ value, outcome = .ok value ∧ Returns (next value) history result := by
  cases outcome <;> simp

/-- A sequence that begins with a call returns through a value of the call. -/
theorem returns_perform_bind (op : Op) (next : Answer op → Program Answer ε β)
    (history : List (Entry Answer ε)) (result : β) :
    Returns (perform op >>= next) history result ↔
      ∃ answer later, history = ⟨op, .ok answer⟩ :: later ∧
        Returns (next answer) later result := by
  rw [returns_bind]
  constructor
  · rintro ⟨answer, early, later, hearly, hlater, rfl⟩
    obtain rfl := (returns_perform ..).1 hearly
    exact ⟨answer, later, rfl, hlater⟩
  · rintro ⟨answer, later, rfl, hlater⟩
    exact ⟨answer, _, later, (returns_perform ..).2 rfl, hlater, rfl⟩

/-! ### What a program promises -/

/-- Every call of the program satisfies `promise`, as long as the answers before it satisfied
`rely`. -/
def Honours (promise : Op → Prop) (rely : (op : Op) → Except ε (Answer op) → Prop) :
    Program Answer ε α → Prop
  | done _ => True
  | raise _ => True
  | call op rest => promise op ∧ ∀ answer, rely op answer → Honours promise rely (rest answer)

/-- Every call on every path of the program satisfies `allowed`. -/
abbrev Only (allowed : Op → Prop) (program : Program Answer ε α) : Prop :=
  Honours allowed (fun _ _ => True) program

section Honours

variable {promise : Op → Prop} {rely : (op : Op) → Except ε (Answer op) → Prop}

@[simp] theorem honours_done (value : α) :
    Honours promise rely (done value : Program Answer ε α) := trivial

@[simp] theorem honours_raise (error : ε) :
    Honours promise rely (raise error : Program Answer ε α) := trivial

@[simp] theorem honours_ofExcept (outcome : Except ε α) :
    Honours promise rely (ofExcept outcome : Program Answer ε α) := by
  cases outcome <;> trivial

@[simp] theorem honours_perform (op : Op) :
    Honours promise rely (perform op : Program Answer ε _) ↔ promise op := by
  simp [perform, Honours]

theorem Honours.bind {program : Program Answer ε α} {next : α → Program Answer ε β}
    (first : Honours promise rely program) (second : ∀ value, Honours promise rely (next value)) :
    Honours promise rely (program >>= next) := by
  induction program with
  | done value => exact second value
  | raise error => trivial
  | call op rest ih => exact ⟨first.1, fun answer hanswer => ih answer (first.2 answer hanswer)⟩

theorem honours_perform_bind {op : Op} {next : Answer op → Program Answer ε β}
    (first : promise op)
    (second : ∀ value, rely op (.ok value) → Honours promise rely (next value)) :
    Honours promise rely (perform op >>= next) := by
  refine ⟨first, fun answer hanswer => ?_⟩
  cases answer with
  | ok value => exact second value hanswer
  | error error => trivial

theorem Honours.mono {promise' : Op → Prop} {program : Program Answer ε α}
    (h : Honours promise rely program) (hle : ∀ op, promise op → promise' op) :
    Honours promise' rely program := by
  induction program with
  | done value => trivial
  | raise error => trivial
  | call op rest ih => exact ⟨hle op h.1, fun answer hanswer => ih answer (h.2 answer hanswer)⟩

theorem Honours.and {promise' : Op → Prop} {program : Program Answer ε α}
    (h : Honours promise rely program) (h' : Honours promise' rely program) :
    Honours (fun op => promise op ∧ promise' op) rely program := by
  induction program with
  | done value => trivial
  | raise error => trivial
  | call op rest ih =>
    exact ⟨⟨h.1, h'.1⟩, fun answer hanswer => ih answer (h.2 answer hanswer) (h'.2 answer hanswer)⟩

/-- Along each history whose answers can be relied on, the promise is kept, and what is left
of the program keeps it too. -/
theorem Follows.honours {program program' : Program Answer ε α} {history : List (Entry Answer ε)}
    (h : Follows program history program') (hprogram : Honours promise rely program)
    (hanswers : ∀ entry ∈ history, rely entry.op entry.answer) :
    (∀ entry ∈ history, promise entry.op) ∧ Honours promise rely program' := by
  induction h with
  | stay program => exact ⟨by simp, hprogram⟩
  | step h ih =>
    obtain ⟨hlater, hrest⟩ := ih (hprogram.2 _ (hanswers _ List.mem_cons_self))
      fun entry hentry => hanswers entry (List.mem_cons_of_mem _ hentry)
    refine ⟨fun entry hentry => ?_, hrest⟩
    rcases List.mem_cons.1 hentry with rfl | hentry
    · exact hprogram.1
    · exact hlater entry hentry

theorem Follows.only {allowed : Op → Prop} {program program' : Program Answer ε α}
    {history : List (Entry Answer ε)} (h : Follows program history program')
    (hallowed : Only allowed program) : ∀ entry ∈ history, allowed entry.op :=
  (h.honours hallowed fun _ _ => trivial).1

theorem run_keeps_of_only {allowed : Op → Prop} {M : Machine Answer ε σ} {P : σ → Prop}
    (kept : ∀ op, allowed op → ∀ s, P s → P (M.exec op s).2) {program : Program Answer ε α}
    (hallowed : Only allowed program) {s : σ} (start : P s) : P (program.run M s).2 := by
  induction program generalizing s with
  | done value => exact start
  | raise error => exact start
  | call op rest ih =>
    exact ih (M.exec op s).1 (hallowed.2 _ trivial) (kept op hallowed.1 s start)

end Honours

end Program

end StoreProgram
