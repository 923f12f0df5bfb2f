import ParamSql.Diagnostics
import ParamSql.Error

/-!
# Sessions

A session is what a client does on one connection: it gives notices, asks the
connection one request at a time and goes on with the reply.  It is a tree
with a branch for every reply, so what a session does can be told without a
server.  A backend answers the requests and keeps a state of its own.
-/

namespace ParamSql

/-! ## Requests -/

/-- What a client asks of its connection. -/
inductive Request where
  /-- Begin a transaction. -/
  | begin
  | commit
  | rollback
  /-- Run statements without parameters. -/
  | batch (sql : String)
  /-- Run a statement and give its rows. -/
  | query (sql : String) (params : List Value)
  /-- Run a statement and give the number of rows it affected. -/
  | execute (sql : String) (params : List Value)

/-- What a request is answered with. -/
abbrev Request.Reply : Request → Type
  | begin | commit | rollback => Except DriverError Unit
  | batch _ => Except Error Unit
  | query .. => Except Error (List Row)
  | execute .. => Except Error Nat

/-- Whether a request runs statements, so that it neither begins nor ends a
transaction. -/
def Request.isStatement : Request → Bool
  | begin | commit | rollback => false
  | batch _ | query .. | execute .. => true

/-! ## Sessions -/

/-- What a client does until it has an answer. -/
inductive Session (α : Type) where
  | done (answer : α)
  | notify (notice : Notice) (rest : Session α)
  | ask (request : Request) (next : request.Reply → Session α)

namespace Session

/-- Go on with the answer of a session. -/
def bind {α β : Type} : Session α → (α → Session β) → Session β
  | done answer, next => next answer
  | notify notice rest, next => notify notice (rest.bind next)
  | ask request branch, next => ask request fun reply => (branch reply).bind next

instance : Monad Session where
  pure := done
  bind := bind

@[simp]
theorem bind_done {α β : Type} (answer : α) (next : α → Session β) :
    (done answer).bind next = next answer :=
  rfl

/-- Ending with the answer adds nothing. -/
@[simp]
theorem bind_done_right {α : Type} (session : Session α) : session.bind done = session := by
  induction session with
  | done answer => rfl
  | notify notice rest ih => simp [bind, ih]
  | ask request branch ih => simp [bind, ih]

/-- Going on twice is going on with what goes on. -/
theorem bind_assoc {α β γ : Type} (session : Session α) (next : α → Session β)
    (last : β → Session γ) :
    (session.bind next).bind last = session.bind fun answer => (next answer).bind last := by
  induction session with
  | done answer => rfl
  | notify notice rest ih => simp [bind, ih]
  | ask request branch ih => simp [bind, ih]

/-- Ask one request. -/
def request (request : Request) : Session request.Reply :=
  ask request done

/-- Give notices. -/
def notifyAll : List Notice → Session Unit
  | [] => done ()
  | notice :: rest => notify notice (notifyAll rest)

/-- Go on after a success; a failure is the answer. -/
def andThen {α β : Type} (first : Session (Except Error α))
    (next : α → Session (Except Error β)) : Session (Except Error β) :=
  first.bind fun
    | .ok answer => next answer
    | .error error => done (.error error)

/-! ## What a session can ask for -/

/-- Every request that a session can come to, whatever the replies, is
allowed. -/
def Asks {α : Type} (allowed : Request → Prop) : Session α → Prop
  | done _ => True
  | notify _ rest => rest.Asks allowed
  | ask request next => allowed request ∧ ∀ reply, (next reply).Asks allowed

/-- A session that goes on asks for what its parts ask for. -/
theorem Asks.bind {α β : Type} {allowed : Request → Prop} {session : Session α}
    {next : α → Session β} (first : session.Asks allowed)
    (second : ∀ answer, (next answer).Asks allowed) : (session.bind next).Asks allowed := by
  induction session with
  | done answer => exact second answer
  | notify notice rest ih => exact ih first
  | ask request branch ih => exact ⟨first.1, fun reply => ih reply (first.2 reply)⟩

/-- After a failure nothing is asked for. -/
theorem Asks.andThen {α β : Type} {allowed : Request → Prop}
    {first : Session (Except Error α)} {next : α → Session (Except Error β)}
    (asks : first.Asks allowed) (later : ∀ answer, (next answer).Asks allowed) :
    (first.andThen next).Asks allowed := by
  refine Asks.bind asks fun result => ?_
  cases result with
  | error error => trivial
  | ok answer => exact later answer

/-! ## Transactions -/

/-- End a transaction according to its result: commit a success, roll back a
failure. -/
def conclude {α : Type} : Except Error α → Session (Except Error α)
  | .ok answer =>
      ask .commit fun
        | .ok () => done (.ok answer)
        | .error error => done (.error (.query error))
  | .error error =>
      ask .rollback fun
        | .ok () => done (.error error)
        | .error rollback => done (.error (.rollbackFailed error rollback))

/-- Run a body in a transaction. -/
def transaction {α : Type} (body : Session (Except Error α)) : Session (Except Error α) :=
  ask .begin fun
    | .ok () => body.bind conclude
    | .error error => done (.error (.query error))

end Session

/-! ## Backends -/

/-- What answers requests, from a state that it may change. -/
structure Backend (σ : Type) where
  answer : (request : Request) → σ → request.Reply × σ

/-- Run a session against a backend: its answer, the state after it and the
notices in order. -/
def Session.run {σ α : Type} (backend : Backend σ) : Session α → σ → α × σ × List Notice
  | .done answer, state => (answer, state, [])
  | .notify notice rest, state =>
      let (answer, state, notices) := rest.run backend state
      (answer, state, notice :: notices)
  | .ask request next, state =>
      let (reply, state) := backend.answer request state
      (next reply).run backend state

/-- A backend answers the second part of a session from the state that the
first part left. -/
theorem Session.run_bind {σ α β : Type} (backend : Backend σ) (session : Session α)
    (next : α → Session β) (state : σ) :
    (session.bind next).run backend state =
      let (answer, between, first) := session.run backend state
      let (result, after, second) := (next answer).run backend between
      (result, after, first ++ second) := by
  induction session generalizing state with
  | done answer => rfl
  | notify notice rest ih => simp [bind, run, ih]
  | ask request branch ih => simp [bind, run, ih]

end ParamSql
