import ParamSql.Session

/-!
# What is asked and what is answered

A session is followed in two ways.  Its traces are the rows of requests and
replies by which it can come to an answer, whatever it is answered.  A backend
picks one of them, and what counts of a run against it is the answer and the
state that it leaves.

The laws of this file open both along the parts of a session.
-/

namespace ParamSql

/-- A request and the reply to it. -/
structure Exchange where
  request : Request
  reply : request.Reply

namespace Session

variable {α β σ : Type}

/-! ## Traces -/

/-- By these exchanges a session comes to an answer. -/
def Traces : Session α → List Exchange → α → Prop
  | done result, exchanges, answer => exchanges = [] ∧ answer = result
  | notify _ rest, exchanges, answer => rest.Traces exchanges answer
  | ask request next, exchanges, answer =>
      ∃ reply later, exchanges = ⟨request, reply⟩ :: later ∧ (next reply).Traces later answer

@[simp]
theorem traces_done {result answer : α} {exchanges : List Exchange} :
    (done result).Traces exchanges answer ↔ exchanges = [] ∧ answer = result :=
  Iff.rfl

@[simp]
theorem traces_notify {notice : Notice} {rest : Session α} {answer : α}
    {exchanges : List Exchange} :
    (notify notice rest).Traces exchanges answer ↔ rest.Traces exchanges answer :=
  Iff.rfl

theorem traces_ask {request : Request} {next : request.Reply → Session α} {answer : α}
    {exchanges : List Exchange} :
    (ask request next).Traces exchanges answer ↔
      ∃ reply later, exchanges = ⟨request, reply⟩ :: later ∧ (next reply).Traces later answer :=
  Iff.rfl

/-- A single request is one exchange, and its reply is the answer. -/
theorem traces_request {request : Request} {reply : request.Reply}
    {exchanges : List Exchange} :
    (Session.request request).Traces exchanges reply ↔ exchanges = [⟨request, reply⟩] := by
  constructor
  · rintro ⟨answered, later, rfl, rfl, rfl⟩
    rfl
  · rintro rfl
    exact ⟨reply, [], rfl, rfl, rfl⟩

/-- A trace of a session that goes on is a trace of each part, one after the
other. -/
theorem traces_bind {session : Session α} {next : α → Session β} {answer : β}
    {exchanges : List Exchange} :
    (session.bind next).Traces exchanges answer ↔
      ∃ before result after, exchanges = before ++ after ∧
        session.Traces before result ∧ (next result).Traces after answer := by
  induction session generalizing exchanges with
  | done result =>
      constructor
      · intro trace
        exact ⟨[], result, exchanges, rfl, ⟨rfl, rfl⟩, trace⟩
      · rintro ⟨before, result, after, rfl, ⟨rfl, rfl⟩, trace⟩
        exact trace
  | notify notice rest ih => exact ih
  | ask request branch ih =>
      constructor
      · rintro ⟨reply, later, rfl, trace⟩
        obtain ⟨before, result, after, rfl, first, second⟩ := (ih reply).mp trace
        exact ⟨⟨request, reply⟩ :: before, result, after, rfl, ⟨reply, before, rfl, first⟩,
          second⟩
      · rintro ⟨_, result, after, rfl, ⟨reply, before, rfl, first⟩, second⟩
        exact ⟨reply, before ++ after, rfl,
          (ih reply).mpr ⟨before, result, after, rfl, first, second⟩⟩

/-- After a failure there are no more exchanges. -/
theorem traces_andThen {first : Session (Except Error α)}
    {next : α → Session (Except Error β)} {answer : Except Error β}
    {exchanges : List Exchange} :
    (first.andThen next).Traces exchanges answer ↔
      (∃ error, first.Traces exchanges (.error error) ∧ answer = .error error) ∨
        ∃ before result after, exchanges = before ++ after ∧
          first.Traces before (.ok result) ∧ (next result).Traces after answer := by
  rw [andThen, traces_bind]
  constructor
  · rintro ⟨before, result | result, after, rfl, trace, later⟩
    · obtain ⟨rfl, rfl⟩ := later
      exact .inl ⟨result, by rwa [List.append_nil], rfl⟩
    · exact .inr ⟨before, result, after, rfl, trace, later⟩
  · rintro (⟨error, trace, rfl⟩ | ⟨before, result, after, rfl, trace, later⟩)
    · exact ⟨exchanges, .error error, [], by rw [List.append_nil], trace, rfl, rfl⟩
    · exact ⟨before, .ok result, after, rfl, trace, later⟩

/-- Making something of a success adds no exchanges. -/
theorem traces_andThen_done {first : Session (Except Error α)} {make : α → β}
    {answer : Except Error β} {exchanges : List Exchange}
    (trace : (first.andThen fun result => done (.ok (make result))).Traces exchanges answer) :
    ∃ result, first.Traces exchanges result ∧ answer = result.map make := by
  rcases traces_andThen.mp trace with
    ⟨error, failed, rfl⟩ | ⟨before, result, _, rfl, succeeded, rfl, rfl⟩
  · exact ⟨.error error, failed, rfl⟩
  · exact ⟨.ok result, by rwa [List.append_nil], rfl⟩

/-- Whatever a session is answered, it only asks for what it can ask for. -/
theorem Asks.of_mem_traces {allowed : Request → Prop} {session : Session α}
    (asks : session.Asks allowed) {exchanges : List Exchange} {answer : α}
    (trace : session.Traces exchanges answer) {exchange : Exchange}
    (member : exchange ∈ exchanges) : allowed exchange.request := by
  induction session generalizing exchanges with
  | done result =>
      obtain ⟨rfl, -⟩ := trace
      cases member
  | notify notice rest ih => exact ih asks trace member
  | ask request branch ih =>
      obtain ⟨reply, later, rfl, trace⟩ := trace
      rcases List.mem_cons.mp member with rfl | member
      · exact asks.1
      · exact ih reply (asks.2 reply) trace member

/-! ## Runs against a backend -/

variable (backend : Backend σ)

/-- What a session and a backend say to each other. -/
def exchanges : Session α → σ → List Exchange
  | done _, _ => []
  | notify _ rest, state => rest.exchanges state
  | ask request next, state =>
      let (reply, state) := backend.answer request state
      ⟨request, reply⟩ :: (next reply).exchanges state

/-- The answer of a session and the state that it leaves. -/
def outcome (session : Session α) (state : σ) : α × σ :=
  ((session.run backend state).1, (session.run backend state).2.1)

/-- What is said in a run is a trace that comes to its answer. -/
theorem traces_exchanges (session : Session α) (state : σ) :
    session.Traces (session.exchanges backend state) (session.outcome backend state).1 := by
  induction session generalizing state with
  | done answer => exact ⟨rfl, rfl⟩
  | notify notice rest ih => exact ih state
  | ask request branch ih => exact ⟨_, _, rfl, ih _ _⟩

@[simp]
theorem outcome_done (answer : α) (state : σ) :
    (done answer).outcome backend state = (answer, state) :=
  rfl

@[simp]
theorem outcome_notify (notice : Notice) (rest : Session α) (state : σ) :
    (notify notice rest).outcome backend state = rest.outcome backend state :=
  rfl

@[simp]
theorem outcome_ask (request : Request) (next : request.Reply → Session α) (state : σ) :
    (ask request next).outcome backend state =
      (next (backend.answer request state).1).outcome backend (backend.answer request state).2 :=
  rfl

/-- The second part of a session goes on from the state that the first part
left. -/
theorem outcome_bind (session : Session α) (next : α → Session β) (state : σ) :
    (session.bind next).outcome backend state =
      (next (session.outcome backend state).1).outcome backend
        (session.outcome backend state).2 := by
  simp only [outcome, run_bind]

/-- What the parts of a session say is said one after the other. -/
theorem exchanges_bind (session : Session α) (next : α → Session β) (state : σ) :
    (session.bind next).exchanges backend state =
      session.exchanges backend state ++
        (next (session.outcome backend state).1).exchanges backend
          (session.outcome backend state).2 := by
  induction session generalizing state with
  | done answer => rfl
  | notify notice rest ih => exact ih state
  | ask request branch ih => exact congrArg (List.cons _) (ih _ _)

/-- A failure is the answer, with the state in which it came. -/
theorem outcome_andThen (first : Session (Except Error α))
    (next : α → Session (Except Error β)) (state : σ) :
    (first.andThen next).outcome backend state =
      match first.outcome backend state with
      | (.ok answer, later) => (next answer).outcome backend later
      | (.error error, later) => (.error error, later) := by
  rw [andThen, outcome_bind]
  rcases first.outcome backend state with ⟨error | answer, later⟩ <;> rfl

end Session

end ParamSql
