import FeatureTables.Connection.Request
import FeatureTables.Fault

namespace FeatureTables

inductive Level where
  | debug
  | info
  deriving DecidableEq, Repr

-- An operation as a tree of requests: what it asks next depends only on the answers so
-- far. Laws about every connection are inductions on the tree, and clients that share
-- a connection are trees that take turns.
inductive Session (α : Type) where
  | done (value : α)
  | fail (fault : Fault)
  | note (level : Level) (message : String) (rest : Session α)
  | call (request : Request) (resume : request.Answer → Session α)

namespace Session

def andThen : Session α → (α → Session β) → Session β
  | done value, next => next value
  | fail fault, _ => fail fault
  | note level message rest, next => note level message (rest.andThen next)
  | call request resume, next => call request fun answer => (resume answer).andThen next

instance : Monad Session where
  pure := done
  bind := andThen

theorem andThen_done (session : Session α) : session.andThen done = session := by
  induction session with
  | done | fail => rfl
  | note _ _ _ ih => simp [andThen, ih]
  | call _ _ ih => simp [andThen, ih]

theorem andThen_assoc (session : Session α) (first : α → Session β) (second : β → Session γ) :
    (session.andThen first).andThen second =
      session.andThen fun value => (first value).andThen second := by
  induction session with
  | done | fail => rfl
  | note _ _ _ ih => simp [andThen, ih]
  | call _ _ ih => simp [andThen, ih]

instance : LawfulMonad Session := LawfulMonad.mk' Session andThen_done (fun _ _ => rfl) andThen_assoc

def attempt : Session α → Session (Except Fault α)
  | done value => done (.ok value)
  | fail fault => done (.error fault)
  | note level message rest => note level message rest.attempt
  | call request resume => call request fun answer => (resume answer).attempt

def ofExcept : Except Fault α → Session α
  | .ok value => done value
  | .error fault => fail fault

def each (act : α → Session β) : List α → Session (List β)
  | [] => done []
  | item :: rest => do
    let first ← act item
    let others ← each act rest
    return first :: others

def debug (message : String) : Session Unit := note .debug message (done ())

def info (message : String) : Session Unit := note .info message (done ())

def ask (request : Request) : Session request.Answer := call request done

def close : Session Unit := ask .close

-- A database failure becomes the fault that the caller makes of it; any other failure
-- passes through as it is.
def failure (wrap : Failure → Fault) (f : Failure) : Session α :=
  fail (if f.isDatabase then wrap f else .passed f)

end Session

inductive Event where
  | note (level : Level) (message : String)
  | call (request : Request) (answer : request.Answer)

structure Outcome (State α : Type) where
  result : Except Fault α
  state : State
  events : List Event

def Outcome.andThen (earlier : Outcome State α) (next : α → State → Outcome State β) :
    Outcome State β :=
  match earlier.result with
  | .ok value =>
    let later := next value earlier.state
    { later with events := earlier.events ++ later.events }
  | .error fault => ⟨.error fault, earlier.state, earlier.events⟩

def Outcome.after (event : Event) (outcome : Outcome State α) : Outcome State α :=
  { outcome with events := event :: outcome.events }

def Session.run (connection : Connection State) : Session α → State → Outcome State α
  | done value, state => ⟨.ok value, state, []⟩
  | fail fault, state => ⟨.error fault, state, []⟩
  | note level message rest, state => (rest.run connection state).after (.note level message)
  | call request resume, state =>
    let reply := connection.answer request state
    ((resume reply.1).run connection reply.2).after (.call request reply.1)

theorem Outcome.after_andThen (event : Event) (earlier : Outcome State α)
    (next : α → State → Outcome State β) :
    (earlier.after event).andThen next = (earlier.andThen next).after event := by
  cases result : earlier.result <;> simp [andThen, after, result]

theorem Session.run_andThen (connection : Connection State) (session : Session α)
    (next : α → Session β) (state : State) :
    (session.andThen next).run connection state =
      (session.run connection state).andThen fun value state => (next value).run connection state := by
  induction session generalizing state with
  | done => simp [Session.andThen, Session.run, Outcome.andThen]
  | fail => simp [Session.andThen, Session.run, Outcome.andThen]
  | note _ _ _ ih => simp [Session.andThen, Session.run, ih, Outcome.after_andThen]
  | call _ _ ih => simp [Session.andThen, Session.run, ih, Outcome.after_andThen]

end FeatureTables
