import FeatureTables.Datum
import FeatureTables.Connection.Failure

namespace FeatureTables

-- The rows of a query, in order. A failure may end them; it is met only after the last
-- row has been delivered.
structure ResultSet where
  columns : List String
  rows : List (List Cell)
  failure? : Option Failure

def ResultSet.nothing : ResultSet := ⟨[], [], none⟩

-- Everything that is ever asked of a connection. A statement without parameters of its
-- own is told apart from one with none to give.
inductive Request where
  | execute (sql : String) (parameters? : Option Parameters)
  | close
  | commit
  | options
  | isolation
  | hasTable (name : String) (schema? : Option String)
  | indexNames (table : String) (schema? : Option String)

abbrev Request.Answer : Request → Type
  | .execute .. => Except Failure ResultSet
  | .close => Unit
  | .commit => Except Failure Unit
  | .options => Parameters
  | .isolation => Datum
  | .hasTable .. => Except Failure Bool
  | .indexNames .. => Except Failure (List (Option String))

structure Connection (State : Type) where
  answer : (request : Request) → State → request.Answer × State

structure Settings where
  options : Parameters
  isolation : Datum
  commitFailure? : Option Failure

def Settings.commit (s : Settings) : Except Failure Unit :=
  match s.commitFailure? with
  | some failure => .error failure
  | none => .ok ()

end FeatureTables
