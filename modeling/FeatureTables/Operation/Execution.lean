import FeatureTables.Connection.Session

namespace FeatureTables

namespace Session

def send (sql : String) (parameters : Parameters) : Session Unit := do
  debug ("execute: " ++ sql)
  if parameters ≠ [] then debug ("params: " ++ parameters.shown)
  match ← ask (.execute sql (some parameters)) with
  | .error f => failure (.statement .execution sql) f
  | .ok _ => close

-- One query whose rows are read in order. Rows are read before a failure at their end
-- is met, so the first bad row wins over it; the result is released in either case.
def query (sql : String) (parameters? : Option Parameters) (wrap : Failure → Fault)
    (read : ResultSet → Except Fault α) : Session α := do
  match ← ask (.execute sql parameters?) with
  | .error f => failure wrap f
  | .ok result =>
    close
    match read result, result.failure? with
    | .ok _, some f => failure wrap f
    | .ok value, none => return value
    | .error fault, _ => fail fault

end Session

end FeatureTables
