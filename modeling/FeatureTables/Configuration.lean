import FeatureTables.Connection.Session
import FeatureTables.Dialect.Basic

namespace FeatureTables

namespace Datum

def mentions (word : String) : Datum → Except Fault Bool
  | text value => .ok (Text.cut? word.toList value.toList).isSome
  | list items => .ok (items.contains (.text word))
  | record fields => .ok (fields.any (·.1 = word))
  | _ => .error .notSearchable

end Datum

namespace Backend

def name : Backend → String
  | phoenix => "phoenix"
  | standard => "default"

def ofDatum? (value : Datum) : Option Backend :=
  if value = .text phoenix.name then some phoenix
  else if value = .text standard.name then some standard
  else none

-- What the configuration asks for. A database that calls itself Phoenix decides over it;
-- another database decides only where nothing is asked for.
def requested (configuration : Parameters) (databaseName? : Option Datum) : Except Fault Datum := do
  let asked? := configuration.lookup "backend"
  match databaseName? with
  | none => return asked?.getD (.text phoenix.name)
  | some databaseName =>
    if ← databaseName.mentions phoenix.name then return .text phoenix.name
    else return asked?.getD (.text standard.name)

end Backend

namespace Dialect

def configured (backend : Backend) (configuration : Parameters) (registry : Crs.Registry) : Dialect :=
  let base := ofBackend backend
  { base with
    registry
    immutableRows := ((configuration.lookup "immutable_rows").map Datum.truthy).getD base.immutableRows
    indexSuffix :=
      match configuration.read "index_suffix" with
      | .null => base.indexSuffix
      | suffix => suffix.plain }

def choose (configuration : Parameters) (databaseName? : Option Datum) (registry : Crs.Registry) :
    Session Dialect := do
  let asked ← Session.ofExcept (Backend.requested configuration databaseName?)
  Session.debug ("Using SQL dialect for backend '" ++ asked.plain ++ "'")
  match Backend.ofDatum? asked with
  | some backend => return configured backend configuration registry
  | none => .fail (.unknownBackend asked.plain)

end Dialect

end FeatureTables
