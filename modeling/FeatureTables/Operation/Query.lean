import FeatureTables.Dialect.Tables
import FeatureTables.Geometry.Decode
import FeatureTables.Operation.Execution

namespace FeatureTables

inductive FieldValue where
  | cell (cell : Cell)
  | geometry (geometry : PlacedGeometry)

abbrev Feature := List (String × FieldValue)

namespace FieldValue

def decode : FieldValue → Except Fault FieldValue
  | cell c => do
    match ← decodeValue c with
    | some placed => return geometry placed
    | none => return cell .null
  | geometry _ => .error (.undecodable .value)

end FieldValue

namespace Feature

def value (f : Feature) (name : String) : FieldValue := (f.lookup name).getD (.cell .null)

def put (name : String) (value : FieldValue) : Feature → Feature
  | [] => [(name, value)]
  | field :: rest =>
    if field.1 = name then (name, value) :: rest else field :: put name value rest

def ofRow (columns : List String) (cells : List Cell) : Feature :=
  (columns.zip cells).foldl (fun f field => f.put field.1 (.cell field.2)) []

def decodeField (f : Feature) (name : String) : Except Fault Feature := do
  return f.put name (← (f.value name).decode)

def decode (t : FeatureType) (f : Feature) : Except Fault Feature :=
  t.geometryColumns.foldlM (fun f c => f.decodeField c.name) f

end Feature

def readFeatureRows (t : FeatureType) (result : ResultSet) : Except Fault (List Feature) :=
  result.rows.mapM fun cells => (Feature.ofRow result.columns cells).decode t

def readFeatures (d : Dialect) (t : FeatureType) (limit offset : Int) : Session (List Feature) := do
  let sql := d.select t limit offset
  Session.debug ("feature query: " ++ sql)
  Session.query sql none (.statement .features sql) (readFeatureRows t)

def rowBox : List Cell → Except Fault (Option Box)
  | [] => .error .emptyRow
  | first :: _ => decodeEnvelope first

def joinBox (soFar? next? : Option Box) : Option Box :=
  match soFar?, next? with
  | some soFar, some next => some (soFar.merge next)
  | none, next? => next?
  | soFar?, none => soFar?

def readBoundsRows (rows : List (List Cell)) : Except Fault (Option Box) :=
  rows.foldlM (fun soFar? row => return joinBox soFar? (← rowBox row)) none

def readBounds (d : Dialect) (t : FeatureType) (column : String) : Session (Option Box) := do
  let sql := d.bounds t column
  Session.debug ("bounds query: " ++ sql)
  Session.query sql none (.statement .bounds sql) fun result => readBoundsRows result.rows

end FeatureTables
