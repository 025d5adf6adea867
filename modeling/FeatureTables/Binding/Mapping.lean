import FeatureTables.Binding.Class
import FeatureTables.Binding.TypeCode
import FeatureTables.Fault

namespace FeatureTables

inductive Binding where
  | ofClass (c : Class)
  | value (value : Datum)
  deriving DecidableEq

namespace Binding

def class? : Binding → Option Class
  | ofClass c => some c
  | value _ => none

def className? (b : Binding) : Option String := b.class?.map Class.name

def isGeometry (b : Binding) : Bool := b.class?.any Class.isGeometry

end Binding

-- The registered pairs. Lookup by class, by code and by name each has its table; only
-- the class table is searched along ancestors.
namespace Mapping

def sqlCodes : List (BaseClass × SqlType) :=
  [(.text, .varchar), (.integer, .integer), (.boolean, .boolean), (.real, .double),
    (.decimal, .decimal), (.timestamp, .timestamp), (.date, .date), (.bytes, .varbinary)]

def sqlClasses : List (SqlType × BaseClass) :=
  [(.varchar, .text), (.char, .text), (.integer, .integer), (.bigint, .integer),
    (.smallint, .integer), (.boolean, .boolean), (.double, .real), (.float, .real),
    (.decimal, .decimal), (.timestamp, .timestamp), (.date, .date), (.varbinary, .bytes)]

def geometryClasses : List (GeometryType × BaseClass) :=
  [(.point, .point), (.multiPoint, .multiPoint), (.lineString, .lineString),
    (.multiLineString, .multiLineString), (.polygon, .polygon), (.multiPolygon, .multiPolygon),
    (.geometry, .geometry)]

def readOnlyNames : List (String × BaseClass) := [("GEOMETRYCOLLECTION", .collection)]

def plainClassCodes : List (BaseClass × TypeCode) := sqlCodes.map fun pair => (pair.1, .sql pair.2)

def classCodes : List (BaseClass × TypeCode) :=
  plainClassCodes ++ geometryClasses.map fun pair => (pair.2, .geometry pair.1)

def plainCodeClasses : List (TypeCode × BaseClass) := sqlClasses.map fun pair => (.sql pair.1, pair.2)

def codeClasses : List (TypeCode × BaseClass) :=
  plainCodeClasses ++ geometryClasses.map fun pair => (.geometry pair.1, pair.2)

def plainNameClasses : List (String × BaseClass) := sqlClasses.map fun pair => (pair.1.name, pair.2)

def nameClasses : List (String × BaseClass) :=
  plainNameClasses ++ (geometryClasses.map fun pair => (pair.1.name, pair.2)) ++ readOnlyNames

end Mapping

namespace Class

def registered? : Class → Option TypeCode
  | base c => Mapping.classCodes.lookup c
  | derived .. => none

def code? (c : Class) : Option TypeCode := c.ancestors.findSome? registered?

def sqlType? : Class → Option SqlType
  | base c => Mapping.sqlCodes.lookup c
  | derived .. => none

def storage (c : Class) : SqlType := (c.ancestors.findSome? sqlType?).getD .varchar

def ownName? : Class → Option String
  | base c => (Mapping.nameClasses.find? (·.2 = c)).map (·.1)
  | derived .. => none

-- A geometry class goes by its own name, else by that of its code.
def geometryName? (c : Class) : Option String :=
  if c.isGeometry then
    match c.ownName? with
    | some name => some name
    | none =>
      match c.code? with
      | some (.geometry type) => some type.name
      | _ => none
  else none

end Class

namespace Binding

def code? : Binding → Except Fault (Option TypeCode)
  | ofClass c => .ok c.code?
  | value v => if v.isKey then .ok none else .error .notKey

def geometryName? (b : Binding) : Option String := b.class?.bind Class.geometryName?

def storage : Binding → SqlType
  | ofClass c => c.storage
  | value _ => .varchar

end Binding

namespace TypeCode

def isKey : TypeCode → Bool
  | value v => v.isKey
  | _ => true

def class? (code : TypeCode) : Except Fault (Option BaseClass) :=
  if code.isKey then .ok (Mapping.codeClasses.lookup code) else .error .notKey

def name : TypeCode → String
  | geometry type => type.name
  | _ => "geometry"

end TypeCode

def codeForName (name : Datum) : Except Fault (Option GeometryType) :=
  match name with
  | .text name => .ok (GeometryType.ofName? name)
  | name => if name.isKey then .ok none else .error .notKey

def classForName (name : Datum) : Except Fault (Option BaseClass) :=
  match name with
  | .text name => .ok (Mapping.nameClasses.lookup name)
  | name => if name.isKey then .ok none else .error .notKey

end FeatureTables
