namespace FeatureTables

inductive BaseClass where
  | anything
  | text
  | integer
  | boolean
  | real
  | bytes
  | record
  | list
  | decimal
  | timestamp
  | date
  | time
  | geometry
  | multipart
  | point
  | lineString
  | linearRing
  | polygon
  | multiPoint
  | multiLineString
  | multiPolygon
  | collection
  deriving DecidableEq, Repr

namespace BaseClass

def name : BaseClass → String
  | anything => "object"
  | text => "str"
  | integer => "int"
  | boolean => "bool"
  | real => "float"
  | bytes => "bytes"
  | record => "dict"
  | list => "list"
  | decimal => "Decimal"
  | timestamp => "datetime"
  | date => "date"
  | time => "time"
  | geometry => "BaseGeometry"
  | multipart => "BaseMultipartGeometry"
  | point => "Point"
  | lineString => "LineString"
  | linearRing => "LinearRing"
  | polygon => "Polygon"
  | multiPoint => "MultiPoint"
  | multiLineString => "MultiLineString"
  | multiPolygon => "MultiPolygon"
  | collection => "GeometryCollection"

def all : List BaseClass :=
  [anything, text, integer, boolean, real, bytes, record, list, decimal, timestamp, date, time,
    geometry, multipart, point, lineString, linearRing, polygon, multiPoint, multiLineString,
    multiPolygon, collection]

def ofName? (name : String) : Option BaseClass := all.find? (·.name = name)

def parent? : BaseClass → Option BaseClass
  | anything => none
  | boolean => some integer
  | timestamp => some date
  | multipart | point | lineString | polygon => some geometry
  | linearRing => some lineString
  | multiPoint | multiLineString | multiPolygon | collection => some multipart
  | _ => some anything

def ancestors : BaseClass → List BaseClass
  | anything => [anything]
  | boolean => [boolean, integer, anything]
  | timestamp => [timestamp, date, anything]
  | geometry => [geometry, anything]
  | linearRing => [linearRing, lineString, geometry, anything]
  | multipart => [multipart, geometry, anything]
  | point => [point, geometry, anything]
  | lineString => [lineString, geometry, anything]
  | polygon => [polygon, geometry, anything]
  | multiPoint => [multiPoint, multipart, geometry, anything]
  | multiLineString => [multiLineString, multipart, geometry, anything]
  | multiPolygon => [multiPolygon, multipart, geometry, anything]
  | collection => [collection, multipart, geometry, anything]
  | c => [c, anything]

theorem ancestors_parent (c : BaseClass) :
    c.ancestors = c :: (c.parent?.map ancestors).getD [] := by cases c <;> rfl

end BaseClass

-- A caller may derive classes to any depth. A derived class is told apart from every
-- base class, also from one of the same name.
inductive Class where
  | base (c : BaseClass)
  | derived (label : String) (parent : Class)
  deriving DecidableEq, Repr

namespace Class

def name : Class → String
  | base c => c.name
  | derived label _ => label

def ancestors : Class → List Class
  | base c => c.ancestors.map base
  | derived label parent => derived label parent :: parent.ancestors

def descendsFrom (c : Class) (b : BaseClass) : Bool := c.ancestors.contains (base b)

def isGeometry (c : Class) : Bool := c.descendsFrom .geometry

theorem descendsFrom_derived : (derived label parent).descendsFrom b = parent.descendsFrom b := by
  simp [descendsFrom, ancestors]

end Class

end FeatureTables
