import FeatureTables.Datum

namespace FeatureTables

inductive GeometryType where
  | point
  | multiPoint
  | lineString
  | multiLineString
  | polygon
  | multiPolygon
  | geometry
  deriving DecidableEq, Repr

namespace GeometryType

def all : List GeometryType :=
  [point, multiPoint, lineString, multiLineString, polygon, multiPolygon, geometry]

def number : GeometryType → Nat
  | point => 1
  | multiPoint => 2
  | lineString => 3
  | multiLineString => 4
  | polygon => 5
  | multiPolygon => 6
  | geometry => 7

def name : GeometryType → String
  | point => "POINT"
  | multiPoint => "MULTIPOINT"
  | lineString => "LINESTRING"
  | multiLineString => "MULTILINESTRING"
  | polygon => "POLYGON"
  | multiPolygon => "MULTIPOLYGON"
  | geometry => "GEOMETRY"

def ofName? (name : String) : Option GeometryType := all.find? (·.name = name)

end GeometryType

inductive SqlType where
  | varchar
  | char
  | integer
  | bigint
  | smallint
  | boolean
  | double
  | float
  | decimal
  | timestamp
  | date
  | varbinary
  | text
  | numeric
  | blob
  | clob
  | real
  | time
  | datetime
  | json
  deriving DecidableEq, Repr

namespace SqlType

def all : List SqlType :=
  [varchar, char, integer, bigint, smallint, boolean, double, float, decimal, timestamp, date,
    varbinary, text, numeric, blob, clob, real, time, datetime, json]

def name : SqlType → String
  | varchar => "VARCHAR"
  | char => "CHAR"
  | integer => "INTEGER"
  | bigint => "BIGINT"
  | smallint => "SMALLINT"
  | boolean => "BOOLEAN"
  | double => "DOUBLE"
  | float => "FLOAT"
  | decimal => "DECIMAL"
  | timestamp => "TIMESTAMP"
  | date => "DATE"
  | varbinary => "VARBINARY"
  | text => "TEXT"
  | numeric => "NUMERIC"
  | blob => "BLOB"
  | clob => "CLOB"
  | real => "REAL"
  | time => "TIME"
  | datetime => "DATETIME"
  | json => "JSON"

def ofName? (name : String) : Option SqlType := all.find? (·.name = name)

theorem mem_all (t : SqlType) : t ∈ all := by cases t <;> decide

end SqlType

-- What a class is stored as. Callers may also ask about a plain value, which is never
-- equal to a code.
inductive TypeCode where
  | geometry (type : GeometryType)
  | sql (type : SqlType)
  | value (value : Datum)
  deriving DecidableEq

end FeatureTables
