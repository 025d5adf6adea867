import FeatureTables.Dialect.Names
import FeatureTables.Feature

namespace FeatureTables

namespace Backend

def asBinary : Backend → String → String
  | phoenix, column => "asWKB(" ++ column ++ ")"
  | standard, column => "ST_AsBinary(" ++ column ++ ")"

def envelope : Backend → String → String
  | phoenix, column => "envelope(" ++ column ++ ")"
  | standard, column => "ST_Envelope(" ++ column ++ ")"

def envelopeAsBinary (b : Backend) (column : String) : String := b.asBinary (b.envelope column)

end Backend

namespace Dialect

def classCodes (d : Dialect) : List (BaseClass × TypeCode) :=
  match d.backend with
  | .phoenix => Mapping.classCodes
  | .standard => Mapping.plainClassCodes

def codeClasses (d : Dialect) : List (TypeCode × BaseClass) :=
  match d.backend with
  | .phoenix => Mapping.codeClasses
  | .standard => Mapping.plainCodeClasses

def nameClasses (d : Dialect) : List (String × BaseClass) :=
  match d.backend with
  | .phoenix => Mapping.nameClasses
  | .standard => Mapping.plainNameClasses

-- A length belongs to character columns only, and zero is no length. Lengths of more than
-- `Text.longestNumeral` digits are left out: they are written in full.
def storageSql (c : Column) : String :=
  match c.binding.storage, c.length? with
  | .varchar, some length =>
    if length = 0 then SqlType.varchar.name
    else SqlType.varchar.name ++ "(" ++ toString length ++ ")"
  | type, _ => type.name

def columnType (d : Dialect) (c : Column) : String :=
  if c.isGeometry then
    match d.backend with
    | .phoenix => SqlType.varbinary.name
    | .standard => "geometry"
  else storageSql c

def primaryKey (d : Dialect) (name sql : String) : String :=
  match d.backend with
  | .phoenix => d.columnName none name sql ++ " INTEGER PRIMARY KEY ASC"
  | .standard => d.columnName none name sql ++ " INTEGER PRIMARY KEY"

def pointComment (c : Column) : String :=
  match c.binding.class? with
  | some bound =>
    if bound.descendsFrom .point then
      " COMMENT '" ++ String.ofList (Text.upper bound.name.toList) ++ "'"
    else ""
  | none => ""

-- Spatial indexes require columns without nulls, so Phoenix is told here which
-- geometry columns have none.
def columnConstraints (d : Dialect) (c : Column) (sql : String) : String :=
  match d.backend with
  | .phoenix => if c.isIndexed then sql ++ " NOT NULL" ++ pointComment c else sql
  | .standard => sql

def keepsRows (d : Dialect) (immutableRows : Datum) : Bool :=
  if immutableRows = .null then d.immutableRows else immutableRows.truthy

def tableOptions (d : Dialect) (sql : String) (immutableRows : Datum) : String :=
  match d.backend with
  | .phoenix => if d.keepsRows immutableRows then sql ++ " IMMUTABLE_ROWS = true" else sql
  | .standard => sql

def geometryColumn (d : Dialect) (c : Column) (qualifier? : Option String) (sql : String) : String :=
  sql ++ d.backend.asBinary (d.columnName qualifier? c.name "")

def geometryEnvelope (d : Dialect) (column sql : String) : String :=
  sql ++ d.backend.envelopeAsBinary (d.column column)

def typeName (d : Dialect) (code : TypeCode) : String :=
  match d.backend with
  | .phoenix => code.name
  | .standard => "geometry"

end Dialect

end FeatureTables
