import FeatureTables.Dialect.Basic
import FeatureTables.Text.Lower

namespace FeatureTables

namespace Verb

def insert : List Char := "INSERT".toList

def upsert : List Char := "UPSERT".toList

-- The verb is looked for in capitals and replaced in the text as written, at the same
-- count of characters.
def insertPosition? (text : List Char) : Option Nat := Text.position? insert (Text.upper text)

def toUpsert (text : List Char) : List Char :=
  match insertPosition? text with
  | some position => text.take position ++ upsert ++ text.drop (position + insert.length)
  | none => text

end Verb

namespace Dialect

def escaped (d : Dialect) (name : String) : String := d.quote ++ name ++ d.quote

def schemaName (d : Dialect) (name sql : String) : String := sql ++ d.escaped name

-- Phoenix knows only UPSERT, and a table name is the first point where the verb before
-- it is known to be complete.
def tableName (d : Dialect) (name sql : String) : String :=
  match d.backend with
  | .phoenix => String.ofList (Verb.toUpsert sql.toList) ++ d.escaped name
  | .standard => sql ++ d.escaped name

def columnName (d : Dialect) (qualifier? : Option String) (name sql : String) : String :=
  match qualifier? with
  | some qualifier =>
    if qualifier = "" then sql ++ d.escaped name
    else sql ++ d.escaped qualifier ++ "." ++ d.escaped name
  | none => sql ++ d.escaped name

def column (d : Dialect) (name : String) : String := d.columnName none name ""

def qualifiedTable (d : Dialect) (schema? : Option String) (table sql : String) : String :=
  match schema? with
  | some schema => d.tableName table (d.schemaName schema sql ++ ".")
  | none => d.tableName table sql

def includesTable (d : Dialect) (table : String) : Bool :=
  match d.backend with
  | .phoenix => Text.lower table.toList ≠ Text.lower d.catalogTable.toList
  | .standard => true

end Dialect

end FeatureTables
