import FeatureTables.Dialect.Columns
import FeatureTables.Dialect.Paging

namespace FeatureTables

namespace Dialect

def featureTable (d : Dialect) (t : FeatureType) (sql : String) : String :=
  d.qualifiedTable t.schema? t.typeName sql

def columnDefinition (d : Dialect) (c : Column) : String :=
  let typed := d.column c.name ++ " " ++ d.columnType c
  d.columnConstraints c (if c.nillable || c.isGeometry then typed else typed ++ " NOT NULL")

def tableDefinition (d : Dialect) (t : FeatureType) : String :=
  "(" ++ Text.joined ", " (d.primaryKey t.primaryKey "" :: t.ordinaryColumns.map d.columnDefinition) ++
    ")"

def createTable (d : Dialect) (t : FeatureType) : String :=
  d.tableOptions (d.featureTable t "CREATE TABLE " ++ d.tableDefinition t) t.immutableRows

def defaultColumns (t : FeatureType) : List String :=
  t.primaryKey :: t.ordinaryColumns.map Column.name

def insert (d : Dialect) (t : FeatureType) (columns? : Option (List String)) : String :=
  let columns := columns?.getD (defaultColumns t)
  d.featureTable t "INSERT INTO " ++ "(" ++ Text.joined ", " (columns.map d.column) ++ ") VALUES (" ++
    Text.joined ", " (columns.map fun name => ":" ++ name) ++ ")"

def selectedColumn (d : Dialect) (c : Column) : String :=
  if c.isGeometry then d.columnName none c.name (d.geometryColumn c none "" ++ " AS ")
  else d.column c.name

def select (d : Dialect) (t : FeatureType) (limit offset : Int) : String :=
  let columns := d.column t.primaryKey :: t.ordinaryColumns.map d.selectedColumn
  let sql := d.featureTable t ("SELECT " ++ Text.joined ", " columns ++ " FROM ")
  if d.paging then d.paged sql limit offset else sql

def bounds (d : Dialect) (t : FeatureType) (column : String) : String :=
  d.featureTable t (d.geometryEnvelope column "SELECT " ++ " FROM ")

end Dialect

end FeatureTables
