import FeatureTables.Binding.Mapping

namespace FeatureTables

-- One column of a feature table. The reference system is kept as the caller gave it;
-- the catalog resolves it when the column is recorded.
structure Column where
  name : String
  binding : Binding
  nillable : Bool
  crs : Datum
  length? : Option Int

namespace Column

def isGeometry (c : Column) : Bool := c.binding.isGeometry

def isIndexed (c : Column) : Bool := c.isGeometry && !c.nillable

def shown (c : Column) : String :=
  "ColumnDescriptor(" ++ Text.quoted c.name ++ ", " ++ c.binding.className?.getD "None" ++ ")"

end Column

structure FeatureType where
  typeName : String
  columns : List Column
  schema? : Option String
  immutableRows : Datum
  primaryKey : String

namespace FeatureType

def geometryColumns (t : FeatureType) : List Column := t.columns.filter Column.isGeometry

def indexedColumns (t : FeatureType) : List Column := t.columns.filter Column.isIndexed

def column? (t : FeatureType) (name : String) : Option Column := t.columns.find? (·.name = name)

-- The primary key is written by itself, so a column of its name is left out.
def ordinaryColumns (t : FeatureType) : List Column := t.columns.filter (·.name ≠ t.primaryKey)

end FeatureType

def unknownSrid : Int := -1

def coordinateDimension : Int := 2

structure CatalogRow where
  schema : Cell
  table : Cell
  column : Cell
  dimension : Cell
  srid : Cell
  type : Cell
  deriving DecidableEq

def CatalogRow.ofCells? : List Cell → Option CatalogRow
  | [schema, table, column, dimension, srid, type] =>
    some ⟨schema, table, column, dimension, srid, type⟩
  | _ => none

structure CatalogEntry where
  schema? : Option String
  table : String
  column : String
  srid : Datum
  type : String

namespace CatalogEntry

def parameters (e : CatalogEntry) : Parameters :=
  [("f_table_schema", .ofText? e.schema?), ("f_table_name", .text e.table),
    ("f_geometry_column", .text e.column), ("coord_dimension", .integer coordinateDimension),
    ("srid", e.srid), ("type", .text e.type)]

def row (e : CatalogEntry) : CatalogRow :=
  ⟨.datum (.ofText? e.schema?), .datum (.text e.table), .datum (.text e.column),
    .datum (.integer coordinateDimension), .datum e.srid, .datum (.text e.type)⟩

end CatalogEntry

end FeatureTables
