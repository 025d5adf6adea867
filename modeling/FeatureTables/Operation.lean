import FeatureTables.Operation.Query
import FeatureTables.Operation.Table

namespace FeatureTables

-- Every operation that takes a connection, with its arguments. Laws that hold of all of
-- them are stated over this type.
inductive Operation where
  | execute (sql : String) (parameters : Parameters)
  | createTable (t : FeatureType)
  | completeTable (schema? : Option String) (t : FeatureType)
  | readFeatures (t : FeatureType) (limit offset : Int)
  | readBounds (t : FeatureType) (column : String)
  | missingColumns (schema? : Option String) (t : FeatureType)
  | repairTable (schema? : Option String) (t : FeatureType)
  | geometrySrid (schema? : Option String) (table : String) (column? : Option String)
  | createIndex (schema? : Option String) (t : FeatureType) (index? : Option String) (column : String)
  | dropIndex (schema? : Option String) (t : FeatureType) (index : String)
  | catalogPresent (schema? : Option String)
  | ensureCatalog (schema? : Option String)
  | resolveCrs (crs : Datum)
  | recordColumn (schema? : Option String) (table : String) (c : Column)
  | catalogSrid (schema? : Option String) (table : String) (column? : Option String)
  | catalogRows (schema? : Option String) (table : String)
  | indexCreate (schema? : Option String) (table index column : String)
  | indexCreateFor (schema? : Option String) (table column : String)
  | indexEnsure (schema? : Option String) (table column : String)
  | indexPresent (schema? : Option String) (table index : String)
  | indexCreateGeometry (schema? : Option String) (t : FeatureType)
  | indexDrop (schema? : Option String) (table index : String)
  | autocommit

inductive Reply where
  | nothing
  | flag (value : Bool)
  | name (value : String)
  | names (values : List String)
  | code (value : Datum)
  | cell (value : Cell)
  | row (row : CatalogRow)
  | rows (rows : List CatalogRow)
  | features (features : List Feature)
  | box (box? : Option Box)

namespace Operation

def session (d : Dialect) : Operation → Session Reply
  | execute sql parameters => do
    Session.send sql parameters
    return .nothing
  | createTable t => do
    Table.create d t
    return .nothing
  | completeTable schema? t => do
    Table.complete d schema? t
    return .nothing
  | readFeatures t limit offset => return .features (← FeatureTables.readFeatures d t limit offset)
  | readBounds t column => return .box (← FeatureTables.readBounds d t column)
  | missingColumns schema? t => return .names (← Table.missing d schema? t)
  | repairTable schema? t => return .names (← Table.repair d schema? t)
  | geometrySrid schema? table column? => return .cell (← Table.srid d schema? table column?)
  | createIndex schema? t index? column => do
    Index.createNamed d schema? t index? column
    return .nothing
  | dropIndex schema? t index => do
    Index.dropNamed d schema? t index
    return .nothing
  | catalogPresent schema? => return .flag (← Catalog.isPresent d schema?)
  | ensureCatalog schema? => return .flag (← Catalog.ensure d schema?)
  | resolveCrs crs => return .code (← Catalog.resolve d crs)
  | recordColumn schema? table c => return .row (← Catalog.record d schema? table c).row
  | catalogSrid schema? table column? => return .cell (← Catalog.srid d schema? table column?)
  | catalogRows schema? table => return .rows (← Catalog.rows d schema? table)
  | indexCreate schema? table index column => do
    Index.create d schema? table index column
    return .nothing
  | indexCreateFor schema? table column => return .name (← Index.createFor d schema? table column)
  | indexEnsure schema? table column => return .name (← Index.ensureFor d schema? table column)
  | indexPresent schema? table index => return .flag (← Index.isPresent schema? table index)
  | indexCreateGeometry schema? t => return .names (← Index.createGeometryIndexes d schema? t)
  | indexDrop schema? table index => do
    Index.drop d schema? table index
    return .nothing
  | autocommit => return .flag (← Index.isAutocommit)

end Operation

end FeatureTables
