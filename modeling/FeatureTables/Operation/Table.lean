import FeatureTables.Dialect.Tables
import FeatureTables.Operation.Catalog
import FeatureTables.Operation.Index

namespace FeatureTables

namespace Table

-- What a new table needs besides itself: the catalog, an index for each geometry column
-- without nulls, a catalog row for each geometry column. The steps are not atomic.
def complete (d : Dialect) (schema? : Option String) (t : FeatureType) : Session Unit :=
  match d.backend with
  | .phoenix => do
    let _ ← Catalog.ensure d schema?
    let _ ← Index.createGeometryIndexes d schema? t
    let _ ← Session.each (Catalog.record d schema? t.typeName) t.geometryColumns
    return ()
  | .standard => return ()

def create (d : Dialect) (t : FeatureType) : Session Unit := do
  Session.send (d.createTable t) []
  complete d t.schema? t

def unrecorded (t : FeatureType) (rows : List CatalogRow) : Except Fault (List String) :=
  if rows.all (·.column.isKey) then
    .ok ((t.geometryColumns.map Column.name).filter fun name =>
      !(rows.map CatalogRow.column).contains (.datum (.text name)))
  else .error .notKey

def missing (d : Dialect) (schema? : Option String) (t : FeatureType) : Session (List String) :=
  match d.backend with
  | .phoenix => do Session.ofExcept (unrecorded t (← Catalog.rows d schema? t.typeName))
  | .standard => .fail .missingOperation

def repairColumn (d : Dialect) (schema? : Option String) (t : FeatureType) (name : String) :
    Session Unit := do
  Session.info ("Recording missing catalog row for " ++ t.typeName ++ "." ++ name)
  match t.column? name with
  | none => return ()
  | some c =>
    if !c.nillable then
      let _ ← Index.ensureFor d schema? t.typeName name
    let _ ← Catalog.record d schema? t.typeName c
    return ()

def repair (d : Dialect) (schema? : Option String) (t : FeatureType) : Session (List String) :=
  match d.backend with
  | .phoenix => do
    let _ ← Catalog.ensure d schema?
    let names ← missing d schema? t
    let _ ← Session.each (repairColumn d schema? t) names
    return names
  | .standard => .fail .missingOperation

def srid (d : Dialect) (schema? : Option String) (table : String) (column? : Option String) :
    Session Cell :=
  match d.backend with
  | .phoenix => Catalog.srid d schema? table column?
  | .standard => return .null

end Table

end FeatureTables
