import FeatureTables.Dialect.Columns
import FeatureTables.Operation.Execution

namespace FeatureTables

-- The table of geometry columns: which columns hold geometries, of what type and in
-- which reference system. It stands in the schema of the tables it describes.
namespace Catalog

def columns : List (String × String) :=
  [("f_table_schema", "varchar(255)"), ("f_table_name", "varchar(255)"),
    ("f_geometry_column", "varchar(255)"), ("coord_dimension", "int"), ("srid", "int"),
    ("type", "varchar(32)")]

def columnNames : List String := columns.map (·.1)

def table (d : Dialect) (schema? : Option String) (sql : String) : String :=
  d.qualifiedTable schema? d.catalogTable sql

def createTable (d : Dialect) (schema? : Option String) : String :=
  table d schema? "CREATE TABLE " ++ "(" ++
    Text.joined ", " (columns.map fun c => d.column c.1 ++ " " ++ c.2) ++ ")"

-- Written as an insert; the table name makes an upsert of it where the backend needs one.
def insert (d : Dialect) (schema? : Option String) : String :=
  table d schema? "INSERT INTO " ++ " VALUES (" ++
    Text.joined ", " (columnNames.map fun name => ":" ++ name) ++ ")"

def equation (d : Dialect) (column : String) : String := d.column column ++ " = :" ++ column

def schemaClause (d : Dialect) (schema? : Option String) : String :=
  match schema? with
  | some _ => equation d "f_table_schema"
  | none => d.column "f_table_schema" ++ " IS NULL"

def clauses (d : Dialect) (schema? column? : Option String) : List String :=
  [schemaClause d schema?, equation d "f_table_name"] ++
    (if column?.isSome then [equation d "f_geometry_column"] else [])

def select (d : Dialect) (selected : List String) (schema? column? : Option String) : String :=
  table d schema? ("SELECT " ++ Text.joined ", " (selected.map d.column) ++ " FROM ") ++ " WHERE " ++
    Text.joined " AND " (clauses d schema? column?)

def selectParameters (schema? : Option String) (table : String) (column? : Option String) : Parameters :=
  [("f_table_name", .text table)] ++
    (schema?.toList.map fun schema => ("f_table_schema", .text schema)) ++
    (column?.toList.map fun column => ("f_geometry_column", .text column))

def isPresent (d : Dialect) (schema? : Option String) : Session Bool := do
  match ← Session.ask (.hasTable d.catalogTable schema?) with
  | .ok present => return present
  | .error f => Session.failure .metadata f

-- Makes the catalog if it is missing and says whether it did. Someone else may make it
-- between the look and the statement; then the refusal of the statement is no fault.
def ensure (d : Dialect) (schema? : Option String) : Session Bool := do
  if ← isPresent d schema? then return false
  match ← (Session.send (createTable d schema?) []).attempt with
  | .ok () => return true
  | .error (.statement purpose sql cause) =>
    if ← isPresent d schema? then
      Session.info (d.catalogTable ++ " already created in schema " ++ schema?.getD "None")
      return false
    else .fail (.statement purpose sql cause)
  | .error fault => .fail fault

def resolve (d : Dialect) (crs : Datum) : Session Datum :=
  if crs = .null then return .null
  else match d.registry crs with
    | .ok code => return code
    | .error f => do
      Session.debug ("Could not determine EPSG code: " ++ f.text)
      return .null

def entry (schema? : Option String) (table : String) (c : Column) (code : Datum) : CatalogEntry :=
  ⟨schema?, table, c.name, if code = .null then .integer unknownSrid else code,
    c.binding.geometryName?.getD "GEOMETRY"⟩

def record (d : Dialect) (schema? : Option String) (table : String) (c : Column) :
    Session CatalogEntry := do
  let code ← resolve d c.crs
  let entry := entry schema? table c code
  Session.send (insert d schema?) entry.parameters
  return entry

def query (d : Dialect) (selected : List String) (schema? : Option String) (table : String)
    (column? : Option String) : Session (List (List Cell)) := do
  let sql := select d selected schema? column?
  let parameters := selectParameters schema? table column?
  Session.debug ("catalog query: " ++ sql)
  Session.debug ("params: " ++ parameters.shown)
  Session.query sql (some parameters) .catalog fun result => .ok result.rows

-- The recorded reference system of a column: minus one where it was unknown, null where
-- nothing is recorded or the catalog can not be read.
def srid (d : Dialect) (schema? : Option String) (table : String) (column? : Option String) :
    Session Cell := do
  match ← (query d ["srid"] schema? table column?).attempt with
  | .ok [] => return .null
  | .ok ((srid :: _) :: _) => return srid
  | .ok ([] :: _) => .fail .emptyRow
  | .error (.catalog cause) =>
    Session.debug ("SRID lookup failed: " ++ (Fault.catalog cause).message)
    return .null
  | .error fault => .fail fault

def readRows (rows : List (List Cell)) : Except Fault (List CatalogRow) :=
  match rows.mapM CatalogRow.ofCells? with
  | some rows => .ok rows
  | none => .error .rowWidth

def rows (d : Dialect) (schema? : Option String) (table : String) : Session (List CatalogRow) := do
  match ← (query d columnNames schema? table none).attempt with
  | .ok rows => Session.ofExcept (readRows rows)
  | .error (.catalog cause) =>
    Session.debug ("Catalog query failed: " ++ (Fault.catalog cause).message)
    return []
  | .error fault => .fail fault

end Catalog

end FeatureTables
