import FeatureTables.Dialect.Columns
import FeatureTables.Operation.Execution

namespace FeatureTables

namespace Index

def createSql (d : Dialect) (schema? : Option String) (table index column : String) : String :=
  let named := d.columnName none index "CREATE INDEX "
  d.columnName none column (d.qualifiedTable schema? table (named ++ " ON ") ++ "(") ++ ")"

def dropSql (d : Dialect) (schema? : Option String) (table index : String) : String :=
  d.qualifiedTable schema? table ("DROP INDEX " ++ d.escaped index ++ " ON ")

def create (d : Dialect) (schema? : Option String) (table index column : String) : Session Unit :=
  Session.send (createSql d schema? table index column) []

def createFor (d : Dialect) (schema? : Option String) (table column : String) : Session String := do
  create d schema? table (d.indexName column) column
  return d.indexName column

-- Where the indexes of a table can not be listed, the index counts as missing.
def isPresent (schema? : Option String) (table index : String) : Session Bool := do
  match ← Session.ask (.indexNames table schema?) with
  | .ok names => return names.contains (some index)
  | .error f =>
    if f.isDatabase || f.kind = .unsupported then
      Session.debug ("Could not read indexes of " ++ table ++ ": " ++ f.text)
      return false
    else .fail (.passed f)

-- Tries to create first and looks afterwards, so that an index made by someone else
-- meanwhile is found.
def ensureFor (d : Dialect) (schema? : Option String) (table column : String) : Session String := do
  match ← (createFor d schema? table column).attempt with
  | .ok name => return name
  | .error (.statement purpose sql cause) =>
    let name := d.indexName column
    if ← isPresent schema? table name then
      Session.info ("Index " ++ name ++ " already exists on " ++ table)
      return name
    else .fail (.statement purpose sql cause)
  | .error fault => .fail fault

def createGeometryIndexes (d : Dialect) (schema? : Option String) (t : FeatureType) :
    Session (List String) :=
  Session.each (fun c => createFor d schema? t.typeName c.name) t.indexedColumns

def autocommit : Datum := .text "AUTOCOMMIT"

def isAutocommit : Session Bool := do
  let options ← Session.ask .options
  if options.read "isolation_level" = autocommit then return true
  return decide ((← Session.ask .isolation) = autocommit)

def drop (d : Dialect) (schema? : Option String) (table index : String) : Session Unit := do
  Session.send (dropSql d schema? table index) []
  if ← isAutocommit then return ()
  match ← Session.ask .commit with
  | .ok () => return ()
  | .error f => .fail (.passed f)

def createStandardSql (d : Dialect) (schema? : Option String) (table index column : String) : String :=
  let named := d.columnName none index "CREATE INDEX "
  let owner := if d.schemaForIndex then schema? else none
  d.columnName none column (d.qualifiedTable owner table (named ++ " ON ") ++ "(") ++ ")"

def dropStandardSql (d : Dialect) (index : String) : String := d.columnName none index "DROP INDEX "

def createNamed (d : Dialect) (schema? : Option String) (t : FeatureType) (index? : Option String)
    (column : String) : Session Unit :=
  let index := index?.getD (d.indexName column)
  match d.backend with
  | .phoenix => create d schema? t.typeName index column
  | .standard => Session.send (createStandardSql d schema? t.typeName index column) []

def dropNamed (d : Dialect) (schema? : Option String) (t : FeatureType) (index : String) : Session Unit :=
  match d.backend with
  | .phoenix => drop d schema? t.typeName index
  | .standard => Session.send (dropStandardSql d index) []

end Index

end FeatureTables
