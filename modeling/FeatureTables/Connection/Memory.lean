import FeatureTables.Connection.Request
import FeatureTables.Connection.Statement

namespace FeatureTables

-- Tables and the indexes and rows they have, each in the order it was added. Names are
-- those of the statements that added them.
structure Database where
  tables : List String
  indexes : List (String × String)
  rows : List (String × Parameters)
  deriving DecidableEq

namespace Database

def select (db : Database) (selection : Selection) (parameters : Parameters) : ResultSet :=
  let matching := db.rows.filter fun row =>
    Statement.unquoted row.1.toList = selection.table.toList &&
      selection.conditions.all (·.holds row.2 parameters)
  ⟨selection.columns, matching.map fun row => selection.columns.map fun column =>
    .datum (row.2.read column), none⟩

def apply (db : Database) (parameters : Parameters) : Statement → Except String (Database × ResultSet)
  | .createTable name =>
    if name ∈ db.tables then .error ("table " ++ name ++ " already exists")
    else .ok ({ db with tables := db.tables ++ [name] }, .nothing)
  | .createIndex index table =>
    if table ∉ db.tables then .error ("no such table: " ++ table)
    else if index ∈ db.indexes.map (·.2) then .error ("index " ++ index ++ " already exists")
    else .ok ({ db with indexes := db.indexes ++ [(table, index)] }, .nothing)
  | .dropIndex index =>
    if index ∈ db.indexes.map (·.2) then
      .ok ({ db with indexes := db.indexes.filter (·.2 ≠ index) }, .nothing)
    else .error ("no such index: " ++ index)
  | .insert table =>
    if table ∈ db.tables then .ok ({ db with rows := db.rows ++ [(table, parameters)] }, .nothing)
    else .error ("no such table: " ++ table)
  | .select written selection =>
    if written ∈ db.tables then .ok (db, db.select selection parameters)
    else .error ("no such table: " ++ written)
  | .unreadable => .error "syntax error"

def qualified (name : String) : Option String → String
  | some schema => schema ++ "." ++ name
  | none => name

end Database

-- A database behind a connection. Executions are counted from one, and the schedule
-- says which of them fail without doing anything.
structure Memory where
  settings : Settings
  faults : Nat → Option String
  executed : Nat
  database : Database

namespace Memory

def execute (m : Memory) (sql : String) (parameters : Parameters) :
    Except Failure ResultSet × Memory :=
  let counted := { m with executed := m.executed + 1 }
  match m.faults counted.executed with
  | some message => (.error ⟨.database, message⟩, counted)
  | none =>
    match m.database.apply parameters (Statement.read sql) with
    | .error message => (.error ⟨.database, message⟩, counted)
    | .ok (database, result) => (.ok result, { counted with database })

def indexNames (m : Memory) (name : String) : Except Failure (List (Option String)) :=
  if name ∈ m.database.tables then
    .ok ((m.database.indexes.filter (·.1 = name)).map fun index => some index.2)
  else .error ⟨.noSuchTable, name⟩

def answer : (request : Request) → Memory → request.Answer × Memory
  | .execute sql parameters?, m => m.execute sql (parameters?.getD [])
  | .close, m => ((), m)
  | .commit, m => (m.settings.commit, m)
  | .options, m => (m.settings.options, m)
  | .isolation, m => (m.settings.isolation, m)
  | .hasTable name schema?, m =>
    (.ok (decide (Database.qualified name schema? ∈ m.database.tables)), m)
  | .indexNames table schema?, m => (m.indexNames (Database.qualified table schema?), m)

def connection : Connection Memory := ⟨answer⟩

end Memory

end FeatureTables
