import FeatureTables.Datum
import FeatureTables.Text.Blank

namespace FeatureTables

inductive Condition where
  | isNull (column : String)
  | equals (column : String) (parameter : String)
  deriving DecidableEq, Repr

structure Selection where
  columns : List String
  table : String
  conditions : List Condition
  deriving DecidableEq, Repr

-- What a small database understands of a statement: names as they are written, quotes
-- included, and nothing of column definitions.
inductive Statement where
  | createTable (name : String)
  | createIndex (index table : String)
  | dropIndex (index : String)
  | insert (table : String)
  | select (written : String) (selection : Selection)
  | unreadable
  deriving DecidableEq, Repr

namespace Condition

def read (text : List Char) : Condition :=
  match Text.cut? " = :".toList text with
  | some (column, parameter) => equals (String.ofList column) (String.ofList parameter)
  | none => isNull (String.ofList (Text.upTo " IS NULL".toList text))

def holds (row parameters : Parameters) : Condition → Bool
  | isNull column => row.read column = .null
  | equals column parameter =>
    row.read column ≠ .null && row.read column = parameters.read parameter

end Condition

namespace Selection

def read? (text : List Char) : Option Selection := do
  let (columns, source) ← Text.cut? " FROM ".toList text
  let (table, conditions) ← Text.cut? " WHERE ".toList source
  return ⟨(Text.pieces ", ".toList columns).map String.ofList, String.ofList table,
    (Text.pieces " AND ".toList conditions).map Condition.read⟩

end Selection

namespace Statement

def unquoted (text : List Char) : List Char := text.filter (· ≠ '"')

def upToBracket (text : List Char) : List Char := Text.upTo ['('] text

def readCreateTable (text : List Char) : Statement :=
  createTable (String.ofList (upToBracket text))

def readCreateIndex (text : List Char) : Statement :=
  createIndex (String.ofList (Text.upTo " ON ".toList text))
    (String.ofList (upToBracket (Text.past " ON ".toList text)))

def readDropIndex (text : List Char) : Statement :=
  dropIndex (String.ofList (Text.upTo " ON ".toList text))

def readInsert (text : List Char) : Statement :=
  insert (String.ofList (Text.trim (Text.upTo " VALUES".toList (upToBracket text))))

-- A selection is read twice: its table is looked up as written, its rows are found
-- without quotes.
def readSelect (text : List Char) : Statement :=
  match Selection.read? text, Selection.read? (unquoted text) with
  | some written, some selection => select written.table selection
  | _, _ => unreadable

def starts : List (String × (List Char → Statement)) :=
  [("CREATE TABLE ", readCreateTable), ("CREATE INDEX ", readCreateIndex),
    ("DROP INDEX ", readDropIndex), ("UPSERT INTO ", readInsert), ("INSERT INTO ", readInsert),
    ("SELECT ", readSelect)]

def read (sql : String) : Statement :=
  (starts.findSome? fun start =>
    (Text.after? start.1.toList sql.toList).map start.2).getD unreadable

end Statement

end FeatureTables
