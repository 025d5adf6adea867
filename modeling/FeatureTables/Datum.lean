import FeatureTables.Decimal.Layout
import FeatureTables.Text.Cut
import FeatureTables.Text.Quoted

namespace FeatureTables

inductive Datum where
  | null
  | boolean (value : Bool)
  | integer (value : Int)
  | real (value : Binary64)
  | text (value : String)
  | list (items : List Datum)
  | record (fields : List (String × Datum))
  deriving Inhabited

namespace Datum

mutual

def decEq (x y : Datum) : Decidable (x = y) := by
  cases x <;> cases y
  case null.null => exact isTrue rfl
  case boolean.boolean a b => exact decidable_of_iff (a = b) (by simp)
  case integer.integer a b => exact decidable_of_iff (a = b) (by simp)
  case real.real a b => exact decidable_of_iff (a = b) (by simp)
  case text.text a b => exact decidable_of_iff (a = b) (by simp)
  case list.list a b =>
    exact match itemsDecEq a b with
      | isTrue same => isTrue (by rw [same])
      | isFalse other => isFalse (by simpa using other)
  case record.record a b =>
    exact match fieldsDecEq a b with
      | isTrue same => isTrue (by rw [same])
      | isFalse other => isFalse (by simpa using other)
  all_goals exact isFalse (by simp)

def itemsDecEq : (x y : List Datum) → Decidable (x = y)
  | [], [] => isTrue rfl
  | [], _ :: _ => isFalse (by simp)
  | _ :: _, [] => isFalse (by simp)
  | a :: x, b :: y =>
    match a.decEq b, itemsDecEq x y with
    | isTrue first, isTrue rest => isTrue (by rw [first, rest])
    | isFalse first, _ => isFalse (by simp [first])
    | _, isFalse rest => isFalse (by simp [rest])

def fieldsDecEq : (x y : List (String × Datum)) → Decidable (x = y)
  | [], [] => isTrue rfl
  | [], _ :: _ => isFalse (by simp)
  | _ :: _, [] => isFalse (by simp)
  | (k, a) :: x, (l, b) :: y =>
    match instDecidableEqString k l, a.decEq b, fieldsDecEq x y with
    | isTrue key, isTrue first, isTrue rest => isTrue (by rw [key, first, rest])
    | isFalse key, _, _ => isFalse (by simp [key])
    | _, isFalse first, _ => isFalse (by simp [first])
    | _, _, isFalse rest => isFalse (by simp [rest])

end

instance : DecidableEq Datum := decEq

def truthy : Datum → Bool
  | .null => false
  | .boolean value => value
  | .integer value => value ≠ 0
  | .real value => value.isNaN || value.key ≠ 0
  | .text value => value ≠ ""
  | .list items => items ≠ []
  | .record fields => fields ≠ []

-- Lists and records are looked into, never looked up: they can be no key.
def isKey : Datum → Bool
  | .list _ | .record _ => false
  | _ => true

def ofText? : Option String → Datum
  | some value => .text value
  | none => .null

mutual

-- The text of a value inside a message. Integers of more than `Text.longestNumeral`
-- digits, which have none, are left out: they are shown in full.
def shown : Datum → String
  | .null => "None"
  | .boolean value => if value then "True" else "False"
  | .integer value => toString value
  | .real value => Decimal.text value
  | .text value => Text.quoted value
  | .list items => "[" ++ Text.joined ", " (shownItems items) ++ "]"
  | .record fields => "\x7b" ++ Text.joined ", " (shownFields fields) ++ "\x7d"

def shownItems : List Datum → List String
  | [] => []
  | item :: rest => shown item :: shownItems rest

def shownFields : List (String × Datum) → List String
  | [] => []
  | (name, value) :: rest => (Text.quoted name ++ ": " ++ shown value) :: shownFields rest

end

def plain : Datum → String
  | .text value => value
  | value => value.shown

end Datum

abbrev Parameters := List (String × Datum)

def Parameters.shown (parameters : Parameters) : String := Datum.shown (.record parameters)

def Parameters.read (parameters : Parameters) (name : String) : Datum :=
  (parameters.lookup name).getD .null

inductive BufferKind where
  | bytes
  | mutable
  | view
  deriving DecidableEq, Repr

inductive Cell where
  | datum (value : Datum)
  | buffer (kind : BufferKind) (content : List UInt8)
  deriving DecidableEq

namespace Cell

def null : Cell := .datum .null

def isKey : Cell → Bool
  | .datum value => value.isKey
  | .buffer kind _ => kind ≠ .mutable

end Cell

end FeatureTables
