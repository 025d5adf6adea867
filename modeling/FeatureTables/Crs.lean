import FeatureTables.Connection.Failure
import FeatureTables.Datum
import FeatureTables.Text.Numeral
import FeatureTables.Text.Upper

namespace FeatureTables.Crs

inductive Problem where
  | flag (value : Bool)
  | notPositive (code : Int)
  | unrecognised (crs : Datum)
  deriving DecidableEq

-- Codes of more than `Text.longestNumeral` digits are left out: they are written in full.
def Problem.message : Problem → String
  | flag value => "Invalid CRS: " ++ (Datum.boolean value).shown
  | notPositive code => "Invalid EPSG code: " ++ toString code
  | unrecognised crs => "Could not determine EPSG code for CRS " ++ crs.shown

def urnStart : List Char := "urn:ogc:def:crs:EPSG::".toList

def urnCode? (text : List Char) : Option Int := do
  let code ← Text.after? urnStart text
  let digits ← code.mapM Text.digitValue?
  if 1 ≤ digits.length ∧ digits.length ≤ 6 then some (Text.digitsValue digits) else none

-- The start is compared in capitals, the number is read from the text as given, between
-- its first two colons.
def prefixedCode? (text : List Char) : Option Int := do
  let _ ← Text.after? "EPSG:".toList (Text.upper text)
  let code ← Text.readInteger (Text.upTo [':'] (Text.past [':'] text))
  if 0 < code then some code else none

def ofText (text : List Char) : Except Problem Int :=
  match urnCode? text with
  | some code => .ok code
  | none =>
    match prefixedCode? text with
    | some code => .ok code
    | none => .error (.unrecognised (.text (String.ofList text)))

def code : Datum → Except Problem Int
  | .boolean value => .error (.flag value)
  | .integer value => if 0 < value then .ok value else .error (.notPositive value)
  | .text value => ofText (Text.trim value.toList)
  | other => .error (.unrecognised other)

-- A source of EPSG codes. A dialect may be given any; the answer need not be a number.
abbrev Registry := Datum → Except Failure Datum

def Registry.standard : Registry := fun crs =>
  match code crs with
  | .ok n => .ok (.integer n)
  | .error problem => .error ⟨.lookup, problem.message⟩

end FeatureTables.Crs
