import FeatureTables.Connection.Failure
import FeatureTables.Text.Numeral

namespace FeatureTables

inductive Purpose where
  | execution
  | features
  | bounds
  deriving DecidableEq, Repr

inductive Reading where
  | value
  | envelope
  deriving DecidableEq, Repr

-- Why an operation ends without an answer. A database failure is wrapped with the
-- statement that met it; other failures of a connection pass through unchanged.
inductive Fault where
  | statement (purpose : Purpose) (sql : String) (cause : Failure)
  | metadata (cause : Failure)
  | catalog (cause : Failure)
  | passed (cause : Failure)
  | undecodable (reading : Reading)
  | notPolygon (found : String)
  | nonlinear
  | rowWidth
  | emptyRow
  | notKey
  | notSearchable
  | unknownBackend (name : String)
  | missingOperation
  deriving DecidableEq, Repr

namespace Fault

def longNumeral : Fault :=
  .passed ⟨.value, "Exceeds the limit (" ++ toString Text.longestNumeral ++ " digits) for integer string conversion; " ++
    "use sys.set_int_max_str_digits() to increase the limit"⟩

def message : Fault → String
  | statement .execution _ cause => "Failed to execute statement: " ++ cause.text
  | statement .features _ cause => "Failed to query features: " ++ cause.text
  | statement .bounds _ cause => "Failed to query bounds: " ++ cause.text
  | metadata cause => "Could not read table metadata: " ++ cause.text
  | catalog cause => cause.text
  | passed cause => cause.text
  | undecodable .value => "Error decoding wkb"
  | undecodable .envelope => "Error decoding wkb for envelope"
  | notPolygon found => "Error decoding wkb for envelope: expected Polygon, got " ++ found
  | nonlinear => "Nonlinear geometry types are not currently supported"
  | rowWidth => "row does not fit the catalog columns"
  | emptyRow => "tuple index out of range"
  | notKey => "value can not be looked up"
  | notSearchable => "value can not be searched"
  | unknownBackend name => "Unsupported SQL dialect backend: " ++ name
  | missingOperation => "operation is not available on this backend"

def sql? : Fault → Option String
  | statement _ sql _ => some sql
  | _ => none

end Fault

end FeatureTables
