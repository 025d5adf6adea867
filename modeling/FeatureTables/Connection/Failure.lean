import FeatureTables.Text.Quoted

namespace FeatureTables

inductive FailureKind where
  | database
  | noSuchTable
  | unsupported
  | runtime
  | value
  | lookup
  | key
  deriving DecidableEq, Repr

structure Failure where
  kind : FailureKind
  message : String
  deriving DecidableEq, Repr

namespace Failure

def isDatabase (f : Failure) : Bool := f.kind = .database ∨ f.kind = .noSuchTable

def text (f : Failure) : String := if f.kind = .key then Text.quoted f.message else f.message

end Failure

end FeatureTables
