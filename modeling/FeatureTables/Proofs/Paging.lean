import FeatureTables.Dialect.Paging
import FeatureTables.Proofs.Decoding
import FeatureTables.Proofs.Names
import Mathlib.Algebra.Group.Nat.Defs

namespace FeatureTables

namespace Text

def decimal? (text : List Char) : Option Nat :=
  if !text.isEmpty && text.all Char.isDigit then some (Nat.ofDigitChars 10 text 0) else none

end Text

namespace Page

variable {limit offset : Int} {p : Page}

def read? (clause : List Char) : Option Page := do
  let numbers ← Text.after? " LIMIT ".toList clause
  let (limit, offset) ← Text.cut? " OFFSET ".toList numbers
  return ⟨← Text.decimal? limit, ← Text.decimal? offset⟩

def asked? (clause : List Char) (all : List α) : Option (List α) :=
  if clause = [] then some all else (read? clause).map (·.rows all)

-- What a limit and an offset mean: neither counts where it is negative.
def meant (limit offset : Int) (all : List α) : List α :=
  if limit < 0 then all.drop (max offset 0).toNat else (all.drop (max offset 0).toNat).take limit.toNat

end Page

namespace Dialect

variable {d : Dialect}

end Dialect

end FeatureTables
