import FeatureTables.Dialect.Basic
import FeatureTables.Fault

namespace FeatureTables

structure Page where
  limit : Int
  offset : Int
  deriving DecidableEq, Repr

namespace Page

-- Limits from here on are taken for none.
def unlimited : Int := 2147483647

def largest : Int := 9223372036854775807

def of? (limit offset : Int) : Option Page :=
  if 0 ≤ limit ∧ limit < unlimited then some ⟨limit, max offset 0⟩
  else if 0 < offset then some ⟨largest, offset⟩
  else none

-- Both numbers in full, however long they are.
def clause (p : Page) : String := " LIMIT " ++ toString p.limit ++ " OFFSET " ++ toString p.offset

def isWritable (p : Page) : Bool := Text.isWritable p.limit && Text.isWritable p.offset

def rows (p : Page) (all : List α) : List α := (all.drop p.offset.toNat).take p.limit.toNat

end Page

namespace Dialect

-- The text alone. Statements that are built from it leave out offsets of more than
-- `Text.longestNumeral` digits, which `applyPage` refuses.
def paged (d : Dialect) (sql : String) (limit offset : Int) : String :=
  match d.backend, Page.of? limit offset with
  | .phoenix, some page => sql ++ page.clause
  | _, _ => sql

def applyPage (d : Dialect) (sql : String) (limit offset : Int) : Except Fault String :=
  if d.backend = .phoenix ∧ ¬ (Page.of? limit offset).all Page.isWritable then .error .longNumeral
  else .ok (d.paged sql limit offset)

end Dialect

end FeatureTables
