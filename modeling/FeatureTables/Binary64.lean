namespace FeatureTables

-- A coordinate is kept as its sixty-four bits. Order and equality are stated on the
-- bits, so laws about them are arithmetic and need no floating-point operation.
structure Binary64 where
  bits : UInt64
  deriving DecidableEq, Repr

namespace Binary64

def signWeight : Nat := 0x8000000000000000

def magnitude (x : Binary64) : Nat := x.bits.toNat % signWeight

def isNegative (x : Binary64) : Bool := signWeight ≤ x.bits.toNat

def infinite : Nat := 0x7ff0000000000000

def isNaN (x : Binary64) : Bool := infinite < x.magnitude

-- Numbers in order have keys in order, and the two zeros share a key.
def key (x : Binary64) : Int := if x.isNegative then -x.magnitude else x.magnitude

def below (x y : Binary64) : Bool := !x.isNaN && !y.isNaN && x.key < y.key

def equal (x y : Binary64) : Bool := !x.isNaN && !y.isNaN && x.key == y.key

-- Bounds start from the value so far and move only past it: what does not compare
-- leaves them where they are.
def lesser (soFar next : Binary64) : Binary64 := if next.below soFar then next else soFar

def greater (soFar next : Binary64) : Binary64 := if soFar.below next then next else soFar

def nan : Binary64 := ⟨0x7ff8000000000000⟩

end Binary64

end FeatureTables
