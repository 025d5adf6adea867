import FeatureTables.Binary64

namespace FeatureTables.Decimal

-- A positive number `value / unit` with the ends of the interval of reals that round
-- to it. The ends belong to the interval when `closed`.
structure Interval where
  low : Nat
  value : Nat
  high : Nat
  unit : Nat
  closed : Bool

def unitWeight : Nat := 0x10000000000000

-- Halfway to either neighbour, counted in quarters of the last place. Below a power of
-- two the lower neighbour is only half a place away.
def interval (magnitude : Nat) : Interval :=
  let field := magnitude / unitWeight
  let fraction := magnitude % unitWeight
  let significand := if field = 0 then fraction else unitWeight + fraction
  let exponent : Int := ((if field = 0 then 1 else field : Nat) : Int) - 1077
  let gap := if fraction = 0 ∧ 1 < field then 1 else 2
  let scale := Nat.pow 2 exponent.toNat
  ⟨(4 * significand - gap) * scale, 4 * significand * scale, (4 * significand + 2) * scale,
    Nat.pow 2 (-exponent).toNat, significand % 2 = 0⟩

def Interval.holds (i : Interval) (digits : Nat) (power : Int) : Bool :=
  let point := digits * Nat.pow 10 power.toNat * i.unit
  let low := i.low * Nat.pow 10 (-power).toNat
  let high := i.high * Nat.pow 10 (-power).toNat
  if i.closed then low ≤ point && point ≤ high else low < point && point < high

def digitCount (n : Nat) : Nat := (Nat.toDigits 10 n).length

-- The power of ten at the number's first digit. Scaled by 10^400 every number is above
-- one, so the length of its whole part tells.
def Interval.leading (i : Interval) : Int := (digitCount (i.value * Nat.pow 10 400 / i.unit) : Int) - 401

structure Digits where
  digits : Nat
  power : Int

def Interval.onGrid? (i : Interval) (leading : Int) (count : Nat) : Option Digits :=
  let power := leading - count + 1
  let step := Nat.pow 10 power.toNat * i.unit
  let scaled := i.value * Nat.pow 10 (-power).toNat
  let down := scaled / step
  let lower := i.holds down power
  let upper := i.holds (down + 1) power
  let past := 2 * (scaled % step)
  if lower && (!upper || past < step || (past = step && down % 2 = 0)) then some ⟨down, power⟩
  else if upper then some ⟨down + 1, power⟩
  else none

-- The fewest digits that read back; seventeen always do.
def shortest (magnitude : Nat) : Digits :=
  let i := interval magnitude
  let leading := i.leading
  ((List.range 17).findSome? fun count => i.onGrid? leading (count + 1)).getD ⟨0, 0⟩

end FeatureTables.Decimal
