import FeatureTables.Decimal.Shortest

namespace FeatureTables.Decimal

structure Style where
  leastExponent : Int
  greatestExponent : Int
  exponentWidth : Nat

-- Numbers from 10^-4 up to 10^16 are positional; an exponent has a sign and two digits.
def plain : Style := ⟨-4, 15, 2⟩

def withoutZeros (digits : List Char) : List Char :=
  (digits.reverse.dropWhile (· = '0')).reverse

def exponentText (style : Style) (exponent : Int) : List Char :=
  let digits := Nat.toDigits 10 exponent.natAbs
  (if exponent < 0 then '-' else '+') :: List.replicate (style.exponentWidth - digits.length) '0' ++ digits

def layout (style : Style) (digits : List Char) (exponent : Int) : List Char :=
  if exponent < style.leastExponent ∨ style.greatestExponent < exponent then
    match digits with
    | [] => []
    | first :: [] => first :: 'e' :: exponentText style exponent
    | first :: rest => first :: '.' :: rest ++ 'e' :: exponentText style exponent
  else if exponent < 0 then
    '0' :: '.' :: List.replicate (-exponent - 1).toNat '0' ++ digits
  else
    let whole := exponent.toNat + 1
    let shown := digits ++ List.replicate (whole - digits.length) '0'
    let fraction := shown.drop whole
    shown.take whole ++ '.' :: (if fraction = [] then ['0'] else fraction)

def magnitudeText (magnitude : Nat) : List Char :=
  if magnitude = 0 then ['0', '.', '0']
  else if magnitude = Binary64.infinite then ['i', 'n', 'f']
  else
    let number := shortest magnitude
    let digits := Nat.toDigits 10 number.digits
    layout plain (withoutZeros digits) (number.power + digits.length - 1)

def text (x : Binary64) : String :=
  if x.isNaN then "nan"
  else String.ofList ((if x.isNegative then ['-'] else []) ++ magnitudeText x.magnitude)

end FeatureTables.Decimal
