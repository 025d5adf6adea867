import FeatureTables.Text.Blank
import FeatureTables.Text.DecimalDigit

namespace FeatureTables.Text

-- Numerals of more digits are refused whatever their value, where a text is read as a
-- number as well as where a number is written.
def longestNumeral : Nat := 4300

-- Blanks around a numeral: in plain ASCII text only the classic ones, and the
-- information separators never.
def isNumeralBlank (c : Char) : Bool :=
  c = ' ' || (9 ≤ c.toNat && c.toNat ≤ 13) || (128 ≤ c.toNat && isBlank c)

def trimNumeral (text : List Char) : List Char :=
  ((text.dropWhile isNumeralBlank).reverse.dropWhile isNumeralBlank).reverse

-- Digits with single underscores between them. `fresh` says that a digit must follow.
def readDigits (fresh : Bool) : List Char → Option (List Nat)
  | [] => if fresh then none else some []
  | c :: rest =>
    if c = '_' then
      if fresh then none else readDigits true rest
    else do
      let digit ← digitValue? c
      let digits ← readDigits false rest
      return digit :: digits

def readNatural (text : List Char) : Option Nat := do
  let digits ← readDigits true text
  if digits.length ≤ longestNumeral then some (digitsValue digits) else none

def readInteger (text : List Char) : Option Int :=
  match trimNumeral text with
  | '-' :: rest => (readNatural rest).map fun n => -(n : Int)
  | '+' :: rest => (readNatural rest).map fun n => (n : Int)
  | rest => (readNatural rest).map fun n => (n : Int)

def isWritable (n : Int) : Bool := (Nat.toDigits 10 n.natAbs).length ≤ longestNumeral

end FeatureTables.Text
