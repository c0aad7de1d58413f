/-!
# Decimal numbers

The text of decimal numbers: an optional minus sign and digits, and for a number with a fraction or a
power of ten `-?D+(.D*)?([eE][+-]?D+)?` where `D` is a digit.
-/
namespace EntityLayout

/-- The number `digits * 10 ^ exponent`, negated if `negative`. A zero keeps its sign. -/
structure Decimal where
  negative : Bool
  digits : Nat
  exponent : Int
  deriving DecidableEq, Repr

namespace Decimal

def digitsValue (digits : List Char) : Nat :=
  Nat.ofDigitChars 10 digits 0

/-- A text of one or more digits and nothing else. -/
def readDigits? (text : List Char) : Option Nat :=
  if text.isEmpty || !text.all Char.isDigit then none else some (digitsValue text)

/-- A text of digits behind an optional sign. Only a number behind `e` may carry a plus sign. -/
def readExponent? : List Char → Option Int
  | '-' :: rest => (readDigits? rest).map fun value => -(value : Int)
  | '+' :: rest => (readDigits? rest).map fun value => (value : Int)
  | text => (readDigits? text).map fun value => (value : Int)

def readInteger? : List Char → Option Int
  | '-' :: rest => (readDigits? rest).map fun value => -(value : Int)
  | text => (readDigits? text).map fun value => (value : Int)

def integerText (value : Int) : List Char :=
  (if value < 0 then ['-'] else []) ++ Nat.toDigits 10 value.natAbs

/-- The parts of a text `D*(.D*)?X` in order: the digits of both sides of the point, and `X`. -/
def splitPoint (text : List Char) : List Char × List Char × List Char :=
  let whole := text.takeWhile Char.isDigit
  match text.dropWhile Char.isDigit with
  | '.' :: rest => (whole, rest.takeWhile Char.isDigit, rest.dropWhile Char.isDigit)
  | rest => (whole, [], rest)

def readUnsigned? (negative : Bool) (text : List Char) : Option Decimal :=
  let (whole, fraction, rest) := splitPoint text
  let scaled (exponent : Int) : Decimal :=
    ⟨negative, digitsValue (whole ++ fraction), exponent - fraction.length⟩
  if whole.isEmpty then none
  else match rest with
    | [] => some (scaled 0)
    | mark :: rest =>
      if mark = 'e' ∨ mark = 'E' then (readExponent? rest).map scaled else none

def read? : List Char → Option Decimal
  | '-' :: rest => readUnsigned? true rest
  | text => readUnsigned? false text

end Decimal

end EntityLayout
