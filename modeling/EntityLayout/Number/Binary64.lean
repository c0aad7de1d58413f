import EntityLayout.Number.Decimal

/-!
# Binary floating-point numbers of 64 bits

The numbers other than NaN. The magnitudes are counted from zero to infinity in their order, so that
neighbours have neighbouring ranks; the rank is also the bit pattern without its sign. Everything is
computed exactly, in units of `2 ^ -1074`, the smallest positive magnitude.
-/
namespace EntityLayout

/-- The rank of infinity. -/
def Binary64.topRank : Nat := 2047 * Nat.pow 2 52

structure Binary64 where
  negative : Bool
  rank : Nat
  rank_le : rank ≤ Binary64.topRank
  deriving DecidableEq, Repr

namespace Binary64

/-- The two zeros are equal, whatever their signs. -/
instance : BEq Binary64 where
  beq x y := x.rank == y.rank && (x.negative == y.negative || x.rank == 0)

/-- The magnitude of a rank in units of `2 ^ -1074`. For the rank of infinity it is the power of two
that would come next. -/
def units (rank : Nat) : Nat :=
  let binade := rank / Nat.pow 2 52
  let fraction := rank % Nat.pow 2 52
  if binade = 0 then fraction else (Nat.pow 2 52 + fraction) * Nat.pow 2 (binade - 1)

/-- The whole number nearest to a quotient, and of two such the even one. -/
def roundHalfEven (numerator denominator : Nat) : Nat :=
  let quotient := numerator / denominator
  let twice := 2 * (numerator % denominator)
  if twice < denominator ∨ (twice = denominator ∧ quotient % 2 = 0) then quotient
  else quotient + 1

/-- The rank of the magnitude nearest to a quotient. A significand has at most 53 bits, so `shift` of
the low bits of the quotient, in units, are rounded away. -/
def rankOfRatio (numerator denominator : Nat) : Nat :=
  let scaled := numerator * Nat.pow 2 1074
  let shift := (scaled / denominator).log2 - 52
  min (shift * Nat.pow 2 52 + roundHalfEven scaled (denominator * Nat.pow 2 shift)) topRank

/-- The rank of the magnitude nearest to `digits * 10 ^ exponent`. The first two cases only keep the
powers of ten small: beyond `10 ^ 400` all is infinite, and below `10 ^ -400` all is zero. -/
def rankOfDecimal (digits : Nat) (exponent : Int) : Nat :=
  if digits = 0 ∨ exponent + digits.log2 + 1 < -400 then 0
  else if 400 < exponent then topRank
  else if 0 ≤ exponent then rankOfRatio (digits * Nat.pow 10 exponent.toNat) 1
  else rankOfRatio digits (Nat.pow 10 (-exponent).toNat)

def ofRank (negative : Bool) (rank : Nat) : Binary64 :=
  ⟨negative, min rank topRank, Nat.min_le_right rank topRank⟩

def ofDecimal (value : Decimal) : Binary64 :=
  ofRank value.negative (rankOfDecimal value.digits value.exponent)

/-- Reads a decimal number, rounded to the nearest. -/
def read? (text : List Char) : Option Binary64 :=
  (Decimal.read? text).map ofDecimal

end Binary64

end EntityLayout
