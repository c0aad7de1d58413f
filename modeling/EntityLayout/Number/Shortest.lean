import EntityLayout.Number.Binary64

/-!
# Shortest decimal text of a number

A number is written with the fewest digits that read back as the same number; of these the nearest
is taken, and of two equally near ones the larger. A point and at least one digit behind it are
kept. Numbers below `10 ^ -4` and from `10 ^ 16` on are written with a power of ten instead.
-/
namespace EntityLayout

namespace Binary64

/-- Whether `point * 10 ^ exponent` lies among the magnitudes that round to the rank. The bounds are
the midpoints to the two neighbours, and they belong to the even rank. -/
def roundsTo (rank : Nat) (exponent : Int) (point : Nat) : Bool :=
  let up := Nat.pow 10 exponent.toNat
  let down := Nat.pow 10 (-exponent).toNat
  let twice := point * up * Nat.pow 2 1075
  let low := (units (rank - 1) + units rank) * down
  let high := (units rank + units (rank + 1)) * down
  if rank % 2 = 0 then low ≤ twice && twice ≤ high else low < twice && twice < high

/-- The decimal on the grid of `10 ^ exponent` that reads back as the rank, if there is one. -/
def gridPoint? (rank : Nat) (exponent : Int) : Option Nat :=
  let numerator := units rank * Nat.pow 10 (-exponent).toNat
  let denominator := Nat.pow 2 1074 * Nat.pow 10 exponent.toNat
  let below := numerator / denominator
  let upperHalf := denominator ≤ 2 * (numerator % denominator)
  match roundsTo rank exponent below, roundsTo rank exponent (below + 1) with
  | true, true => some (if upperHalf then below + 1 else below)
  | true, false => some below
  | false, true => some (below + 1)
  | false, false => none

/-- The exponent of the finest grid that a search has to reach: there the grid is finer than the
spacing of the numbers. -/
def finestExponent : Int := -324

/-- The first grid with a point that reads back, from the coarsest of `steps` on. -/
def coarsestPoint (rank : Nat) : Nat → Nat × Int
  | 0 => (((gridPoint? rank finestExponent).getD 0), finestExponent)
  | steps + 1 =>
    let exponent := finestExponent + (steps + 1)
    match gridPoint? rank exponent with
    | some point => (point, exponent)
    | none => coarsestPoint rank steps

/-- The digits and the exponent of the shortest decimal for a positive finite rank. The search starts
at the grid of `10 ^ 309`, which is coarser than all numbers. -/
def shortest (rank : Nat) : Nat × Int :=
  coarsestPoint rank 633

def zeros (count : Nat) : List Char :=
  List.replicate count '0'

/-- Digits with the point behind the first `places` of them, filled up with zeros on either side. -/
def positional (digits : List Char) (places : Int) : List Char :=
  if places ≤ 0 then '0' :: '.' :: zeros (-places).toNat ++ digits
  else if digits.length ≤ places.toNat then
    digits ++ zeros (places.toNat - digits.length) ++ ['.', '0']
  else digits.take places.toNat ++ '.' :: digits.drop places.toNat

def scientific (digits : List Char) (exponent : Int) : List Char :=
  let mantissa := match digits with
    | first :: second :: rest => first :: '.' :: second :: rest
    | _ => digits
  mantissa ++ 'e' :: Decimal.integerText exponent

def magnitudeText (rank : Nat) : List Char :=
  if rank = 0 then ['0', '.', '0']
  else if topRank ≤ rank then ['i', 'n', 'f']
  else
    let (point, exponent) := shortest rank
    let digits := Nat.toDigits 10 point
    let places := exponent + digits.length
    if -4 < places ∧ places ≤ 16 then positional digits places
    else scientific digits (places - 1)

/-- The sign is written for the negative zero as well. -/
def text (x : Binary64) : String :=
  String.ofList ((if x.negative then ['-'] else []) ++ magnitudeText x.rank)

end Binary64

end EntityLayout
