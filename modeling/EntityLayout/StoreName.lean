import EntityLayout.Text.Alphanumeric
import EntityLayout.Text.LetterCase

/-!
# Store names

The snake-case name under which a declared name is stored. The words of a name are its runs of
letters and numbers, cut further where the case changes; they are written in lower case and joined by
single underscores. A digit counts as a capital, and only the two neighbours of a character decide
whether a word starts there: `int8Field` becomes `int_8_field`, `0X128free` becomes `0x12_8free`.
-/
namespace EntityLayout

namespace StoreName

/-- All but the letters `a` to `z` count as capitals. -/
def isCapital (c : Char) : Bool :=
  c.toUpper == c

/-- Whether a word starts at the letter or number `c`, which is not the first one of the name. -/
def startsWord (before : Option Char) (c : Char) (after : Option Char) : Bool :=
  before.any (!isAlphanumeric ·) ||
    (isCapital c && (after.any isLowercase || before.any isLowercase))

/-- Writes the rest of a name. `begun` says that a letter or number came earlier, and `before` is the
character in front of the rest. -/
def spell (begun : Bool) (before : Option Char) : List Char → List Char
  | [] => []
  | c :: rest =>
    if isAlphanumeric c then
      (if begun && startsWord before c rest.head? then ['_'] else []) ++ lowercase c ++
        spell true (some c) rest
    else spell begun (some c) rest

end StoreName

def storeName (name : String) : String :=
  String.ofList (StoreName.spell false none name.toList)

end EntityLayout
