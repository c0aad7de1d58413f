import EntityLayout.Number.Shortest
import EntityLayout.Text.Quoted

/-!
# Tokens

The words of the schema language. The end of the text is a token of its own.
-/
namespace EntityLayout

inductive Token where
  | name (word : String)
  | str (text : String)
  | int (value : Int)
  | float (value : Binary64)
  | openBrace | closeBrace | openParen | closeParen | openBracket | closeBracket
  | colon | equals | atSign | bang | ampersand | pipe | dollar | spread
  | eof
  deriving DecidableEq, Repr

namespace Token

/-- How a message shows a token. -/
def shown : Token → String
  | .name word => "Name(" ++ quoteString word ++ ")"
  | .str text => "Str(" ++ quoteString text ++ ")"
  | .int value => "Int(" ++ String.ofList (Decimal.integerText value) ++ ")"
  | .float value => "Float(" ++ value.text ++ ")"
  | .openBrace => "LBrace"
  | .closeBrace => "RBrace"
  | .openParen => "LParen"
  | .closeParen => "RParen"
  | .openBracket => "LBracket"
  | .closeBracket => "RBracket"
  | .colon => "Colon"
  | .equals => "Eq"
  | .atSign => "At"
  | .bang => "Bang"
  | .ampersand => "Amp"
  | .pipe => "Pipe"
  | .dollar => "Dollar"
  | .spread => "Spread"
  | .eof => "Eof"

/-- The tokens that are written with one character which starts no other token. -/
def ofMark? : Char → Option Token
  | '\x7b' => some .openBrace
  | '\x7d' => some .closeBrace
  | '(' => some .openParen
  | ')' => some .closeParen
  | '[' => some .openBracket
  | ']' => some .closeBracket
  | ':' => some .colon
  | '=' => some .equals
  | '@' => some .atSign
  | '!' => some .bang
  | '&' => some .ampersand
  | '|' => some .pipe
  | '$' => some .dollar
  | _ => none

end Token

end EntityLayout
