import EntityLayout.Sdl.Token
import EntityLayout.Text.Blank

/-!
# Reading tokens

`Token.scan` reads one token from the front of a text and says what is left unread, also when it
fails: what a failed reading has looked at is not read again. `tokenize` reads a whole text.
-/
namespace EntityLayout

inductive LexError where
  | unexpectedChar (found : Char)
  | unterminatedString
  /-- The escape without its backslash. -/
  | invalidEscape (escape : String)
  | invalidNumber (text : String)
  deriving DecidableEq, Repr

def LexError.message : LexError → String
  | .unexpectedChar found => "Unexpected character: " ++ quoteChar found
  | .unterminatedString => "Unterminated string"
  | .invalidEscape escape => "Invalid escape sequence: \\" ++ escape
  | .invalidNumber text => "Invalid number: " ++ text

/-- What a reader answers, together with the text that it leaves unread. -/
abbrev Scanned (α : Type) : Type := EStateM.Result LexError (List Char) α

def Scanned.map {α β : Type} (f : α → β) : Scanned α → Scanned β
  | .ok value rest => .ok (f value) rest
  | .error cause rest => .error cause rest

namespace Token

/-- Blanks, commas and byte order marks separate tokens and mean nothing. -/
def isSeparator (c : Char) : Bool :=
  isBlank c || c == ',' || c == '\ufeff'

mutual

/-- Drops separators and comments from the front. -/
def dropIgnored : List Char → List Char
  | [] => []
  | c :: rest =>
    if isSeparator c then dropIgnored rest
    else if c = '#' then dropComment rest
    else c :: rest

/-- Drops the rest of a comment, which ends with its line or with the text. -/
def dropComment : List Char → List Char
  | [] => []
  | c :: rest =>
    if c = '\n' ∨ c = '\r' then dropIgnored rest
    else dropComment rest

end

def startsName (c : Char) : Bool :=
  c.isAlpha || c == '_'

def continuesName (c : Char) : Bool :=
  c.isAlphanum || c == '_'

def scanName (first : Char) (text : List Char) : Scanned Token :=
  .ok (.name (String.ofList (first :: text.takeWhile continuesName))) (text.dropWhile continuesName)

def isExponentMark (c : Char) : Bool :=
  c == 'e' || c == 'E'

def marksFloat (c : Char) : Bool :=
  c == '.' || isExponentMark c

/-- Whether a number can go on with `c` after the character `before`: a sign stands only directly
behind an exponent mark. -/
def continuesNumber (before c : Char) : Bool :=
  c.isDigit || marksFloat c || ((c == '+' || c == '-') && isExponentMark before)

/-- The longest piece of the text that goes on a number whose last character is `before`. -/
def numberRun (before : Char) : List Char → List Char
  | [] => []
  | c :: rest => if continuesNumber before c then c :: numberRun c rest else []

def fitsInt64 (value : Int) : Bool :=
  -Int.pow 2 63 ≤ value && value < Int.pow 2 63

def ofNumber? (run : List Char) : Option Token :=
  if run.any marksFloat then (Binary64.read? run).map .float
  else ((Decimal.readInteger? run).filter fitsInt64).map .int

def scanNumber (first : Char) (text : List Char) : Scanned Token :=
  let tail := numberRun first text
  let run := first :: tail
  let rest := text.drop tail.length
  match ofNumber? run with
  | some token => .ok token rest
  | none => .error (.invalidNumber (String.ofList run)) rest

def isHexDigit (c : Char) : Bool :=
  c.isDigit || ('a' ≤ c && c ≤ 'f') || ('A' ≤ c && c ≤ 'F')

def hexDigitValue (c : Char) : Nat :=
  if c.isDigit then c.toNat - '0'.toNat
  else if 'a' ≤ c then c.toNat - 'a'.toNat + 10
  else c.toNat - 'A'.toNat + 10

/-- The character with the code point given by the digits, unless it is a surrogate. -/
def ofHexDigits? (digits : List Char) : Option Char :=
  let code := digits.foldl (fun value c => 16 * value + hexDigitValue c) 0
  if digits.all isHexDigit && code.isValidChar then some (Char.ofNat code) else none

/-- What the character behind a backslash stands for, `u` apart. -/
def ofEscape? : Char → Option Char
  | 'n' => some '\n'
  | 't' => some '\t'
  | 'r' => some '\r'
  | 'b' => some '\x08'
  | 'f' => some '\x0c'
  | '"' => some '"'
  | '\\' => some '\\'
  | '/' => some '/'
  | _ => none

/-- The failure at the text behind `\u` that has no four digits of a character in front: it is at the
first character that is no digit, at the fourth digit of a surrogate, or at the end of the text. -/
def scanBadCodePoint {α : Type} (text : List Char) : Scanned α :=
  let digits := (text.take 4).takeWhile isHexDigit
  let offending := digits.length + 1
  if digits.length < 4 && text.length < offending then .error .unterminatedString []
  else .error (.invalidEscape (String.ofList ('u' :: text.take (min offending 4))))
    (text.drop (min offending 4))

/-- Reads a string up to its closing quote; the opening one has been read. -/
def scanQuoted : List Char → Scanned (List Char)
  | [] => .error .unterminatedString []
  | c :: rest =>
    if c = '"' then .ok [] rest
    else if c = '\n' then .error .unterminatedString rest
    else if c = '\\' then
      match rest with
      | [] => .error .unterminatedString []
      | 'u' :: rest =>
        match rest with
        | a :: b :: c :: d :: rest' =>
          match ofHexDigits? [a, b, c, d] with
          | some meaning => (scanQuoted rest').map (meaning :: ·)
          | none => scanBadCodePoint rest
        | _ => scanBadCodePoint rest
      | escape :: rest =>
        match ofEscape? escape with
        | some meaning => (scanQuoted rest).map (meaning :: ·)
        | none => .error (.invalidEscape (String.ofList [escape])) rest
    else (scanQuoted rest).map (c :: ·)

def quotes (count : Nat) : List Char :=
  List.replicate count '"'

/-- Reads on in a block string. The `pending` quotes in front of the text have been read: they are part of the block
string unless two of them and the next quote close it. Three quotes behind a backslash are the only escape; behind
one with fewer quotes, these stand for themselves and close nothing. -/
def scanBlockFrom (pending : Nat) : List Char → Scanned (List Char)
  | [] => .error .unterminatedString []
  | '"' :: rest => if pending + 1 = 3 then .ok [] rest else scanBlockFrom (pending + 1) rest
  | '\\' :: '"' :: '"' :: '"' :: rest => (scanBlockFrom 0 rest).map (quotes pending ++ quotes 3 ++ ·)
  | '\\' :: '"' :: '"' :: rest => (scanBlockFrom 0 rest).map (quotes pending ++ '\\' :: quotes 2 ++ ·)
  | '\\' :: '"' :: rest => (scanBlockFrom 0 rest).map (quotes pending ++ '\\' :: quotes 1 ++ ·)
  | c :: rest => (scanBlockFrom 0 rest).map (quotes pending ++ [c] ++ ·)

/-- Reads a block string up to its three closing quotes; the three opening ones have been read. -/
def scanBlock (text : List Char) : Scanned (List Char) :=
  scanBlockFrom 0 text

/-- Reads a string of either kind; one quote has been read. -/
def scanString : List Char → Scanned Token
  | '"' :: '"' :: rest => (scanBlock rest).map (.str ∘ String.ofList)
  | '"' :: rest => .ok (.str "") rest
  | text => (scanQuoted text).map (.str ∘ String.ofList)

/-- Reads the second and the third point of a spread. -/
def scanSpread : List Char → Scanned Token
  | '.' :: '.' :: rest => .ok .spread rest
  | '.' :: _ :: rest => .error (.unexpectedChar '.') rest
  | text => .error (.unexpectedChar '.') text.tail

def startsNumber (c : Char) (rest : List Char) : Bool :=
  c.isDigit || (c == '-' && rest.head?.any Char.isDigit)

def scan (text : List Char) : Scanned Token :=
  match dropIgnored text with
  | [] => .ok .eof []
  | c :: rest =>
    match ofMark? c with
    | some token => .ok token rest
    | none =>
      if c = '.' then scanSpread rest
      else if c = '"' then scanString rest
      else if startsNumber c rest then scanNumber c rest
      else if startsName c then scanName c rest
      else .error (.unexpectedChar c) rest

/-- Reads at most `count` tokens, the end included. -/
def scanAll : Nat → List Char → Except LexError (List Token)
  | 0, _ => .ok []
  | count + 1, text =>
    match scan text with
    | .error cause _ => .error cause
    | .ok .eof _ => .ok [.eof]
    | .ok token rest => (scanAll count rest).map (token :: ·)

end Token

/-- All tokens of a text, the end included. Each token but the end takes up a character, so that there
is one more than characters at most. -/
def tokenize (source : String) : Except LexError (List Token) :=
  let text := source.toList
  Token.scanAll (text.length + 1) text

end EntityLayout
