import EntityLayout.Sdl.Document
import EntityLayout.Sdl.Token.Scan

/-!
# Reading documents

A reader takes tokens from the front of a list and leaves the rest, also when it fails: a token that
it took before it failed stays taken, and one that it only looked at does not. Keywords are names like
any other except where a definition starts and for `implements` behind a type's name.
-/
namespace EntityLayout

/-- What would have fitted in the place of an unexpected token. -/
inductive Expectation where
  | name | type | value | definition
  deriving DecidableEq, Repr

def Expectation.text : Expectation → String
  | .name => "name"
  | .type => "type"
  | .value => "value"
  | .definition => "type, interface, enum, or scalar"

/-- The number of lists in a type, or of lists and objects in an argument, that may be open at once. -/
def maxDepth : Nat := 64

inductive ParseError where
  | lex (cause : LexError)
  | unexpected (found : Token) (wanted : Expectation)
  | expected (wanted found : Token)
  | unexpectedEnd
  | unsupported (keyword : String)
  | tooDeep
  deriving DecidableEq, Repr

namespace ParseError

def message : ParseError → String
  | .lex cause => "Lex error: " ++ cause.message
  | .unexpected found wanted => "Unexpected token: " ++ found.shown ++ ", expected " ++ wanted.text
  | .expected wanted found => "Expected " ++ wanted.shown ++ ", found " ++ found.shown
  | .unexpectedEnd => "Unexpected end of input"
  | .unsupported keyword => "Unsupported definition: " ++ keyword
  | .tooDeep => "Nesting deeper than " ++ String.ofList (Nat.toDigits 10 maxDepth) ++ " levels"

/-- The messages of what lies behind an error, the nearest first. -/
def causes : ParseError → List String
  | .lex cause => [cause.message]
  | _ => []

/-- The failure at a token that does not fit, which may be the end. -/
def atToken (found : Token) (wanted : Expectation) : ParseError :=
  if found = .eof then .unexpectedEnd else .unexpected found wanted

end ParseError

/-- A reader of tokens. Behind the last token there is always the end. -/
abbrev Reader (α : Type) : Type := EStateM ParseError (List Token) α

namespace Reader

def peek : Reader Token := fun tokens =>
  .ok (tokens.headD .eof) tokens

def advance : Reader Token := fun tokens =>
  .ok (tokens.headD .eof) tokens.tail

/-- Takes the token if it comes next, and says whether it did. -/
def eat (token : Token) : Reader Bool := do
  if (← peek) = token then
    let _ ← advance
    return true
  else return false

def expect (wanted : Token) : Reader Unit := do
  let found ← advance
  if found = wanted then return ()
  else if found = .eof then throw .unexpectedEnd
  else throw (.expected wanted found)

def name : Reader String := do
  match ← advance with
  | .name word => return word
  | found => throw (.atToken found .name)

def skipDescription : Reader Unit := do
  match ← peek with
  | .str _ => discard advance
  | _ => return ()

/-- Repeats a step until it answers that there is no further item, at most once for each entry of
`rounds`. -/
def collectWithin {α : Type} (step : Reader (Option α)) : (rounds : List Token) → Reader (List α)
  | [] => return []
  | _ :: rounds => do
    match ← step with
    | none => return []
    | some item => return item :: (← collectWithin step rounds)

/-- Repeats a step until it answers that there is no further item. A step takes a token for each item,
so that a round for each unread token and one for the last answer are enough. -/
def collect {α : Type} (step : Reader (Option α)) : Reader (List α) := fun tokens =>
  collectWithin step (.eof :: tokens) tokens

/-- Reads items up to a closing token. -/
def itemsUntil {α : Type} (close : Token) (item : Reader α) : Reader (List α) :=
  collect do
    if ← eat close then return none
    else return some (← item)

/-- Reads items behind one opening token each. -/
def itemsAfter {α : Type} (mark : Token) (item : Reader α) : Reader (List α) :=
  collect do
    if ← eat mark then return some (← item)
    else return none

/-- Reads items in braces, each of them behind an optional description. No braces mean no items. -/
def block {α : Type} (item : Reader α) : Reader (List α) := do
  if ← eat .openBrace then
    collect do
      skipDescription
      if ← eat .closeBrace then return none
      else return some (← item)
  else return []

/-- Reads a type, given a reader for the elements of a list. -/
def typeOf (element : Reader TypeRef) : Reader TypeRef := do
  let type ← match ← advance with
    | .name word => pure (TypeRef.named word)
    | .openBracket => do
      let element ← element
      expect .closeBracket
      pure (TypeRef.list element)
    | found => throw (.atToken found .type)
  if ← eat .bang then return .nonNull type
  else return type

/-- Reads a type in which as many lists as given may be open at once. -/
def type : Nat → Reader TypeRef
  | 0 => typeOf (throw .tooDeep)
  | room + 1 => typeOf (type room)

/-- The value of a bare word. -/
def word (text : String) : Value :=
  if text = "true" then .bool true
  else if text = "false" then .bool false
  else if text = "null" then .null
  else .enum text

/-- Reads an argument, given a reader for its value. -/
def argumentOf (value : Reader Value) : Reader Argument := do
  let name ← name
  expect .colon
  return ⟨name, ← value⟩

/-- Reads a value, given readers for what stands behind the opening token of a list or object. -/
def valueOf (items : Reader (List Value)) (entries : Reader (List Argument)) : Reader Value := do
  match ← advance with
  | .int number => return .int number
  | .float number => return .float number
  | .str text => return .str text
  | .name text => return word text
  | .openBracket => return .list (← items)
  | .openBrace => return .object (← entries)
  | found => throw (.atToken found .value)

/-- Reads a value in which as many lists and objects as given may be open at once. -/
def value : Nat → Reader Value
  | 0 => valueOf (throw .tooDeep) (throw .tooDeep)
  | room + 1 =>
    valueOf (itemsUntil .closeBracket (value room))
      (itemsUntil .closeBrace (argumentOf (value room)))

def directive : Reader Directive := do
  let name ← name
  if ← eat .openParen then
    return ⟨name, ← itemsUntil .closeParen (argumentOf (value maxDepth))⟩
  else return ⟨name, []⟩

def directives : Reader (List Directive) :=
  itemsAfter .atSign directive

def field : Reader Field := do
  let name ← name
  expect .colon
  let type ← type maxDepth
  return ⟨name, type, ← directives⟩

/-- Reads the interfaces of a type, separated by ampersands; one may also stand in front. -/
def implements : Reader (List String) := do
  if ← eat (.name "implements") then
    let _ ← eat .ampersand
    let first ← name
    return first :: (← itemsAfter .ampersand name)
  else return []

def objectType : Reader ObjectType := do
  let name ← name
  let interfaces ← implements
  let directives ← directives
  return ⟨name, interfaces, directives, ← block field⟩

/-- Reads an interface. The interfaces that it implements itself are not kept. -/
def interfaceType : Reader InterfaceType := do
  let name ← name
  let _ ← implements
  let directives ← directives
  return ⟨name, directives, ← block field⟩

/-- Reads a member of an enum. Its directives are not kept. -/
def enumValue : Reader String := do
  let name ← name
  let _ ← directives
  return name

def enumType : Reader EnumType := do
  let name ← name
  let directives ← directives
  return ⟨name, directives, ← block enumValue⟩

def scalarType : Reader ScalarType := do
  let name ← name
  return ⟨name, ← directives⟩

/-- The definitions of the full language that describe no stored data. -/
def isUnsupported (keyword : String) : Bool :=
  ["schema", "input", "union", "directive", "extend"].contains keyword

/-- Reads a definition behind its keyword. -/
def definitionOf (keyword : String) : Reader Definition :=
  if keyword = "type" then .object <$> objectType
  else if keyword = "interface" then .interface <$> interfaceType
  else if keyword = "enum" then .enum <$> enumType
  else if keyword = "scalar" then .scalar <$> scalarType
  else if isUnsupported keyword then throw (.unsupported keyword)
  else throw (.unexpected (.name keyword) .definition)

/-- Reads the next definition, unless only a description is left in front of the end. -/
def definition : Reader (Option Definition) := do
  skipDescription
  match ← peek with
  | .eof => return none
  | .name keyword =>
    let _ ← advance
    return some (← definitionOf keyword)
  | found => throw (.unexpected found .definition)

def document : Reader Document := do
  return ⟨← collect definition⟩

end Reader

/-- The tokens of a source, as the readers take them. -/
def tokensOf (source : String) : Except ParseError (List Token) :=
  (tokenize source).mapError .lex

def Document.parse (source : String) : Except ParseError Document := do
  match Reader.document.run (← tokensOf source) with
  | .ok document _ => .ok document
  | .error cause _ => .error cause

end EntityLayout
