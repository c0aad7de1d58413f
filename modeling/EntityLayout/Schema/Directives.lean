import EntityLayout.Sdl.Document

/-!
# Directives with a meaning

Three directives decide what is stored: `@entity` on a type, `@derivedFrom` on a field, and
`@fulltext` on a type. Their arguments have fixed names and shapes, and anything else is refused.
Directives of other names say nothing about the layout and are passed over, whatever their arguments.
-/
namespace EntityLayout

inductive KnownDirective where
  | entity | derivedFrom | fulltext
  deriving DecidableEq, Repr

namespace KnownDirective

def name : KnownDirective → String
  | .entity => "entity"
  | .derivedFrom => "derivedFrom"
  | .fulltext => "fulltext"

def ofName? (name : String) : Option KnownDirective :=
  [.entity, .derivedFrom, .fulltext].find? (·.name == name)

end KnownDirective

/-- A place where a directive is not allowed. -/
inductive Misplacement where
  | onType | onField | onOrdinaryType
  deriving DecidableEq, Repr

def Misplacement.text : Misplacement → String
  | .onType => "a type"
  | .onField => "a field"
  | .onOrdinaryType => "a type other than `_Schema_`"

/-- What the value of an argument has to be. A word is a string or a bare enum value. -/
inductive ArgumentShape where
  | boolean | string | word | list | object
  deriving DecidableEq, Repr

def ArgumentShape.text : ArgumentShape → String
  | .boolean => "a boolean"
  | .string => "a string"
  | .word => "a string or enum value"
  | .list => "a list"
  | .object => "an object"

inductive DirectiveError where
  | misplaced (directive : KnownDirective) (place : Misplacement)
  | repeated (directive : KnownDirective)
  | missingArgument (directive : KnownDirective) (argument : String)
  | unknownArgument (directive : KnownDirective) (argument : String)
  | duplicateArgument (directive : KnownDirective) (argument : String)
  | invalidArgument (directive : KnownDirective) (argument : String) (wanted : ArgumentShape)
      (found : Value.Kind)
  deriving DecidableEq, Repr

def DirectiveError.message : DirectiveError → String
  | .misplaced directive place => "@" ++ directive.name ++ " is not allowed on " ++ place.text
  | .repeated directive => "@" ++ directive.name ++ " given more than once"
  | .missingArgument directive argument =>
    "@" ++ directive.name ++ " is missing argument `" ++ argument ++ "`"
  | .unknownArgument directive argument =>
    "@" ++ directive.name ++ " has unknown argument `" ++ argument ++ "`"
  | .duplicateArgument directive argument =>
    "@" ++ directive.name ++ " has argument `" ++ argument ++ "` more than once"
  | .invalidArgument directive argument wanted found =>
    "@" ++ directive.name ++ " argument `" ++ argument ++ "` must be " ++ wanted.text ++ ", found " ++
      found.text

/-- The arguments of a directive, or the entries of an object among them. -/
structure Arguments where
  directive : KnownDirective
  entries : List Argument

namespace Arguments

/-- Refuses the first argument whose name is not allowed or was given before. -/
def checkNames (directive : KnownDirective) (allowed : List String) :
    (seen : List String) → List Argument → Except DirectiveError Unit
  | _, [] => .ok ()
  | seen, argument :: rest =>
    if argument.name ∉ allowed then .error (.unknownArgument directive argument.name)
    else if argument.name ∈ seen then .error (.duplicateArgument directive argument.name)
    else checkNames directive allowed (argument.name :: seen) rest

def checked (directive : KnownDirective) (allowed : List String) (entries : List Argument) :
    Except DirectiveError Arguments := do
  checkNames directive allowed [] entries
  return ⟨directive, entries⟩

def get? (arguments : Arguments) (name : String) : Option Value :=
  (arguments.entries.find? (·.name == name)).map (·.value)

def get (arguments : Arguments) (name : String) : Except DirectiveError Value :=
  match arguments.get? name with
  | some value => .ok value
  | none => .error (.missingArgument arguments.directive name)

def invalid {α : Type} (arguments : Arguments) (name : String) (wanted : ArgumentShape)
    (found : Value) : Except DirectiveError α :=
  .error (.invalidArgument arguments.directive name wanted found.kind)

def string (arguments : Arguments) (name : String) : Except DirectiveError String := do
  match ← arguments.get name with
  | .str text => return text
  | found => arguments.invalid name .string found

def word (arguments : Arguments) (name : String) : Except DirectiveError String := do
  match ← arguments.get name with
  | .str text => return text
  | .enum member => return member
  | found => arguments.invalid name .word found

def list (arguments : Arguments) (name : String) : Except DirectiveError (List Value) := do
  match ← arguments.get name with
  | .list items => return items
  | found => arguments.invalid name .list found

/-- A flag that is off when it is not given. -/
def flag (arguments : Arguments) (name : String) : Except DirectiveError Bool :=
  match arguments.get? name with
  | none => .ok false
  | some (.bool value) => .ok value
  | some found => arguments.invalid name .boolean found

/-- The entries of an object that stands in the list `name`. -/
def ofItem (directive : KnownDirective) (name : String) (allowed : List String) :
    Value → Except DirectiveError Arguments
  | .object entries => checked directive allowed entries
  | found => .error (.invalidArgument directive name .object found.kind)

end Arguments

structure EntityOptions where
  immutable : Bool
  timeseries : Bool
  deriving DecidableEq, Repr

/-- The fields of an entity that a text search looks at. -/
structure SearchInclude where
  entity : String
  fields : List String
  deriving DecidableEq, Repr

structure TextSearch where
  name : String
  language : String
  algorithm : String
  includes : List SearchInclude
  deriving DecidableEq, Repr

/-- What the directives of an object type say. -/
structure TypeDirectives where
  entity : Option EntityOptions
  searches : List TextSearch
  deriving DecidableEq, Repr

def EntityOptions.read (arguments : List Argument) : Except DirectiveError EntityOptions := do
  let arguments ← Arguments.checked .entity ["immutable", "timeseries"] arguments
  return ⟨← arguments.flag "immutable", ← arguments.flag "timeseries"⟩

namespace TextSearch

def readField (item : Value) : Except DirectiveError String := do
  let entries ← Arguments.ofItem .fulltext "fields" ["name"] item
  entries.string "name"

def readInclude (item : Value) : Except DirectiveError SearchInclude := do
  let entries ← Arguments.ofItem .fulltext "include" ["entity", "fields"] item
  let fields ← (← entries.list "fields").mapM readField
  return ⟨← entries.string "entity", fields⟩

def read (arguments : List Argument) : Except DirectiveError TextSearch := do
  let arguments ←
    Arguments.checked .fulltext ["name", "language", "algorithm", "include"] arguments
  let includes ← (← arguments.list "include").mapM readInclude
  return ⟨← arguments.string "name", ← arguments.word "language", ← arguments.word "algorithm",
    includes⟩

end TextSearch

/-- Takes one more directive of a type into account. -/
def TypeDirectives.add (known : TypeDirectives) (directive : Directive) :
    Except DirectiveError TypeDirectives :=
  match KnownDirective.ofName? directive.name with
  | some .entity =>
    if known.entity.isSome then .error (.repeated .entity)
    else (EntityOptions.read directive.arguments).map fun options =>
      { known with entity := some options }
  | some .fulltext =>
    (TextSearch.read directive.arguments).map fun search =>
      { known with searches := known.searches ++ [search] }
  | some .derivedFrom => .error (.misplaced .derivedFrom .onType)
  | none => .ok known

/-- Reads the directives of an object type in their order. -/
def typeDirectives (directives : List Directive) : Except DirectiveError TypeDirectives :=
  directives.foldlM TypeDirectives.add ⟨none, []⟩

/-- The field of another entity from which a derived field starts. -/
def readDerivedFrom (arguments : List Argument) : Except DirectiveError String := do
  let arguments ← Arguments.checked .derivedFrom ["field"] arguments
  arguments.string "field"

/-- Takes one more directive of a field into account; `known` is what those in front of it say. -/
def addFieldDirective (known : Option String) (directive : Directive) :
    Except DirectiveError (Option String) :=
  match KnownDirective.ofName? directive.name with
  | some .derivedFrom =>
    if known.isSome then .error (.repeated .derivedFrom)
    else (readDerivedFrom directive.arguments).map some
  | some other => .error (.misplaced other .onField)
  | none => .ok known

/-- Reads the directives of a field in their order: the field that it is derived from, if any. -/
def fieldDirectives (directives : List Directive) : Except DirectiveError (Option String) :=
  directives.foldlM addFieldDirective none

end EntityLayout
