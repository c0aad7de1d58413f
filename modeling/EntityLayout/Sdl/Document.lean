import EntityLayout.Number.Binary64

/-!
# Schema documents

The syntax tree of a schema: object, interface, enum and scalar types with their fields and
directives. Directive arguments are kept as they are written, whatever their directive makes of them.
-/
namespace EntityLayout

/-- A value under a name. -/
structure Named (α : Type) where
  name : String
  value : α
  deriving DecidableEq, Repr

/-- An argument value. -/
inductive Value where
  | int (value : Int)
  | float (value : Binary64)
  | str (text : String)
  | bool (value : Bool)
  | null
  | enum (member : String)
  | list (items : List Value)
  | object (entries : List (Named Value))
  deriving Repr

abbrev Argument : Type := Named Value

namespace Value

inductive Kind where
  | int | float | str | bool | null | enum | list | object
  deriving DecidableEq, Repr

/-- The word for a kind of value in messages. -/
def Kind.text : Kind → String
  | .int => "int"
  | .float => "float"
  | .str => "string"
  | .bool => "boolean"
  | .null => "null"
  | .enum => "enum value"
  | .list => "list"
  | .object => "object"

def kind : Value → Kind
  | .int _ => .int
  | .float _ => .float
  | .str _ => .str
  | .bool _ => .bool
  | .null => .null
  | .enum _ => .enum
  | .list _ => .list
  | .object _ => .object

mutual

/-- Equality of values. It compares numbers, so that the two zeros are equal. -/
def agrees : Value → Value → Bool
  | .int a, .int b => a == b
  | .float a, .float b => a == b
  | .str a, .str b => a == b
  | .bool a, .bool b => a == b
  | .null, .null => true
  | .enum a, .enum b => a == b
  | .list a, .list b => itemsAgree a b
  | .object a, .object b => entriesAgree a b
  | _, _ => false

def itemsAgree : List Value → List Value → Bool
  | [], [] => true
  | a :: as, b :: bs => a.agrees b && itemsAgree as bs
  | _, _ => false

def entriesAgree : List (Named Value) → List (Named Value) → Bool
  | [], [] => true
  | ⟨m, a⟩ :: as, ⟨n, b⟩ :: bs => m == n && a.agrees b && entriesAgree as bs
  | _, _ => false

end

instance : BEq Value := ⟨agrees⟩

end Value

instance {α : Type} [BEq α] : BEq (Named α) where
  beq a b := a.name == b.name && a.value == b.value

structure Directive where
  name : String
  arguments : List Argument
  deriving BEq, Repr

/-- The type of a field as it is declared: a name, a list, or either of them marked as required. -/
inductive TypeRef where
  | named (name : String)
  | list (element : TypeRef)
  | nonNull (type : TypeRef)
  deriving DecidableEq, Repr

namespace TypeRef

def baseName : TypeRef → String
  | .named name => name
  | .list element => element.baseName
  | .nonNull type => type.baseName

def isRequired : TypeRef → Bool
  | .nonNull _ => true
  | _ => false

/-- Whether the type is a list, under at most one required mark. -/
def isList : TypeRef → Bool
  | .list _ => true
  | .nonNull (.list _) => true
  | _ => false

end TypeRef

structure Field where
  name : String
  type : TypeRef
  directives : List Directive
  deriving BEq, Repr

structure ObjectType where
  name : String
  implements : List String
  directives : List Directive
  fields : List Field
  deriving BEq, Repr

structure InterfaceType where
  name : String
  directives : List Directive
  fields : List Field
  deriving BEq, Repr

structure EnumType where
  name : String
  directives : List Directive
  values : List String
  deriving BEq, Repr

structure ScalarType where
  name : String
  directives : List Directive
  deriving BEq, Repr

inductive Definition where
  | object (type : ObjectType)
  | interface (type : InterfaceType)
  | enum (type : EnumType)
  | scalar (type : ScalarType)
  deriving BEq, Repr

structure Document where
  definitions : List Definition
  deriving BEq, Repr

namespace Document

def objects (document : Document) : List ObjectType :=
  document.definitions.filterMap fun
    | .object type => some type
    | _ => none

def interfaces (document : Document) : List InterfaceType :=
  document.definitions.filterMap fun
    | .interface type => some type
    | _ => none

def enums (document : Document) : List EnumType :=
  document.definitions.filterMap fun
    | .enum type => some type
    | _ => none

end Document

end EntityLayout
