import EntityLayout.Layout.Basic
import EntityLayout.Sdl.Document
import EntityLayout.StoreName

/-!
# Names of types

What the type names of a schema stand for. Names are looked up as they are declared; the types they
resolve to carry store names.
-/
namespace EntityLayout

/-- The storage types of the scalars that every schema has. -/
def builtinType? (name : String) : Option SqlType :=
  match name with
  | "ID" | "String" => some .text
  | "Boolean" => some .boolean
  | "Int" => some .integer
  | "Int8" => some .int8
  | "BigInt" | "BigDecimal" => some .numeric
  | "Bytes" => some .bytea
  | "Timestamp" => some .timestamptz
  | _ => none

inductive ResolveError where
  | unknown (name : String)
  | noImplementors (interface : String)
  deriving DecidableEq, Repr

/-- The declared names of a schema, and the tables that implement each interface. A later entry for an
interface stands in front of an earlier one and hides it. -/
structure Registry where
  enums : List String
  entities : List String
  interfaces : List (String × List String)
  deriving DecidableEq, Repr

/-- A reference to the identifiers of some tables. -/
def ColumnType.toTables (tables : List String) : ColumnType :=
  .reference tables idField .text

namespace Registry

def empty : Registry := ⟨[], [], []⟩

def addEnum (registry : Registry) (name : String) : Registry :=
  { registry with enums := name :: registry.enums }

def addEntity (registry : Registry) (name : String) : Registry :=
  { registry with entities := name :: registry.entities }

def addInterface (registry : Registry) (name : String) (tables : List String) : Registry :=
  { registry with interfaces := (name, tables) :: registry.interfaces }

def entityTable? (registry : Registry) (name : String) : Option String :=
  if name ∈ registry.entities then some (storeName name) else none

def isInterface (registry : Registry) (name : String) : Bool :=
  (registry.interfaces.lookup name).isSome

/-- The meaning of a name. A built-in scalar hides an enum, an enum an entity, and an entity an
interface of the same name. -/
def resolveName (registry : Registry) (name : String) : Except ResolveError ColumnType :=
  match builtinType? name with
  | some type => .ok (.scalar type)
  | none =>
    if name ∈ registry.enums then .ok (.enum (storeName name))
    else if name ∈ registry.entities then .ok (.toTables [storeName name])
    else match registry.interfaces.lookup name with
      | none => .error (.unknown name)
      | some [] => .error (.noImplementors name)
      | some tables => .ok (.toTables tables)

/-- The column type of a declared type. Required marks do not matter to it. -/
def resolve (registry : Registry) : TypeRef → Except ResolveError ColumnType
  | .named name => registry.resolveName name
  | .list element => (registry.resolve element).map .list
  | .nonNull type => registry.resolve type

end Registry

end EntityLayout
