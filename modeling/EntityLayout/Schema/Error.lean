import EntityLayout.Layout.Basic
import EntityLayout.Schema.Directives
import EntityLayout.Sdl.Document.Read

/-!
# Schema errors

Why a schema has no layout. Each error names the first thing that is wrong, and there is never a part
of a layout beside it.
-/
namespace EntityLayout

/-- The part of a schema that an error is about. -/
inductive Location where
  | type (name : String)
  | field (owner name : String)
  | search (name : String)
  deriving DecidableEq, Repr

def Location.text : Location → String
  | .type name => name
  | .field owner name => owner ++ "." ++ name
  | .search name => "@fulltext(" ++ name ++ ")"

/-- Why a reference from one entity to another leads nowhere. -/
inductive Unresolved where
  | noImplementors (interface : String)
  | notAnEntity (interface : String)
  | unknownEntity (name : String)
  | noField (entity field : String)
  | noReference (field entity target : String)
  deriving DecidableEq, Repr

def Unresolved.text : Unresolved → String
  | .noImplementors interface => "interface `" ++ interface ++ "` has no implementing entities"
  | .notAnEntity interface => "`" ++ interface ++ "` is an interface, not an entity"
  | .unknownEntity name => "unknown entity `" ++ name ++ "`"
  | .noField entity field => "`" ++ entity ++ "` has no field `" ++ field ++ "`"
  | .noReference field entity target =>
    "field `" ++ field ++ "` of `" ++ entity ++ "` does not reference `" ++ target ++ "`"

/-- A store name that is taken. -/
inductive NameClash where
  | table (name : String)
  | enum (name : String)
  | column (owner name : String)
  deriving DecidableEq, Repr

def NameClash.text : NameClash → String
  | .table name => "table name `" ++ name ++ "`"
  | .enum name => "enum name `" ++ name ++ "`"
  | .column owner name => "column name `" ++ owner ++ "." ++ name ++ "`"

inductive SchemaError where
  | unreadable (cause : ParseError)
  | badDirective (location : Location) (cause : DirectiveError)
  | missingId (entity : String)
  | unknownType (entity field type : String)
  | unresolved (location : Location) (reason : Unresolved)
  | duplicateName (clash : NameClash)
  deriving DecidableEq, Repr

namespace SchemaError

def message : SchemaError → String
  | .unreadable cause => "Syntax error: " ++ cause.message
  | .badDirective location cause =>
    "Invalid directive on `" ++ location.text ++ "`: " ++ cause.message
  | .missingId entity => "Entity `" ++ entity ++ "` has no `" ++ idField ++ "` field"
  | .unknownType entity field type =>
    "Unknown type `" ++ type ++ "` for field `" ++ entity ++ "." ++ field ++ "`"
  | .unresolved location reason =>
    "Unresolved relation at `" ++ location.text ++ "`: " ++ reason.text
  | .duplicateName clash => "Duplicate " ++ clash.text

/-- The messages of what lies behind an error, the nearest first. -/
def causes : SchemaError → List String
  | .unreadable cause => cause.message :: cause.causes
  | .badDirective _ cause => [cause.message]
  | _ => []

/-- The broad sorts of errors. -/
inductive Category where
  | malformed | unknownType | unresolved | duplicateName
  deriving DecidableEq, Repr

def category : SchemaError → Category
  | .unreadable _ => .malformed
  | .badDirective _ _ => .malformed
  | .missingId _ => .malformed
  | .unknownType _ _ _ => .unknownType
  | .unresolved _ _ => .unresolved
  | .duplicateName _ => .duplicateName

end SchemaError

end EntityLayout
