import EntityLayout.Proofs.FirstViolation
import EntityLayout.Proofs.Layout.Declared

/-!
# Violations

Everything that is wrong with a document, in the order in which it is reported: `Document.violations`.
Each violation is looked for by itself. One that presupposes that something else is in order, such as
the column that a relation leads back to, is only meaningful when nothing stands in front of it.
-/
namespace EntityLayout

namespace Field

/-- What is wrong with the directives of a field of the named type. -/
def directiveViolations (owner : String) (field : Field) : List SchemaError :=
  (errorOf (fieldDirectives field.directives)).map (.badDirective (.field owner field.name))

end Field

namespace ObjectType

def directiveViolations (type : ObjectType) : List SchemaError :=
  (errorOf (typeDirectives type.directives)).map (.badDirective (.type type.name))

/-- A text search may only stand on the type that carries the directives of the whole schema. -/
def misplacedSearch (type : ObjectType) : List SchemaError :=
  if type.name ≠ schemaType ∧ type.directives.any (·.is .fulltext) then
    [.badDirective (.type type.name) (.misplaced .fulltext .onOrdinaryType)]
  else []

/-- No two entities may have the same table name. -/
def repeatedTable (earlier : List ObjectType) (type : ObjectType) : List SchemaError :=
  if type.table ∈ (earlier.filter (·.isEntity)).map (·.table) then
    [.duplicateName (.table type.table)]
  else []

/-- What is wrong with an object type behind others. Types without meaning for storage are not
looked at, and the fields of an entity only matter because it is one. -/
def violations (earlier : List ObjectType) (type : ObjectType) : List SchemaError :=
  if type.isStored then
    type.directiveViolations ++ type.misplacedSearch ++
      if type.isEntity then
        type.fields.flatMap (Field.directiveViolations type.name) ++ repeatedTable earlier type
      else []
  else []

end ObjectType

/-- No two enums may have the same store name. -/
def EnumType.repeatedName (earlier : List EnumType) (type : EnumType) : List SchemaError :=
  if storeName type.name ∈ earlier.map (storeName ·.name) then
    [.duplicateName (.enum (storeName type.name))]
  else []

namespace ObjectType

def missingId (type : ObjectType) : List SchemaError :=
  if type.fields.any (·.name == idField) then [] else [.missingId type.name]

/-- The violation that a type which does not resolve is in a field. -/
def unresolvedType (type : ObjectType) (field : Field) : ResolveError → SchemaError
  | .unknown name => .unknownType type.name field.name name
  | .noImplementors interface =>
    .unresolved (.field type.name field.name) (.noImplementors interface)

/-- No two columns may have the same name, and none the name of those that every table has. -/
def repeatedColumn (type : ObjectType) (earlier : List Field) (field : Field) : List SchemaError :=
  if storeName field.name ∈ [vidColumn, blockRangeColumn] ++ earlier.map (storeName ·.name) then
    [.duplicateName (.column type.table (storeName field.name))]
  else []

end ObjectType

namespace Document

/-- What is wrong with a stored field behind others of its entity. -/
def fieldViolations (document : Document) (type : ObjectType) (earlier : List Field) (field : Field) :
    List SchemaError :=
  (errorOf (document.fieldType field)).map (type.unresolvedType field) ++
    type.repeatedColumn earlier field

def tableViolations (document : Document) (type : ObjectType) : List SchemaError :=
  type.missingId ++ withEarlier (document.fieldViolations type) [] type.storedFields

/-- The entity of a declared name. -/
def entity? (document : Document) (name : String) : Option ObjectType :=
  document.entityTypes.find? (·.name == name)

def isInterface (document : Document) (name : String) : Bool :=
  document.interfaces.any (·.name == name)

end Document

/-- Whether a type refers to the table, itself or as a list of references. -/
def ColumnType.refersTo (table : String) : ColumnType → Bool
  | .reference tables _ _ => tables.contains table
  | .list (.reference tables _ _) => tables.contains table
  | _ => false

namespace Document

/-- What is wrong with a derived field: the type that it lists is no entity, or that entity does not
have the column that it is derived from, or this column does not refer back. -/
def relationViolations (document : Document) (type : ObjectType) (field : Field) : List SchemaError :=
  let location := Location.field type.name field.name
  let target := field.type.baseName
  match document.entity? target with
  | none =>
    if document.isInterface target then [.unresolved location (.notAnEntity target)]
    else [.unresolved location (.unknownEntity target)]
  | some listed =>
    match (document.entityColumns listed).find? (·.name == storeName field.backField) with
    | none => [.unresolved location (.noField target field.backField)]
    | some column =>
      if column.type.refersTo type.table then []
      else [.unresolved location (.noReference field.backField target type.name)]

/-- The entity that is stored in the table of the name. -/
def storedIn? (document : Document) (table : String) : Option ObjectType :=
  document.entityTypes.find? (·.table == table)

/-- What is wrong with an entity that a text search includes: there is none, or it does not have the
columns. -/
def includeViolations (document : Document) (search : TextSearch) (included : SearchInclude) :
    List SchemaError :=
  let location := Location.search search.name
  match document.storedIn? included.table with
  | none => [.unresolved location (.unknownEntity included.entity)]
  | some type => included.fields.flatMap fun field =>
    if storeName field ∈ (document.entityColumns type).map (·.name) then []
    else [.unresolved location (.noField included.entity field)]

/-- The column of a text search may not have the name of one that its table has already. -/
def repeatedSearch (document : Document) (earlier : List (TextSearch × SearchInclude))
    (item : TextSearch × SearchInclude) : List SchemaError :=
  let (search, included) := item
  match document.storedIn? included.table with
  | none => []
  | some type =>
    let columns := document.entityColumns type ++ searchColumns earlier included.table
    if storeName search.name ∈ columns.map (·.name) then
      [.duplicateName (.column included.table (storeName search.name))]
    else []

/-- What is wrong with the object types and the enums, each for itself and among their like. -/
def declarationViolations (document : Document) : List SchemaError :=
  withEarlier ObjectType.violations [] document.objects ++
    withEarlier EnumType.repeatedName [] document.enums

/-- What is wrong with the derived fields and with the entities that text searches include. -/
def linkViolations (document : Document) : List SchemaError :=
  document.entityTypes.flatMap (fun type =>
      type.derivedFields.flatMap (document.relationViolations type)) ++
    document.searchIncludes.flatMap fun (search, included) => document.includeViolations search included

/-- All violations of a document: those of its declarations, then of the stored fields of its entities,
then of what links the tables, and at last the columns of text searches that clash. -/
def violations (document : Document) : List SchemaError :=
  document.declarationViolations ++ (document.entityTypes.flatMap document.tableViolations ++
    (document.linkViolations ++ withEarlier document.repeatedSearch [] document.searchIncludes))

end Document

end EntityLayout
