import EntityLayout.Schema.Catalog

/-!
# Building layouts

The layout of a schema. Every entity first gets a table with a column for each stored field. Derived
fields and text searches are then checked against these tables, and only when all of them are in order
are their relations and columns added.
-/
namespace EntityLayout

def Table.addColumn (table : Table) (column : Column) : Except SchemaError Table :=
  match table.addColumn? column with
  | some table => .ok table
  | none => .error (.duplicateName (.column table.name column.name))

namespace Entity

def typeError (entity : Entity) (field : Field) : ResolveError → SchemaError
  | .unknown type => .unknownType entity.name field.name type
  | .noImplementors interface =>
    .unresolved (.field entity.name field.name) (.noImplementors interface)

/-- The identifier is stored as text, whatever type it is declared with. -/
def columnType (registry : Registry) (entity : Entity) (field : Field) :
    Except SchemaError ColumnType :=
  if field.name = idField then .ok (.scalar .text)
  else (registry.resolve field.type).mapError (entity.typeError field)

def addField (registry : Registry) (entity : Entity) (table : Table) (field : Field) :
    Except SchemaError Table := do
  let type ← entity.columnType registry field
  table.addColumn ⟨storeName field.name, type, !field.type.isRequired, false⟩

def toTable (registry : Registry) (entity : Entity) : Except SchemaError Table :=
  if entity.fields.any (·.field.name == idField) then
    entity.storedFields.foldlM (entity.addField registry)
      (.empty entity.table entity.options.immutable entity.options.timeseries)
  else .error (.missingId entity.name)

end Entity

def findTable? (tables : List Table) (name : String) : Option Table :=
  tables.find? (·.name == name)

/-- Something to add to a finished table. -/
inductive Addition where
  | relation (owner start : String) (added : Relation)
  | column (owner : String) (added : Column)
  deriving DecidableEq, Repr

/-- The table whose rows a derived field of the declared type lists. -/
def relationTarget (registry : Registry) (tables : List Table) (location : Location)
    (type : String) : Except SchemaError Table :=
  match (registry.entityTable? type).bind (findTable? tables) with
  | some table => .ok table
  | none =>
    if registry.isInterface type then .error (.unresolved location (.notAnEntity type))
    else .error (.unresolved location (.unknownEntity type))

/-- The relation of a derived field. The entity that it lists must have the field it is derived from,
and that field must refer back to the deriving entity. -/
def relationOf (registry : Registry) (tables : List Table) (entity : Entity) (field : Field)
    (backField : String) : Except SchemaError Addition := do
  let location := Location.field entity.name field.name
  let targetType := field.type.baseName
  let target ← relationTarget registry tables location targetType
  let backColumn := storeName backField
  match target.column? backColumn with
  | none => throw (.unresolved location (.noField targetType backField))
  | some column =>
    match column.type.reference?.filter (·.1.contains entity.table) with
    | none => throw (.unresolved location (.noReference backField targetType entity.name))
    | some (_, start) =>
      let kind := if field.type.isList then RelationKind.many else .one
      return .relation entity.table start ⟨storeName field.name, target.name, backColumn, kind⟩

/-- The store name of a field that a text search includes. -/
def searchedColumn (search : TextSearch) (entity : String) (table : Table) (field : String) :
    Except SchemaError String :=
  let column := storeName field
  if (table.column? column).isSome then .ok column
  else .error (.unresolved (.search search.name) (.noField entity field))

/-- The column of a text search in one of the tables that it includes. -/
def searchColumn (tables : List Table) (search : TextSearch) (included : SearchInclude) :
    Except SchemaError Addition :=
  match findTable? tables (storeName included.entity) with
  | none => .error (.unresolved (.search search.name) (.unknownEntity included.entity))
  | some table => do
    let columns ← included.fields.mapM (searchedColumn search included.entity table)
    return .column table.name ⟨storeName search.name,
      .textSearch .tsvector search.language search.algorithm columns, true, false⟩

/-- Changes the table of a name. -/
def updateTable (tables : List Table) (name : String) (change : Table → Except SchemaError Table) :
    Except SchemaError (List Table) :=
  tables.mapM fun table => if table.name = name then change table else .ok table

def Addition.apply (tables : List Table) : Addition → Except SchemaError (List Table)
  | .relation owner start added => updateTable tables owner (.ok <| ·.addRelation start added)
  | .column owner added => updateTable tables owner (·.addColumn added)

def Catalog.additions (catalog : Catalog) (registry : Registry) (tables : List Table) :
    Except SchemaError (List Addition) := do
  let relations ← catalog.entities.mapM fun entity =>
    entity.derivedFields.mapM fun (field, backField) =>
      relationOf registry tables entity field backField
  let searches ← catalog.searches.mapM fun search =>
    search.includes.mapM (searchColumn tables search)
  return relations.flatten ++ searches.flatten

namespace Layout

/-- The layout of a document, or the first reason why it has none. -/
def ofDocument (document : Document) : Except SchemaError Layout := do
  let catalog ← Catalog.ofDocument document
  let registry := Registry.ofDocument document catalog
  let tables ← catalog.entities.mapM (·.toTable registry)
  let additions ← catalog.additions registry tables
  return ⟨← additions.foldlM Addition.apply tables, catalog.enums⟩

/-- The layout of a schema text. -/
def ofSource (source : String) : Except SchemaError Layout := do
  ofDocument (← (Document.parse source).mapError .unreadable)

end Layout

end EntityLayout
