import EntityLayout.Layout.Build
import EntityLayout.Proofs.Schema.Declared

/-!
# The layout that a document declares

The tables, columns and relations of a document, each said for itself: nothing is added to a table that
was made before. As with the directives, nothing here decides whether the document is in order.
-/
namespace EntityLayout

namespace Document

/-- The type that a stored field resolves to. The identifier is text, however it is declared. -/
def fieldType (document : Document) (field : Field) : Except ResolveError ColumnType :=
  if field.name = idField then .ok (.scalar .text) else document.registry.resolve field.type

/-- The column of a stored field. Where the type does not resolve, text stands in for it. -/
def fieldColumn (document : Document) (field : Field) : Column where
  name := storeName field.name
  type := (document.fieldType field).toOption.getD (.scalar .text)
  nullable := !field.type.isRequired
  isPrimary := false

/-- The columns of an entity without those of text searches. -/
def entityColumns (document : Document) (type : ObjectType) : List Column :=
  [.vid, .blockRange] ++ type.storedFields.map document.fieldColumn

end Document

/-- The table that a text search puts its column into. -/
def SearchInclude.table (included : SearchInclude) : String :=
  storeName included.entity

/-- The column of a text search in the table of an included entity. -/
def TextSearch.column (search : TextSearch) (included : SearchInclude) : Column where
  name := storeName search.name
  type := .textSearch .tsvector search.language search.algorithm (included.fields.map storeName)
  nullable := true
  isPrimary := false

/-- The columns that those of the searches that include the table put into it. -/
def searchColumns (includes : List (TextSearch × SearchInclude)) (table : String) : List Column :=
  (includes.filter (·.2.table == table)).map fun (search, included) => search.column included

/-- The relation of a derived field. -/
def Field.relation (field : Field) : Relation where
  name := storeName field.name
  table := storeName field.type.baseName
  column := storeName field.backField
  kind := if field.type.isList then .many else .one

/-- Relations that all start from the identifier, by their column. -/
def underId (relations : List Relation) : List (String × List Relation) :=
  if relations = [] then [] else [(idField, relations)]

def ObjectType.relations (type : ObjectType) : List (String × List Relation) :=
  underId (type.derivedFields.map Field.relation)

namespace Document

/-- The table of an entity when only its stored fields have been looked at. -/
def bareTable (document : Document) (type : ObjectType) : Table where
  name := type.table
  immutable := type.options.immutable
  timeseries := type.options.timeseries
  columns := document.entityColumns type
  relations := []

/-- The finished table of an entity. -/
def declaredTable (document : Document) (type : ObjectType) : Table where
  name := type.table
  immutable := type.options.immutable
  timeseries := type.options.timeseries
  columns := document.entityColumns type ++ searchColumns document.searchIncludes type.table
  relations := type.relations

def declaredLayout (document : Document) : Layout where
  tables := document.entityTypes.map document.declaredTable
  enums := document.catalog.enums

end Document

end EntityLayout
