import EntityLayout.Schema.Catalog

/-!
# What a document declares

The meaning of the directives of a document, read off them without any check: an argument is looked up
by its name, and one that is missing or of another shape reads as `false`, the empty text or the empty
list. Nothing here decides whether a document is in order; for one that is, these are the meanings that
the readers of directives arrive at.
-/
namespace EntityLayout

namespace Value

/-- The text of a string or of a bare word. -/
def text : Value → String
  | .str text => text
  | .enum member => member
  | _ => ""

def isTrue : Value → Bool
  | .bool value => value
  | _ => false

def items : Value → List Value
  | .list items => items
  | _ => []

def entries : Value → List Argument
  | .object entries => entries
  | _ => []

end Value

/-- The value under a name, among the arguments of a directive or the entries of an object. -/
def valueUnder? (arguments : List Argument) (name : String) : Option Value :=
  (arguments.find? (·.name == name)).map (·.value)

def textUnder (arguments : List Argument) (name : String) : String :=
  ((valueUnder? arguments name).map Value.text).getD ""

def trueUnder (arguments : List Argument) (name : String) : Bool :=
  (valueUnder? arguments name).any Value.isTrue

def itemsUnder (arguments : List Argument) (name : String) : List Value :=
  ((valueUnder? arguments name).map Value.items).getD []

/-- Whether the directive has the name of a known one. -/
def Directive.is (directive : Directive) (known : KnownDirective) : Bool :=
  directive.name == known.name

/-- The entity that an entry of a text search's `include` names, with its fields. -/
def SearchInclude.declared (item : Value) : SearchInclude where
  entity := textUnder item.entries "entity"
  fields := (itemsUnder item.entries "fields").map fun field => textUnder field.entries "name"

def TextSearch.declared (directive : Directive) : TextSearch where
  name := textUnder directive.arguments "name"
  language := textUnder directive.arguments "language"
  algorithm := textUnder directive.arguments "algorithm"
  includes := (itemsUnder directive.arguments "include").map SearchInclude.declared

/-- A flag is set when an entity directive sets it. -/
def EntityOptions.declared (directives : List Directive) : EntityOptions where
  immutable := directives.any fun directive =>
    directive.is .entity && trueUnder directive.arguments "immutable"
  timeseries := directives.any fun directive =>
    directive.is .entity && trueUnder directive.arguments "timeseries"

/-- What the directives of a type declare. -/
def TypeDirectives.declared (directives : List Directive) : TypeDirectives where
  entity := if directives.any (·.is .entity) then some (.declared directives) else none
  searches := (directives.filter (·.is .fulltext)).map .declared

namespace Field

/-- The field of another entity that a derived field names. -/
def derivedFrom? (field : Field) : Option String :=
  (field.directives.find? (·.is .derivedFrom)).map (textUnder ·.arguments "field")

def isDerived (field : Field) : Bool :=
  field.derivedFrom?.isSome

def backField (field : Field) : String :=
  field.derivedFrom?.getD ""

end Field

namespace ObjectType

def options (type : ObjectType) : EntityOptions :=
  .declared type.directives

/-- The text searches that the directives of the type declare. -/
def searches (type : ObjectType) : List TextSearch :=
  (TypeDirectives.declared type.directives).searches

/-- The fields that get a column. -/
def storedFields (type : ObjectType) : List Field :=
  type.fields.filter (!·.isDerived)

/-- The fields that get a relation. -/
def derivedFields (type : ObjectType) : List Field :=
  type.fields.filter (·.isDerived)

def table (type : ObjectType) : String :=
  storeName type.name

/-- The entity that the type declares. -/
def entity (type : ObjectType) : Entity where
  name := type.name
  table := type.table
  options := type.options
  implements := type.implements
  fields := type.fields.map fun field => ⟨field, field.derivedFrom?⟩

@[simp]
theorem storedFields_entity (type : ObjectType) : type.entity.storedFields = type.storedFields := by
  simp only [Entity.storedFields, entity, storedFields, List.filterMap_map]
  rw [← List.filterMap_eq_filter]
  congr 1
  funext field
  cases derived : field.derivedFrom? <;> simp [Field.isDerived, Option.guard, derived]

/-- The derived fields of an entity come with the names of the fields that they are derived from. -/
@[simp]
theorem derivedFields_entity (type : ObjectType) :
    type.entity.derivedFields = type.derivedFields.map fun field => (field, field.backField) := by
  simp only [Entity.derivedFields, entity, derivedFields, List.filterMap_map]
  rw [← List.filterMap_eq_filter, List.map_filterMap]
  congr 1
  funext field
  cases derived : field.derivedFrom? <;>
    simp [Field.isDerived, Field.backField, Option.guard, derived]

end ObjectType

namespace Document

/-- The object types that are stored, in their order. -/
def entityTypes (document : Document) : List ObjectType :=
  document.objects.filter (·.isEntity)

/-- The text searches of the schema, in the order of its types and of their directives. -/
def searches (document : Document) : List TextSearch :=
  (document.objects.filter (·.name == schemaType)).flatMap (·.searches)

/-- Each entity that a text search includes, with the search. -/
def searchIncludes (document : Document) : List (TextSearch × SearchInclude) :=
  document.searches.flatMap fun search => search.includes.map (search, ·)

/-- The tables of the entities that implement an interface, in their order. -/
def implementors (document : Document) (interface : String) : List String :=
  (document.entityTypes.filter (·.implements.contains interface)).map (·.table)

/-- The catalog that the document declares. -/
def catalog (document : Document) : Catalog where
  entities := document.entityTypes.map (·.entity)
  searches := document.searches
  enums := document.enums.map fun type => (storeName type.name, type.values)

/-- The names of a document that field types can use. The last of several declarations stands in front. -/
def registry (document : Document) : Registry where
  enums := (document.enums.map (·.name)).reverse
  entities := (document.entityTypes.map (·.name)).reverse
  interfaces := (document.interfaces.map fun type => (type.name, document.implementors type.name)).reverse

end Document

end EntityLayout
