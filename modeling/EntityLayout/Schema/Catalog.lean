import EntityLayout.Schema.Error
import EntityLayout.Schema.Registry

/-!
# Catalogs

What a document declares for storage: its entities with the meaning of their directives, its enums and
text searches, and the names that field types can use. Object types that are no entities are passed
over, apart from the one that carries the directives of the whole schema.
-/
namespace EntityLayout

/-- The type whose directives belong to the whole schema. -/
def schemaType : String := "_Schema_"

/-- A field of an entity. A derived one is not stored: it lists the entities whose field
`derivedFrom` refers back. -/
structure EntityField where
  field : Field
  derivedFrom : Option String

structure Entity where
  name : String
  table : String
  options : EntityOptions
  implements : List String
  fields : List EntityField

namespace Entity

/-- The fields that get a column. -/
def storedFields (entity : Entity) : List Field :=
  entity.fields.filterMap fun field =>
    if field.derivedFrom.isNone then some field.field else none

/-- The fields that get a relation, with the fields of the other entities that they start from. -/
def derivedFields (entity : Entity) : List (Field × String) :=
  entity.fields.filterMap fun field => field.derivedFrom.map (field.field, ·)

end Entity

structure Catalog where
  entities : List Entity
  searches : List TextSearch
  enums : List (String × List String)

namespace ObjectType

def isEntity (type : ObjectType) : Bool :=
  type.directives.any (·.name == KnownDirective.entity.name)

/-- Only an entity and the schema's own type say something about the layout. -/
def isStored (type : ObjectType) : Bool :=
  type.isEntity || type.name == schemaType

/-- The directives of a type. Text searches belong to the whole schema. -/
def readDirectives (type : ObjectType) : Except SchemaError TypeDirectives := do
  let directives ← (typeDirectives type.directives).mapError (.badDirective (.type type.name))
  if type.name = schemaType ∨ directives.searches = [] then return directives
  else throw (.badDirective (.type type.name) (.misplaced .fulltext .onOrdinaryType))

def readField (type : ObjectType) (field : Field) : Except SchemaError EntityField := do
  let derivedFrom ← (fieldDirectives field.directives).mapError
    (.badDirective (.field type.name field.name))
  return ⟨field, derivedFrom⟩

/-- The entity of an object type, given the table names that are taken. -/
def toEntity (type : ObjectType) (options : EntityOptions) (taken : List String) :
    Except SchemaError Entity := do
  let fields ← type.fields.mapM type.readField
  let table := storeName type.name
  if table ∈ taken then throw (.duplicateName (.table table))
  else return ⟨type.name, table, options, type.implements, fields⟩

end ObjectType

namespace Catalog

def addObject (catalog : Catalog) (type : ObjectType) : Except SchemaError Catalog :=
  if type.isStored then do
    let directives ← type.readDirectives
    let searches := catalog.searches ++ directives.searches
    match directives.entity with
    | none => return { catalog with searches := searches }
    | some options => do
      let entity ← type.toEntity options (catalog.entities.map (·.table))
      return { catalog with searches := searches, entities := catalog.entities ++ [entity] }
  else .ok catalog

def addEnum (catalog : Catalog) (type : EnumType) : Except SchemaError Catalog :=
  let name := storeName type.name
  if name ∈ catalog.enums.map (·.1) then .error (.duplicateName (.enum name))
  else .ok { catalog with enums := catalog.enums ++ [(name, type.values)] }

/-- The objects of a document come first, and then its enums. -/
def ofDocument (document : Document) : Except SchemaError Catalog := do
  let catalog ← document.objects.foldlM addObject ⟨[], [], []⟩
  document.enums.foldlM addEnum catalog

/-- The tables of the entities that implement an interface. -/
def implementors (catalog : Catalog) (interface : String) : List String :=
  (catalog.entities.filter (·.implements.contains interface)).map (·.table)

end Catalog

/-- The names of a document with the given catalog. -/
def Registry.ofDocument (document : Document) (catalog : Catalog) : Registry :=
  let registry := (document.enums.map (·.name)).foldl addEnum
    ((catalog.entities.map (·.name)).foldl addEntity empty)
  (document.interfaces.map (·.name)).foldl
    (fun registry name => registry.addInterface name (catalog.implementors name)) registry

end EntityLayout
