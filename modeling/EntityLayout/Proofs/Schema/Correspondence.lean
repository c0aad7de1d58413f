import EntityLayout.Proofs.Matching
import EntityLayout.Proofs.Schema.Collecting

/-!
# Corresponding documents

Two documents correspond when everything that a layout can depend on is the same in both. Of the names of
fields, and of those in text searches, only a key has to be the same: the names themselves for
`NameKey.exact`, or their store names for `NameKey.stored`. Corresponding documents declare corresponding
entities and searches, and the names of types stand for the same things in both (`registry`).
-/
namespace EntityLayout
open List (Forall₂)

/-- What counts about a name: enough to determine its store name. -/
structure NameKey where
  of : String → String
  storeName_eq {name other : String} : of name = of other → storeName name = storeName other

namespace NameKey

def exact : NameKey := ⟨id, congrArg storeName⟩

def stored : NameKey := ⟨storeName, id⟩

variable (key : NameKey)

def ofLocation : Location → Location
  | .type name => .type name
  | .field owner name => .field owner (key.of name)
  | .search name => .search (key.of name)

def ofUnresolved : Unresolved → Unresolved
  | .noImplementors interface => .noImplementors interface
  | .notAnEntity interface => .notAnEntity interface
  | .unknownEntity name => .unknownEntity (key.of name)
  | .noField entity field => .noField (key.of entity) (key.of field)
  | .noReference field entity target => .noReference (key.of field) entity target

/-- The error with keys in place of names. Those of a clash are store names already. -/
def ofError : SchemaError → SchemaError
  | .badDirective location cause => .badDirective (key.ofLocation location) cause
  | .unknownType entity field type => .unknownType entity (key.of field) type
  | .unresolved location reason => .unresolved (key.ofLocation location) (key.ofUnresolved reason)
  | .unreadable cause => .unreadable cause
  | .missingId entity => .missingId entity
  | .duplicateName clash => .duplicateName clash

def SameError (cause other : SchemaError) : Prop :=
  key.ofError cause = key.ofError other

/-- With the names themselves as keys, errors that are the same up to the key are equal. -/
theorem ofError_exact (cause : SchemaError) : exact.ofError cause = cause := by
  cases cause with
  | badDirective location _ => cases location <;> rfl
  | unresolved location reason => cases location <;> cases reason <;> rfl
  | _ => rfl

end NameKey

variable (key : NameKey)

structure SearchInclude.Corresponds (included other : SearchInclude) : Prop where
  entity : key.of included.entity = key.of other.entity
  fields : included.fields.map key.of = other.fields.map key.of

structure TextSearch.Corresponds (search other : TextSearch) : Prop where
  name : key.of search.name = key.of other.name
  language : search.language = other.language
  algorithm : search.algorithm = other.algorithm
  includes : Forall₂ (SearchInclude.Corresponds key) search.includes other.includes

/-- What a layout says about a declared type: what it resolves to, and whether it is required or a list. -/
structure TypeRef.Corresponds (type other : TypeRef) : Prop where
  resolve : ∀ registry : Registry, registry.resolve type = registry.resolve other
  baseName : type.baseName = other.baseName
  isRequired : type.isRequired = other.isRequired
  isList : type.isList = other.isList

structure Field.Corresponds (field other : Field) : Prop where
  name : key.of field.name = key.of other.name
  identifier : field.name = idField ↔ other.name = idField
  type : field.type.Corresponds other.type
  directives : errorOf (fieldDirectives field.directives) = errorOf (fieldDirectives other.directives)
  derivedFrom : field.derivedFrom?.map key.of = other.derivedFrom?.map key.of

/-- The fields of a type only matter if it is an entity. -/
structure ObjectType.Corresponds (type other : ObjectType) : Prop where
  name : type.name = other.name
  implements : type.implements = other.implements
  isEntity : type.isEntity = other.isEntity
  options : type.options = other.options
  directives : errorOf (typeDirectives type.directives) = errorOf (typeDirectives other.directives)
  searches : Forall₂ (TextSearch.Corresponds key) type.searches other.searches
  fields : type.isEntity = true → Forall₂ (Field.Corresponds key) type.fields other.fields

/-- Only the object types that are stored, the members of enums, and the names of interfaces matter. -/
structure Document.Corresponds (document other : Document) : Prop where
  objects : Forall₂ (ObjectType.Corresponds key)
    (document.objects.filter (·.isStored)) (other.objects.filter (·.isStored))
  enums : document.enums.map (fun type => (type.name, type.values)) =
    other.enums.map (fun type => (type.name, type.values))
  interfaces : document.interfaces.map (·.name) = other.interfaces.map (·.name)

variable {key}

namespace Field.Corresponds

variable {field other : Field} (related : field.Corresponds key other)
include related

theorem isDerived : field.isDerived = other.isDerived := by
  have same := congrArg Option.isSome related.derivedFrom
  rwa [Option.isSome_map, Option.isSome_map] at same

theorem backField : key.of field.backField = key.of other.backField := by
  have same := congrArg (Option.getD · (key.of "")) related.derivedFrom
  rwa [Option.getD_map, Option.getD_map] at same

/-- The names in a relation are store names, which a key of the names fixes. -/
theorem relation : field.relation = other.relation := by
  simp only [Field.relation, key.storeName_eq related.name, key.storeName_eq related.backField,
    related.type.baseName, related.type.isList]

theorem directiveViolations (owner : String) :
    Forall₂ key.SameError (field.directiveViolations owner) (other.directiveViolations owner) := by
  unfold Field.directiveViolations
  rw [related.directives, List.forall₂_map_left_iff, List.forall₂_map_right_iff, List.forall₂_same]
  intro cause _
  simp only [NameKey.SameError, NameKey.ofError, NameKey.ofLocation, related.name]

end Field.Corresponds

namespace ObjectType.Corresponds

variable {type other : ObjectType} (related : type.Corresponds key other)
include related

theorem table : type.table = other.table :=
  congrArg storeName related.name

theorem storedFields (entity : type.isEntity = true) :
    Forall₂ (Field.Corresponds key) type.storedFields other.storedFields :=
  filter_forall₂ (fun _ _ same => congrArg not same.isDerived) (related.fields entity)

theorem derivedFields (entity : type.isEntity = true) :
    Forall₂ (Field.Corresponds key) type.derivedFields other.derivedFields :=
  filter_forall₂ (fun _ _ same => same.isDerived) (related.fields entity)

/-- A table has the same relations on both sides, in the same order. -/
theorem relations (entity : type.isEntity = true) : type.relations = other.relations := by
  have same : type.derivedFields.map Field.relation = other.derivedFields.map Field.relation :=
    map_eq_of_forall₂ (fun _ _ same => same.relation) (related.derivedFields entity)
  rw [ObjectType.relations, ObjectType.relations, same]

theorem isStored : type.isStored = other.isStored := by
  simp only [ObjectType.isStored, related.isEntity, related.name]

theorem misplacedSearch : type.misplacedSearch = other.misplacedSearch := by
  have searched : type.directives.any (·.is .fulltext) = other.directives.any (·.is .fulltext) := by
    have same : type.searches = [] ↔ other.searches = [] := by
      rw [← List.length_eq_zero_iff, related.searches.length_eq, List.length_eq_zero_iff]
    rw [searches_eq_nil_iff, searches_eq_nil_iff, not_iff_not] at same
    exact Bool.eq_iff_iff.mpr same
  simp only [ObjectType.misplacedSearch, related.name, searched]

end ObjectType.Corresponds

/-- A search and an entity that it includes, against those of the other document. -/
def IncludesCorrespond (key : NameKey) (item other : TextSearch × SearchInclude) : Prop :=
  item.1.Corresponds key other.1 ∧ item.2.Corresponds key other.2

theorem SearchInclude.Corresponds.table {included other : SearchInclude}
    (related : included.Corresponds key other) : included.table = other.table :=
  key.storeName_eq related.entity

/-- The column of a search holds store names only, so corresponding searches have the same one. -/
theorem TextSearch.Corresponds.column {search other : TextSearch} {included included' : SearchInclude}
    (related : search.Corresponds key other) (listed : included.Corresponds key included') :
    search.column included = other.column included' := by
  have fields : included.fields.map storeName = included'.fields.map storeName :=
    map_eq_of_forall₂ (fun _ _ same => key.storeName_eq same) (forall₂_of_map_eq listed.fields)
  simp only [TextSearch.column, key.storeName_eq related.name, related.language, related.algorithm, fields]

/-- The searches that include an entity add the same columns to its table on both sides. -/
theorem searchColumns_corresponds {includes others : List (TextSearch × SearchInclude)}
    (related : Forall₂ (IncludesCorrespond key) includes others) (table : String) :
    searchColumns includes table = searchColumns others table := by
  refine map_eq_of_forall₂ (fun _ _ same => same.1.column same.2) (filter_forall₂ ?_ related)
  intro item partner same
  rw [same.2.table]

/-- Object types that are not stored may be left out before those are chosen that are. -/
theorem filter_isStored {chosen : ObjectType → Bool}
    (stored : ∀ type : ObjectType, chosen type = true → type.isStored = true) (types : List ObjectType) :
    (types.filter (·.isStored)).filter chosen = types.filter chosen := by
  rw [List.filter_filter]
  refine List.filter_congr fun type _ => ?_
  cases given : chosen type with
  | true => rw [stored type given, Bool.and_self]
  | false => rw [Bool.false_and]

theorem ObjectType.isStored_of_isEntity (type : ObjectType) (entity : type.isEntity = true) :
    type.isStored = true := by
  rw [isStored, entity, Bool.true_or]

theorem ObjectType.isStored_of_schema (type : ObjectType) (schema : (type.name == schemaType) = true) :
    type.isStored = true := by
  rw [isStored, schema, Bool.or_true]

namespace Document.Corresponds

variable {document other : Document} (related : document.Corresponds key other)
include related

theorem enumNames : Forall₂ (fun type partner => type.name = partner.name) document.enums other.enums := by
  have names := congrArg (List.map Prod.fst) related.enums
  rw [List.map_map, List.map_map] at names
  exact forall₂_of_map_eq names

/-- The entities correspond, and as they are entities their fields do. -/
theorem entityTypes : Forall₂ (fun type partner => type.isEntity = true ∧ type.Corresponds key partner)
    document.entityTypes other.entityTypes := by
  have matched : Forall₂ (ObjectType.Corresponds key) document.entityTypes other.entityTypes := by
    have entities := filter_forall₂ (fun _ _ same => same.isEntity) related.objects
    rwa [filter_isStored ObjectType.isStored_of_isEntity,
      filter_isStored ObjectType.isStored_of_isEntity] at entities
  exact (List.forall₂_and_left _ _).mpr ⟨fun type member => (List.mem_filter.mp member).2, matched⟩

/-- Under a name either both documents have an entity, the two of them corresponding, or neither has one. -/
theorem entity? (name : String) :
    (document.entity? name = none ∧ other.entity? name = none) ∨
      ∃ type partner, document.entity? name = some type ∧ other.entity? name = some partner ∧
        type.isEntity = true ∧ type.Corresponds key partner :=
  find?_forall₂ (fun _ _ same => by rw [same.2.name]) related.entityTypes

/-- The same for the names of tables. -/
theorem storedIn? (table : String) :
    (document.storedIn? table = none ∧ other.storedIn? table = none) ∨
      ∃ type partner, document.storedIn? table = some type ∧ other.storedIn? table = some partner ∧
        type.isEntity = true ∧ type.Corresponds key partner :=
  find?_forall₂ (fun _ _ same => by rw [same.2.table]) related.entityTypes

/-- An interface is implemented by the same tables, in the same order. -/
theorem implementors (interface : String) : document.implementors interface = other.implementors interface := by
  refine map_eq_of_forall₂ (fun _ _ same => same.2.table) (filter_forall₂ ?_ related.entityTypes)
  intro type partner same
  rw [same.2.implements]

/-- What types can name is the same on both sides, so that all types resolve alike. -/
theorem registry : document.registry = other.registry := by
  have enums : document.enums.map (·.name) = other.enums.map (·.name) :=
    map_eq_of_forall₂ (fun _ _ same => same) related.enumNames
  have entities : document.entityTypes.map (·.name) = other.entityTypes.map (·.name) :=
    map_eq_of_forall₂ (fun _ _ same => same.2.name) related.entityTypes
  have interfaces : document.interfaces.map (fun type => (type.name, document.implementors type.name)) =
      other.interfaces.map (fun type => (type.name, other.implementors type.name)) := by
    refine map_eq_of_forall₂ (fun interface partner same => ?_) (forall₂_of_map_eq related.interfaces)
    rw [same, related.implementors]
  simp only [Document.registry, enums, entities, interfaces]

theorem isInterface (name : String) : document.isInterface name = other.isInterface name := by
  have declared (document : Document) :
      document.isInterface name = (document.interfaces.map (·.name)).any (· == name) := by
    rw [List.any_map]
    rfl
  rw [declared, declared, related.interfaces]

theorem searches : Forall₂ (TextSearch.Corresponds key) document.searches other.searches := by
  have carriers := filter_forall₂ (p := (·.name == schemaType)) (q := (·.name == schemaType))
    (fun _ _ same => by rw [same.name]) related.objects
  rw [filter_isStored ObjectType.isStored_of_schema, filter_isStored ObjectType.isStored_of_schema] at carriers
  exact List.rel_flatMap carriers fun _ _ same => same.searches

theorem searchIncludes : Forall₂ (IncludesCorrespond key) document.searchIncludes other.searchIncludes := by
  refine List.rel_flatMap related.searches fun search partner same => ?_
  exact List.rel_map (fun _ _ included => ⟨same, included⟩) same.includes

end Document.Corresponds

end EntityLayout
