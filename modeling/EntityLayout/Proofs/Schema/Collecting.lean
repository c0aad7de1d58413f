import EntityLayout.Proofs.Schema.DirectiveReading
import EntityLayout.Proofs.Violations

/-!
# Collecting the declarations of a document

Collecting goes through the object types and then through the enums. It arrives at the catalog that the
document declares, or stops at the first violation of a type or enum (`catalog_ofDocument`). The names
that field types can use are then those of the document (`Registry.ofDocument_catalog`).
-/
namespace EntityLayout

namespace ObjectType

theorem searches_eq_nil_iff (type : ObjectType) :
    type.searches = [] ↔ ¬type.directives.any (·.is .fulltext) = true := by
  simp [searches, TypeDirectives.declared]

/-- The directives of a type give what they declare, unless one of them cannot be read or a search is out of place. -/
theorem readDirectives_eq (type : ObjectType) :
    type.readDirectives =
      unlessViolated (type.directiveViolations ++ type.misplacedSearch) (.declared type.directives) := by
  unfold readDirectives
  rw [mapError_eq_unlessViolated _ fun _ => typeDirectives_declared]
  apply unlessViolated_bind
  intro _
  have searched := type.searches_eq_nil_iff
  rw [searches] at searched
  unfold misplacedSearch
  by_cases misplaced : type.name ≠ schemaType ∧ type.directives.any (·.is .fulltext)
  · rw [if_neg (by simp [searched, misplaced]), if_pos misplaced]
    rfl
  · have allowed : type.name = schemaType ∨ (TypeDirectives.declared type.directives).searches = [] := by
      by_cases schema : type.name = schemaType
      · exact Or.inl schema
      · exact Or.inr (searched.mpr fun any => misplaced ⟨schema, any⟩)
    rw [if_pos allowed, if_neg misplaced]
    rfl

theorem readField_eq (type : ObjectType) (field : Field) :
    type.readField field =
      unlessViolated (field.directiveViolations type.name) ⟨field, field.derivedFrom?⟩ := by
  unfold readField
  rw [mapError_eq_unlessViolated _ fun _ => fieldDirectives_declared]
  exact unlessViolated_bind_pure _ _ _

/-- An entity is collected with all of its fields, and after these its table name is compared with the earlier ones.
-/
theorem toEntity_eq (type : ObjectType) (earlier : List ObjectType) :
    type.toEntity type.options ((earlier.filter (·.isEntity)).map (·.table)) =
      unlessViolated (type.fields.flatMap (Field.directiveViolations type.name) ++
        repeatedTable earlier type) type.entity := by
  unfold toEntity
  rw [mapM_eq_unlessViolated fun field _ => type.readField_eq field]
  apply unlessViolated_bind
  intro _
  exact ite_eq_unlessViolated

end ObjectType

namespace Catalog

/-- The catalog of the object types alone. -/
def ofObjects (types : List ObjectType) : Catalog where
  entities := (types.filter (·.isEntity)).map (·.entity)
  searches := (types.filter (·.name == schemaType)).flatMap (·.searches)
  enums := []

theorem tables_ofObjects (types : List ObjectType) :
    (ofObjects types).entities.map (·.table) = (types.filter (·.isEntity)).map (·.table) := by
  rw [ofObjects, List.map_map]
  rfl

/-- Where no search is misplaced, the searches of a type are those of the schema. -/
theorem searches_ofObjects {type : ObjectType} (fine : type.misplacedSearch = [])
    (earlier : List ObjectType) :
    (ofObjects (earlier ++ [type])).searches = (ofObjects earlier).searches ++ type.searches := by
  simp only [ofObjects, List.filter_append, List.flatMap_append]
  by_cases schema : type.name = schemaType
  · simp [schema]
  · have none : type.searches = [] := by
      rw [type.searches_eq_nil_iff]
      intro any
      simp [ObjectType.misplacedSearch, schema, any] at fine
    simp [schema, none]

/-- The catalog of one more type, by its parts. -/
theorem ofObjects_append (earlier : List ObjectType) (type : ObjectType) :
    ofObjects (earlier ++ [type]) =
      ⟨(ofObjects earlier).entities ++ (if type.isEntity then [type.entity] else []),
        (ofObjects (earlier ++ [type])).searches, []⟩ := by
  by_cases entity : type.isEntity <;> simp [ofObjects, entity]

/-- The step: behind some object types, one more adds what it declares or stops at its first violation. -/
theorem addObject_eq (earlier : List ObjectType) (type : ObjectType) :
    (ofObjects earlier).addObject type =
      unlessViolated (type.violations earlier) (ofObjects (earlier ++ [type])) := by
  unfold addObject ObjectType.violations
  by_cases stored : type.isStored
  · rw [if_pos stored, if_pos stored, type.readDirectives_eq]
    apply unlessViolated_bind
    intro fine
    have searches := searches_ofObjects (List.append_eq_nil_iff.mp fine).2 earlier
    rw [ofObjects_append, searches]
    by_cases entity : type.isEntity
    · have options : (TypeDirectives.declared type.directives).entity = some type.options :=
        if_pos entity
      simp only [options, tables_ofObjects, type.toEntity_eq, if_pos entity]
      exact unlessViolated_bind_pure _ _ _
    · have options : (TypeDirectives.declared type.directives).entity = none := if_neg entity
      simp only [options, if_neg entity, List.append_nil]
      rfl
  · have parts : type.isEntity = false ∧ type.name ≠ schemaType := by
      simpa [ObjectType.isStored] using stored
    rw [if_neg stored, if_neg stored]
    simp [ofObjects, parts, unlessViolated]

/-- The run over all object types: what they all declare, or the first violation of any of them. -/
theorem foldlM_addObject (types : List ObjectType) :
    types.foldlM addObject ⟨[], [], []⟩ =
      unlessViolated (withEarlier ObjectType.violations [] types) (ofObjects types) :=
  foldlM_eq_unlessViolated ofObjects addObject_eq [] types

def withEnums (catalog : Catalog) (types : List EnumType) : Catalog :=
  { catalog with enums := types.map fun type => (storeName type.name, type.values) }

/-- An enum is added behind the earlier ones, unless one of them has its store name. -/
theorem addEnum_eq (catalog : Catalog) (earlier : List EnumType) (type : EnumType) :
    (catalog.withEnums earlier).addEnum type =
      unlessViolated (type.repeatedName earlier) (catalog.withEnums (earlier ++ [type])) := by
  unfold addEnum EnumType.repeatedName withEnums
  simp only [List.map_map, List.map_append, List.map_cons, List.map_nil]
  exact ite_eq_unlessViolated

/-- Collecting a document gives the catalog that it declares, unless a type or an enum violates something. -/
theorem catalog_ofDocument (document : Document) :
    ofDocument document = unlessViolated document.declarationViolations document.catalog := by
  unfold ofDocument
  rw [foldlM_addObject]
  apply unlessViolated_bind
  intro _
  exact foldlM_eq_unlessViolated (withEnums (ofObjects document.objects)) (addEnum_eq _) [] document.enums

end Catalog

namespace Registry

/-- What is put in front, one item after another, stands there in reverse. -/
theorem foldl_inFront {α β σ : Type} (step : σ → α → σ) (rebuild : List β → σ) (entry : α → β)
    (each : ∀ entries item, step (rebuild entries) item = rebuild (entry item :: entries))
    (items : List α) (entries : List β) :
    items.foldl step (rebuild entries) = rebuild ((items.map entry).reverse ++ entries) := by
  induction items generalizing entries with
  | nil => rfl
  | cons item rest ih =>
    rw [List.foldl_cons, each, ih]
    simp

/-- Registered names come in front, so that the last one is found first. -/
theorem foldl_addEntity (names : List String) (registry : Registry) :
    names.foldl addEntity registry =
      { registry with entities := names.reverse ++ registry.entities } := by
  have folded := foldl_inFront addEntity (fun entities => { registry with entities }) id
    (fun _ _ => rfl) names registry.entities
  rwa [List.map_id] at folded

theorem foldl_addEnum (names : List String) (registry : Registry) :
    names.foldl addEnum registry = { registry with enums := names.reverse ++ registry.enums } := by
  have folded := foldl_inFront addEnum (fun enums => { registry with enums }) id
    (fun _ _ => rfl) names registry.enums
  rwa [List.map_id] at folded

theorem foldl_addInterface (tables : String → List String) (names : List String) (registry : Registry) :
    names.foldl (fun registry name => registry.addInterface name (tables name)) registry =
      { registry with
        interfaces := (names.map fun name => (name, tables name)).reverse ++ registry.interfaces } :=
  foldl_inFront (fun registry name => addInterface registry name (tables name))
    (fun interfaces => { registry with interfaces }) (fun name => (name, tables name))
    (fun _ _ => rfl) names registry.interfaces

end Registry

/-- The catalog knows the tables of the entities that implement an interface, in the order of the document. -/
theorem Catalog.implementors_catalog (document : Document) (interface : String) :
    document.catalog.implementors interface = document.implementors interface := by
  simp only [implementors, Document.catalog, Document.implementors, List.filter_map, List.map_map]
  rfl

/-- Filled from the catalog of a document, the registry has the names that the document gives it. -/
theorem Registry.ofDocument_catalog (document : Document) :
    Registry.ofDocument document document.catalog = document.registry := by
  unfold Registry.ofDocument
  rw [foldl_addEntity, foldl_addEnum, foldl_addInterface]
  simp only [Catalog.implementors_catalog, empty, List.append_nil, List.map_map]
  simp only [Document.registry, Document.catalog, List.map_map]
  rfl

end EntityLayout
