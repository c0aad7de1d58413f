import EntityLayout.Proofs.Layout.Closed

/-!
# Layouts of extended documents

What becomes of a layout when further definitions are put behind those of its document. As long as they
claim no name that the document declares and implement none of its interfaces, all names of the document
keep their meaning (`resolve_extended`), and its tables and enums come first in the new layout just as they
were (`layout_extended`). Nothing is said here about which further definitions have a layout.
-/
namespace EntityLayout

namespace Document

/-- The document with further definitions behind its own. -/
def extend (document : Document) (added : List Definition) : Document :=
  ⟨document.definitions ++ added⟩

/-- The names that a document declares for field types. -/
def typeNames (document : Document) : List String :=
  document.enums.map (·.name) ++ document.entityTypes.map (·.name) ++ document.interfaces.map (·.name)

/-- Further definitions that have no bearing on what the document declares. -/
structure LeftAlone (document : Document) (added : List Definition) : Prop where
  no_schema : ∀ type ∈ (mk added).objects, type.name ≠ schemaType
  no_implementor : ∀ type ∈ (mk added).entityTypes, ∀ interface ∈ document.interfaces,
    interface.name ∉ type.implements
  names_apart : ∀ name ∈ (mk added).typeNames, name ∉ document.typeNames

variable {document : Document} {added : List Definition}

theorem objects_extend : (document.extend added).objects = document.objects ++ (mk added).objects :=
  List.filterMap_append

theorem enums_extend : (document.extend added).enums = document.enums ++ (mk added).enums :=
  List.filterMap_append

theorem interfaces_extend :
    (document.extend added).interfaces = document.interfaces ++ (mk added).interfaces :=
  List.filterMap_append

theorem entityTypes_extend :
    (document.extend added).entityTypes = document.entityTypes ++ (mk added).entityTypes := by
  rw [entityTypes, objects_extend, List.filter_append]
  rfl

/-- The searches of the schema are those of the document, where nothing more is said about the schema. -/
theorem searchIncludes_extend (alone : document.LeftAlone added) :
    (document.extend added).searchIncludes = document.searchIncludes := by
  have none : (mk added).objects.filter (·.name == schemaType) = [] := by
    rw [List.filter_eq_nil_iff]
    intro type member same
    exact alone.no_schema type member (beq_iff_eq.mp same)
  simp only [searchIncludes, searches, objects_extend, List.filter_append, none, List.append_nil]

/-- A name that resolves is built in or declared. -/
theorem mem_typeNames_of_resolveName {name : String} {column : ColumnType}
    (success : document.registry.resolveName name = .ok column) (foreign : builtinType? name = none) :
    name ∈ document.typeNames := by
  simp only [typeNames, List.mem_append, List.mem_map]
  rcases Registry.resolveName_cases success with
    ⟨stored, builtin, _⟩ | ⟨declared, _⟩ | ⟨declared, _⟩ | ⟨tables, _, found, _⟩
  · rw [foreign] at builtin
    cases builtin
  · exact Or.inl (Or.inl ((document.mem_registry_enums name).mp declared))
  · exact Or.inl (Or.inr ((document.mem_registry_entities name).mp declared))
  · rw [lookup_interfaces] at found
    split at found
    · rename_i interface
      right
      simpa [isInterface] using interface
    · cases found

/-- A declared name is not declared once more, and an interface has no further implementors. -/
theorem resolveName_extended (alone : document.LeftAlone added) {name : String}
    (declared : name ∈ document.typeNames) :
    (document.extend added).registry.resolveName name = document.registry.resolveName name := by
  have fresh : name ∉ (mk added).typeNames := fun again => alone.names_apart name again declared
  simp only [typeNames, List.mem_append, List.mem_map, not_or] at fresh
  obtain ⟨⟨noEnum, noEntity⟩, noInterface⟩ := fresh
  have enums : name ∈ (document.extend added).registry.enums ↔ name ∈ document.registry.enums := by
    simp only [mem_registry_enums, enums_extend, List.mem_append, or_and_right, exists_or, noEnum, or_false]
  have entities : name ∈ (document.extend added).registry.entities ↔ name ∈ document.registry.entities := by
    simp only [mem_registry_entities, entityTypes_extend, List.mem_append, or_and_right, exists_or, noEntity,
      or_false]
  have interfaces : (document.extend added).registry.interfaces.lookup name =
      document.registry.interfaces.lookup name := by
    have same : (document.extend added).isInterface name = document.isInterface name := by
      have none : (mk added).interfaces.any (·.name == name) = false := by
        rw [List.any_eq_false]
        intro interface member same
        exact noInterface ⟨interface, member, beq_iff_eq.mp same⟩
      simp only [isInterface, interfaces_extend, List.any_append, none, Bool.or_false]
    rw [lookup_interfaces, lookup_interfaces, same]
    by_cases interface : document.isInterface name = true
    · obtain ⟨type, member, named⟩ := List.any_eq_true.mp interface
      have none : (mk added).entityTypes.filter (·.implements.contains name) = [] := by
        rw [List.filter_eq_nil_iff]
        intro entity given implements
        rw [List.contains_iff_mem, ← beq_iff_eq.mp named] at implements
        exact alone.no_implementor entity given type member implements
      simp only [implementors, entityTypes_extend, List.filter_append, none, List.append_nil]
    · rw [if_neg interface, if_neg interface]
  simp only [Registry.resolveName, enums, entities, interfaces]

/-- What a type of the document resolves to, it still resolves to behind the further definitions. -/
theorem resolve_extended (alone : document.LeftAlone added) {type : TypeRef} {column : ColumnType}
    (success : document.registry.resolve type = .ok column) :
    (document.extend added).registry.resolve type = .ok column := by
  rw [TypeRef.resolve_eq_map, map_eq_ok_iff] at success ⊢
  obtain ⟨base, named, wrapped⟩ := success
  refine ⟨base, ?_, wrapped⟩
  cases builtin : builtinType? type.baseName with
  | some stored =>
    simp only [Registry.resolveName, builtin] at named ⊢
    exact named
  | none =>
    rw [resolveName_extended alone (mem_typeNames_of_resolveName named builtin)]
    exact named

/-- A field that resolves keeps its column. -/
theorem fieldColumn_extended (alone : document.LeftAlone added) {field : Field}
    (resolved : document.fieldType field = .ok (document.fieldColumn field).type) :
    (document.extend added).fieldColumn field = document.fieldColumn field := by
  have same : (document.extend added).fieldType field = document.fieldType field := by
    rw [resolved]
    unfold fieldType at resolved ⊢
    by_cases identifier : field.name = idField
    · rw [if_pos identifier] at resolved ⊢
      exact resolved
    · rw [if_neg identifier] at resolved ⊢
      exact resolve_extended alone resolved
  simp only [fieldColumn, same]

/-- No column of a table changes, and no search is added to it. -/
theorem InOrder.declaredTable_extended (sound : document.InOrder) (alone : document.LeftAlone added)
    {type : ObjectType} (entity : type ∈ document.entityTypes) :
    (document.extend added).declaredTable type = document.declaredTable type := by
  have columns : (document.extend added).entityColumns type = document.entityColumns type := by
    have each : type.storedFields.map (document.extend added).fieldColumn =
        type.storedFields.map document.fieldColumn :=
      List.map_congr_left fun field stored =>
        fieldColumn_extended alone (sound.resolved type entity field stored)
    simp only [entityColumns, each]
  simp only [declaredTable, columns, searchIncludes_extend alone]

end Document

/-- The tables and enums of a layout come first in that of the extended document, and they are the same. -/
theorem layout_extended {document : Document} {added : List Definition} {layout extended : Layout}
    (built : Layout.ofDocument document = .ok layout) (alone : document.LeftAlone added)
    (rebuilt : Layout.ofDocument (document.extend added) = .ok extended) :
    layout.tables <+: extended.tables ∧ layout.enums <+: extended.enums := by
  obtain ⟨sound, rfl⟩ := declared_of_success built
  obtain ⟨_, rfl⟩ := declared_of_success rebuilt
  refine ⟨?_, ?_⟩
  · have own : document.declaredLayout.tables =
        document.entityTypes.map (document.extend added).declaredTable :=
      List.map_congr_left fun type entity => (sound.declaredTable_extended alone entity).symm
    rw [own, Document.declaredLayout, Document.entityTypes_extend, List.map_append]
    exact List.prefix_append _ _
  · simp only [Document.declaredLayout, Document.catalog, Document.enums_extend, List.map_append]
    exact List.prefix_append _ _

/-- Pools that hold swaps, and an interface and an enum of their own. -/
def poolDefinitions : List Definition := [
  .scalar { name := "Event", directives := [] },
  .interface { name := "Venue", directives := [], fields := [] },
  .enum { name := "PoolKind", directives := [], values := ["STABLE"] },
  .object {
    name := "Pool", implements := ["Venue"], directives := [⟨"entity", []⟩]
    fields := [
      ⟨"id", .nonNull (.named "ID"), []⟩,
      ⟨"kind", .named "PoolKind", []⟩,
      ⟨"swaps", .list (.named "Swap"), []⟩] }]

/-- The further definitions use an enum of their own and refer to an entity of the document. -/
theorem layout_extended_pools :
    eventSchema.LeftAlone poolDefinitions ∧ Layout.ofDocument eventSchema = .ok eventLayout ∧
      ∃ extended, Layout.ofDocument (eventSchema.extend poolDefinitions) = .ok extended ∧
        eventLayout.tables <+: extended.tables ∧ eventLayout.enums <+: extended.enums := by
  have alone : eventSchema.LeftAlone poolDefinitions := ⟨by decide, by decide, by decide⟩
  have rebuilt : ∃ extended, Layout.ofDocument (eventSchema.extend poolDefinitions) = .ok extended :=
    ⟨_, rfl⟩
  obtain ⟨extended, rebuilt⟩ := rebuilt
  exact ⟨alone, eventLayout_built, extended, rebuilt, layout_extended eventLayout_built alone rebuilt⟩

end EntityLayout
