import EntityLayout.Proofs.Layout.Tables
import EntityLayout.Proofs.Schema.Resolving
import EntityLayout.Proofs.UniqueKeys

/-!
# Linking derived fields and text searches

What is to be added to the tables once they are built: a relation for each derived field and a column
for each entity that a text search includes, unless one of them violates something (`additions_eq`).
Tables are found by their names, which is only right because no two entities share one.
-/
namespace EntityLayout

/-- The type of every column of an entity refers to identifiers, if it refers to anything. -/
theorem start_of_reference? {document : Document} {type : ObjectType} {column : Column}
    {tables : List String} {start : String} (member : column ∈ document.entityColumns type)
    (refers : column.type.reference? = some (tables, start)) : start = idField := by
  obtain ⟨stored, leaf⟩ := ColumnType.leaf_of_reference? refers
  rcases List.mem_append.mp member with common | declared
  · simp only [List.mem_cons, List.not_mem_nil, or_false] at common
    rcases common with rfl | rfl <;> cases refers
  · obtain ⟨field, _, rfl⟩ := List.mem_map.mp declared
    simp only [Document.fieldColumn, Document.fieldType] at leaf
    split at leaf
    · cases leaf
    · cases resolved : document.registry.resolve field.type with
      | error cause =>
        rw [resolved] at leaf
        cases leaf
      | ok resolvedType =>
        rw [resolved] at leaf
        have named := Registry.resolve_leaf resolved
        rw [show resolvedType.leaf = .reference tables start stored from leaf] at named
        exact (Registry.reference_of_resolveName named).1

theorem ColumnType.any_reference? (type : ColumnType) (table : String) :
    type.reference?.any (·.1.contains table) = type.refersTo table := by
  cases type with
  | list element => cases element <;> rfl
  | _ => rfl

section
variable (document : Document)

/-- The tables of the entities before anything is linked. -/
def bareTables : List Table :=
  document.entityTypes.map document.bareTable

theorem findTable?_bareTables (name : String) :
    findTable? (bareTables document) name = (document.storedIn? name).map document.bareTable := by
  unfold findTable? bareTables
  rw [List.find?_map]
  rfl

/-- The table of an entity is found by the store name of its declared name. -/
theorem storedIn?_of_entity? (unique : (document.entityTypes.map (·.table)).Nodup) {name : String}
    {type : ObjectType} (found : document.entity? name = some type) :
    document.storedIn? (storeName name) = some type := by
  have member := List.mem_of_find?_eq_some found
  have named : type.name = name := by simpa using List.find?_some found
  rw [← named]
  exact find?_key unique member

theorem entity?_eq_none_iff (name : String) :
    document.entity? name = none ↔ name ∉ document.registry.entities := by
  simp [Document.entity?, Document.registry]

theorem isInterface_registry (name : String) :
    document.registry.isInterface name = document.isInterface name := by
  rw [Bool.eq_iff_iff, Registry.isInterface, List.lookup_isSome_iff, Document.isInterface,
    List.any_eq_true]
  constructor
  · intro given
    rcases given with ⟨entry, member, same⟩
    obtain ⟨interface, declared, rfl⟩ := List.mem_map.mp (List.mem_reverse.mp member)
    exact ⟨interface, declared, by simpa using (beq_iff_eq.mp same).symm⟩
  · intro given
    rcases given with ⟨interface, declared, same⟩
    exact ⟨_, List.mem_reverse.mpr (List.mem_map_of_mem declared), by simpa using (beq_iff_eq.mp same).symm⟩

/-- Looking for the entity that a derived field lists. -/
theorem relationTarget_eq (unique : (document.entityTypes.map (·.table)).Nodup) (location : Location)
    (name : String) :
    relationTarget document.registry (bareTables document) location name =
      match document.entity? name with
      | some type => .ok (document.bareTable type)
      | none =>
        if document.isInterface name then .error (.unresolved location (.notAnEntity name))
        else .error (.unresolved location (.unknownEntity name)) := by
  unfold relationTarget Registry.entityTable?
  by_cases declared : name ∈ document.registry.entities
  · cases found : document.entity? name with
    | none => exact absurd declared ((entity?_eq_none_iff document name).mp found)
    | some type =>
      rw [if_pos declared, Option.bind_some, findTable?_bareTables,
        storedIn?_of_entity? document unique found]
      rfl
  · rw [if_neg declared, (entity?_eq_none_iff document name).mpr declared, isInterface_registry]
    rfl

theorem table_of_entity? {name : String} {type : ObjectType}
    (found : document.entity? name = some type) : type.table = storeName name := by
  have named : type.name = name := by simpa using List.find?_some found
  rw [ObjectType.table, named]

/-- A column of an entity either refers to a table, and then to its identifiers, or does not. -/
theorem filter_reference?_cases {type : ObjectType} {column : Column} (table : String)
    (member : column ∈ document.entityColumns type) :
    (column.type.refersTo table = false ∧ column.type.reference?.filter (·.1.contains table) = none) ∨
      (column.type.refersTo table = true ∧
        ∃ tables, column.type.reference?.filter (·.1.contains table) = some (tables, idField)) := by
  have refers := column.type.any_reference? table
  rw [← Option.isSome_filter] at refers
  cases filtered : column.type.reference?.filter (·.1.contains table) with
  | none =>
    rw [filtered] at refers
    exact Or.inl ⟨refers.symm, rfl⟩
  | some reference =>
    obtain ⟨tables, start⟩ := reference
    rw [filtered] at refers
    have start_eq : start = idField :=
      start_of_reference? member (Option.filter_eq_some_iff.mp filtered).1
    exact Or.inr ⟨refers.symm, tables, by rw [start_eq]⟩

/-- A derived field gives its relation unless it violates something. Names lead to the right tables because no two
entities share one. -/
theorem relationOf_eq (unique : (document.entityTypes.map (·.table)).Nodup) (type : ObjectType)
    (field : Field) :
    relationOf document.registry (bareTables document) type.entity field field.backField =
      unlessViolated (document.relationViolations type field)
        (.relation type.table idField field.relation) := by
  unfold relationOf Document.relationViolations
  simp only []
  rw [relationTarget_eq document unique]
  cases found : document.entity? field.type.baseName with
  | none =>
    by_cases interface : document.isInterface field.type.baseName = true
    · simp only [if_pos interface]
      rfl
    · simp only [if_neg interface]
      rfl
  | some listed =>
    have column?_eq : (document.bareTable listed).column? (storeName field.backField) =
      (document.entityColumns listed).find? (·.name == storeName field.backField) := rfl
    simp only [bind, Except.bind, column?_eq]
    cases back : (document.entityColumns listed).find? (·.name == storeName field.backField) with
    | none => rfl
    | some column =>
      have owner : type.entity.table = type.table := rfl
      simp only [owner]
      rcases filter_reference?_cases document type.table (List.mem_of_find?_eq_some back) with
        ⟨refers, filtered⟩ | ⟨refers, tables, filtered⟩
      · simp only [filtered, refers]
        rfl
      · have target : (document.bareTable listed).name = storeName field.type.baseName :=
          table_of_entity? document found
        simp only [filtered, refers]
        rw [target]
        rfl

/-- A search finds a column under the store name of a field, or reports the field as it is spelled. -/
theorem searchedColumn_eq (search : TextSearch) (included : SearchInclude) (type : ObjectType)
    (field : String) :
    searchedColumn search included.entity (document.bareTable type) field =
      unlessViolated
        (if storeName field ∈ (document.entityColumns type).map (·.name) then []
          else [.unresolved (.search search.name) (.noField included.entity field)])
        (storeName field) := by
  have found : ((document.bareTable type).column? (storeName field)).isSome = true ↔
      storeName field ∈ (document.entityColumns type).map (·.name) := by
    simp [Table.column?, Document.bareTable]
  unfold searchedColumn
  by_cases known : storeName field ∈ (document.entityColumns type).map (·.name)
  · simp only [if_pos known, if_pos (found.mpr known)]
    rfl
  · simp only [if_neg known, if_neg (mt found.mp known)]
    rfl

/-- A search and an entity that it includes give one column, unless the entity or one of its fields is missing. -/
theorem searchColumn_eq (search : TextSearch) (included : SearchInclude) :
    searchColumn (bareTables document) search included =
      unlessViolated (document.includeViolations search included)
        (.column included.table (search.column included)) := by
  unfold searchColumn Document.includeViolations
  have looked := findTable?_bareTables document included.table
  rw [show storeName included.entity = included.table from rfl]
  cases found : document.storedIn? included.table with
  | none =>
    rw [found, Option.map_none] at looked
    rw [looked]
    rfl
  | some type =>
    rw [found, Option.map_some] at looked
    rw [looked]
    have named : type.table = included.table := by simpa using List.find?_some found
    simp only []
    rw [mapM_eq_unlessViolated fun field _ => searchedColumn_eq document search included type field,
      ← named]
    exact unlessViolated_bind_pure _ _ _

/-- The relations of all derived fields, each with the table that it belongs to. -/
def linkedRelations : List (String × Relation) :=
  document.entityTypes.flatMap fun type => type.derivedFields.map fun field => (type.table, field.relation)

/-- What is added to the tables: relations from identifiers, and then columns of text searches. -/
def linkedAdditions : List Addition :=
  (linkedRelations document).map (fun (owner, added) => .relation owner idField added) ++
    document.searchIncludes.map fun (search, included) => .column included.table (search.column included)

/-- The relations of one entity, up to its first derived field that violates something. -/
theorem entityRelations_eq (unique : (document.entityTypes.map (·.table)).Nodup) (type : ObjectType) :
    (type.entity.derivedFields.mapM fun derived =>
        relationOf document.registry (bareTables document) type.entity derived.1 derived.2) =
      unlessViolated (type.derivedFields.flatMap (document.relationViolations type))
        (type.derivedFields.map fun field => .relation type.table idField field.relation) := by
  rw [type.derivedFields_entity, List.mapM_map]
  exact mapM_eq_unlessViolated fun field _ => relationOf_eq document unique type field

/-- All derived fields are linked, entity by entity, up to the first that violates something. -/
theorem catalogRelations_eq (unique : (document.entityTypes.map (·.table)).Nodup) :
    (document.catalog.entities.mapM fun entity => entity.derivedFields.mapM fun derived =>
        relationOf document.registry (bareTables document) entity derived.1 derived.2) =
      unlessViolated
        (document.entityTypes.flatMap fun type =>
          type.derivedFields.flatMap (document.relationViolations type))
        (document.entityTypes.map fun type =>
          type.derivedFields.map fun field => .relation type.table idField field.relation) := by
  change (document.entityTypes.map (·.entity)).mapM _ = _
  rw [List.mapM_map]
  exact mapM_eq_unlessViolated fun type _ => entityRelations_eq document unique type

/-- All searches are linked, entity by entity, up to the first that violates something. -/
theorem catalogSearches_eq :
    (document.catalog.searches.mapM fun search =>
        search.includes.mapM (searchColumn (bareTables document) search)) =
      unlessViolated
        (document.searches.flatMap fun search =>
          search.includes.flatMap (document.includeViolations search))
        (document.searches.map fun search =>
          search.includes.map fun included => .column included.table (search.column included)) := by
  refine mapM_eq_unlessViolated fun search _ => ?_
  exact mapM_eq_unlessViolated fun included _ => searchColumn_eq document search included

/-- Linking finds all that is to be added, relations in front of columns, or the first link violation. -/
theorem additions_eq (unique : (document.entityTypes.map (·.table)).Nodup) :
    document.catalog.additions document.registry (bareTables document) =
      unlessViolated document.linkViolations (linkedAdditions document) := by
  unfold Catalog.additions Document.linkViolations
  refine Eq.trans (congrArg (· >>= _) (catalogRelations_eq document unique)) ?_
  apply unlessViolated_bind
  intro _
  rw [catalogSearches_eq, unlessViolated_bind_pure]
  congr 1
  · simp [Document.searchIncludes, List.flatMap_assoc, List.flatMap_map]
  · simp [linkedAdditions, linkedRelations, Document.searchIncludes, List.flatMap_def, List.map_flatten,
      Function.comp_def]

end

end EntityLayout
