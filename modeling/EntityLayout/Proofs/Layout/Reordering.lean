import EntityLayout.Proofs.Layout.Closed
import EntityLayout.Proofs.Schema.Reordering

/-!
# Layouts of documents in another order

The order of its definitions does not matter to whether a document has a layout, and only the order of
what the layout holds depends on it: `layout_reordered`. Violations compare declarations two by two or
look them up by unique names, and neither depends on the order.
-/
namespace EntityLayout

variable {document other : Document}

/-- An object type is compared with the entities in front of it. -/
theorem ObjectType.violations_eq_nil_iff (earlier : List ObjectType) (type : ObjectType) :
    type.violations earlier = [] ↔
      type.violations [] = [] ∧
        ∀ prior ∈ earlier, ¬(prior.isEntity ∧ type.isEntity ∧ prior.table = type.table) := by
  unfold violations
  by_cases stored : type.isStored = true
  · by_cases entity : type.isEntity = true
    · simp [stored, entity, repeatedTable, and_assoc]
    · simp [stored, entity]
  · have plain : ¬type.isEntity = true := by
      intro entity
      simp [isStored, entity] at stored
    simp [stored, plain]

theorem EnumType.repeatedName_eq_nil_iff (earlier : List EnumType) (type : EnumType) :
    type.repeatedName earlier = [] ↔
      True ∧ ∀ prior ∈ earlier, storeName prior.name ≠ storeName type.name := by
  simp [repeatedName]

/-- A text search is compared with those in front of it that include the same table. -/
theorem repeatedSearch_eq_nil_iff (earlier : List (TextSearch × SearchInclude))
    (item : TextSearch × SearchInclude) :
    document.repeatedSearch earlier item = [] ↔
      document.repeatedSearch [] item = [] ∧
        ∀ prior ∈ earlier, ¬(prior.2.table = item.2.table ∧ (document.storedIn? item.2.table).isSome ∧
          storeName prior.1.name = storeName item.1.name) := by
  obtain ⟨search, included⟩ := item
  unfold Document.repeatedSearch
  cases found : document.storedIn? included.table with
  | none => simp [found]
  | some type =>
    have columns (name : String) : name ∈ (searchColumns earlier included.table).map (·.name) ↔
        ∃ prior ∈ earlier, prior.2.table = included.table ∧ storeName prior.1.name = name := by
      simp [searchColumns, TextSearch.column, and_assoc]
    have free : searchColumns [] included.table = [] := rfl
    simp only [found, List.map_append, List.mem_append, columns, free, Option.isSome_some]
    grind

section
variable (reordered : document.definitions.Perm other.definitions)
include reordered

/-- Whether two declarations clash does not depend on which of them comes first. -/
theorem declarationViolations_reordered (fine : document.declarationViolations = []) :
    other.declarationViolations = [] := by
  obtain ⟨objects, enums⟩ := List.append_eq_nil_iff.mp fine
  refine List.append_eq_nil_iff.mpr ⟨?_, ?_⟩
  · refine withEarlier_eq_nil_perm ObjectType.violations_eq_nil_iff ?_
      (Document.objects_perm reordered) objects
    rintro type prior apart ⟨first, second, same⟩
    exact apart ⟨second, first, same.symm⟩
  · exact withEarlier_eq_nil_perm EnumType.repeatedName_eq_nil_iff (fun _ _ => Ne.symm)
      (Document.enums_perm reordered) enums

/-- A type resolves to the same column type, up to the order of the tables that a reference leads to. -/
theorem fieldType_reordered (field : Field) :
    (document.fieldType field).map ColumnType.inCommonOrder =
      (other.fieldType field).map ColumnType.inCommonOrder := by
  unfold Document.fieldType
  by_cases identifier : field.name = idField
  · rw [if_pos identifier, if_pos identifier]
  · rw [if_neg identifier, if_neg identifier]
    exact Document.resolve_reordered reordered field.type

theorem fieldColumn_reordered (field : Field) :
    (document.fieldColumn field).inCommonOrder = (other.fieldColumn field).inCommonOrder := by
  simp only [Document.fieldColumn, Column.inCommonOrder, ColumnType.inCommonOrder_getD,
    fieldType_reordered reordered]

theorem entityColumns_reordered (type : ObjectType) :
    (document.entityColumns type).map Column.inCommonOrder =
      (other.entityColumns type).map Column.inCommonOrder := by
  simp only [Document.entityColumns, List.map_append, List.map_map, Function.comp_def,
    fieldColumn_reordered reordered]

theorem entityColumns_names (type : ObjectType) :
    (document.entityColumns type).map (·.name) = (other.entityColumns type).map (·.name) := by
  rw [← names_inCommonOrder, entityColumns_reordered reordered, names_inCommonOrder]

theorem find?_reordered (type : ObjectType) (name : String) :
    ((document.entityColumns type).find? (·.name == name)).map Column.inCommonOrder =
      ((other.entityColumns type).find? (·.name == name)).map Column.inCommonOrder := by
  have sorted (columns : List Column) :
      (columns.find? (·.name == name)).map Column.inCommonOrder =
        (columns.map Column.inCommonOrder).find? (·.name == name) := by
    rw [List.find?_map]
    rfl
  rw [sorted, sorted, entityColumns_reordered reordered]

/-- The same types fail to resolve, for the same reasons. -/
theorem tableViolations_reordered : document.tableViolations = other.tableViolations := by
  have errors (field : Field) : errorOf (document.fieldType field) = errorOf (other.fieldType field) := by
    rw [← errorOf_map _ ColumnType.inCommonOrder, fieldType_reordered reordered, errorOf_map]
  have checks : document.fieldViolations = other.fieldViolations := by
    funext type earlier field
    simp only [Document.fieldViolations, errors]
  funext type
  simp only [Document.tableViolations, checks]

section
variable (unique : (document.entityTypes.map (·.table)).Nodup)
include unique

/-- The entity of a table name is the same in any order, since there is only one. -/
theorem storedIn?_reordered (table : String) : document.storedIn? table = other.storedIn? table :=
  find?_key_perm (Document.entityTypes_perm reordered) unique table

theorem entity?_reordered (name : String) : document.entity? name = other.entity? name := by
  -- Entities of different tables have different names.
  have names : (document.entityTypes.map (·.name)).Nodup := by
    have stored : ((document.entityTypes.map (·.name)).map storeName).Nodup := by
      rw [List.map_map]
      exact unique
    exact List.Pairwise.of_map storeName (fun _ _ different same => different (congrArg _ same)) stored
  exact find?_key_perm (Document.entityTypes_perm reordered) names name

/-- The column that a derived field starts from refers to the same tables. -/
theorem relationViolations_reordered : document.relationViolations = other.relationViolations := by
  funext type field
  unfold Document.relationViolations
  simp only [entity?_reordered reordered unique, Document.isInterface_reordered reordered]
  split
  · rfl
  rename_i listed _
  have found := find?_reordered reordered listed (storeName field.backField)
  cases left : (document.entityColumns listed).find? (·.name == storeName field.backField) with
  | none =>
    rw [left, Option.map_none, eq_comm, Option.map_eq_none_iff] at found
    rw [found]
  | some column =>
    rw [left, Option.map_some, eq_comm, Option.map_eq_some_iff] at found
    obtain ⟨partner, right, same⟩ := found
    have refers : partner.type.refersTo type.table = column.type.refersTo type.table := by
      rw [← partner.type.refersTo_inCommonOrder, ← column.type.refersTo_inCommonOrder]
      exact congrArg (·.type.refersTo type.table) same
    simp only [right, refers]

/-- What a search finds wrong does not depend on the order of the definitions. -/
theorem includeViolations_reordered : document.includeViolations = other.includeViolations := by
  funext search included
  simp only [Document.includeViolations, storedIn?_reordered reordered unique,
    entityColumns_names reordered]

theorem repeatedSearch_reordered : document.repeatedSearch = other.repeatedSearch := by
  funext earlier item
  simp only [Document.repeatedSearch, storedIn?_reordered reordered unique, List.map_append,
    entityColumns_names reordered]

end

/-- Where nothing is wrong with a document, nothing is wrong with it in another order. -/
theorem violations_reordered (fine : document.violations = []) : other.violations = [] := by
  have unique := (inOrder_of_violations fine).tables_unique
  unfold Document.violations at fine
  obtain ⟨declarations, fine⟩ := List.append_eq_nil_iff.mp fine
  obtain ⟨tables, fine⟩ := List.append_eq_nil_iff.mp fine
  obtain ⟨links, searches⟩ := List.append_eq_nil_iff.mp fine
  obtain ⟨relations, includes⟩ := List.append_eq_nil_iff.mp links
  have entities := Document.entityTypes_perm reordered
  have included := Document.searchIncludes_perm reordered
  have noSearches : withEarlier other.repeatedSearch [] other.searchIncludes = [] := by
    rw [← repeatedSearch_reordered reordered unique]
    refine withEarlier_eq_nil_perm repeatedSearch_eq_nil_iff ?_ included searches
    rintro item prior apart ⟨table, found, same⟩
    rw [← table] at found
    exact apart ⟨table.symm, found, same.symm⟩
  unfold Document.violations Document.linkViolations
  rw [← tableViolations_reordered reordered, ← relationViolations_reordered reordered unique,
    ← includeViolations_reordered reordered unique, declarationViolations_reordered reordered declarations,
    flatMap_eq_nil_perm entities tables, flatMap_eq_nil_perm entities relations,
    flatMap_eq_nil_perm included includes, noSearches]
  rfl

/-- The two tables of an entity have the same columns, in the order of the searches. -/
theorem declaredTable_agrees (sound : other.InOrder) {type : ObjectType}
    (entity : type ∈ other.entityTypes) :
    (document.declaredTable type).inCommonOrder.agrees (other.declaredTable type).inCommonOrder = true := by
  have searches : (searchColumns document.searchIncludes type.table).Perm
      (searchColumns other.searchIncludes type.table) :=
    ((Document.searchIncludes_perm reordered).filter _).map _
  have columns : ((document.declaredTable type).columns.map Column.inCommonOrder).Perm
      ((other.declaredTable type).columns.map Column.inCommonOrder) := by
    simp only [Document.declaredTable, List.map_append, entityColumns_reordered reordered]
    exact (searches.map _).append_left _
  have names : (((other.declaredTable type).columns.map Column.inCommonOrder).map (·.name)).Nodup := by
    rw [names_inCommonOrder]
    exact sound.columns_unique type entity
  have starts : (type.relations.map Prod.fst).Nodup := by
    rw [relations_eq]
    split <;> simp
  unfold Table.agrees
  simp only [Bool.and_eq_true, beq_iff_eq]
  refine ⟨⟨⟨⟨rfl, rfl⟩, rfl⟩, ?_⟩, ?_⟩
  · exact sameEntries_of_perm columns names fun column => beq_self_eq_true column
  · exact sameEntries_of_perm (List.Perm.refl type.relations) starts fun entry => beq_self_eq_true entry

/-- The declared layouts hold the same tables and enums under the same names, all of them in common order. -/
theorem declaredLayout_agrees (sound : other.InOrder) :
    document.declaredLayout.inCommonOrder.agrees other.declaredLayout.inCommonOrder = true := by
  have layoutTables (document : Document) : document.declaredLayout.inCommonOrder.tables =
      document.entityTypes.map fun type => (document.declaredTable type).inCommonOrder := by
    simp [Layout.inCommonOrder, Document.declaredLayout]
  have entities := Document.entityTypes_perm reordered
  unfold Layout.agrees
  rw [Bool.and_eq_true, layoutTables, layoutTables]
  refine ⟨?_, ?_⟩
  · refine sameEntries_map entities ?_ ?_
    · rw [List.map_map]
      exact sound.tables_unique
    · intro type entity
      exact ⟨rfl, declaredTable_agrees reordered sound (entities.mem_iff.mp entity)⟩
  · have names : ((other.enums.map fun type => (storeName type.name, type.values)).map Prod.fst).Nodup := by
      rw [List.map_map]
      exact sound.enums_unique
    exact sameEntries_of_perm ((Document.enums_perm reordered).map _) names fun entry =>
      beq_self_eq_true entry

end

/-- A document has a layout exactly when it has one with its definitions in another order, and the two
layouts are then equal up to order. -/
theorem layout_reordered (reordered : document.definitions.Perm other.definitions) :
    ((∃ layout, Layout.ofDocument document = .ok layout) ↔
      ∃ layout, Layout.ofDocument other = .ok layout) ∧
    ∀ first second, Layout.ofDocument document = .ok first → Layout.ofDocument other = .ok second →
      first.inCommonOrder.agrees second.inCommonOrder = true := by
  refine ⟨?_, ?_⟩
  · simp only [exists_layout_iff]
    exact ⟨violations_reordered reordered, violations_reordered reordered.symm⟩
  · intro first second built rebuilt
    obtain ⟨_, rfl⟩ := declared_of_success built
    obtain ⟨sound, rfl⟩ := declared_of_success rebuilt
    exact declaredLayout_agrees reordered sound

/-- The definitions in reverse, where the implementors of the interface come in the other order. -/
theorem layout_reordered_events :
    eventSchema.definitions.Perm eventSchema.definitions.reverse ∧
      Layout.ofDocument eventSchema = .ok eventLayout ∧
      ∃ layout, Layout.ofDocument ⟨eventSchema.definitions.reverse⟩ = .ok layout ∧
        eventLayout.inCommonOrder.agrees layout.inCommonOrder = true := by
  have reordered : eventSchema.definitions.Perm eventSchema.definitions.reverse :=
    (List.reverse_perm _).symm
  have same := @layout_reordered eventSchema ⟨eventSchema.definitions.reverse⟩ reordered
  obtain ⟨layout, rebuilt⟩ := same.1.mp ⟨eventLayout, eventLayout_built⟩
  exact ⟨reordered, eventLayout_built, layout, rebuilt, same.2 _ _ eventLayout_built rebuilt⟩

end EntityLayout
