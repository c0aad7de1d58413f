import EntityLayout.Proofs.Layout.Assembly
import EntityLayout.Proofs.Schema.Collecting

/-!
# The outcome of building a layout

Building the layout of a document gives the layout that the document declares, or the first of its
violations (`ofDocument_eq`). A document without violations is in order (`inOrder_of_violations`): its
names are unique, its types resolve, and its derived fields and text searches lead somewhere.
-/
namespace EntityLayout

section
variable {document : Document}

/-- What holds of a document without violations. -/
structure Document.InOrder (document : Document) : Prop where
  tables_unique : (document.entityTypes.map (·.table)).Nodup
  enums_unique : (document.enums.map (storeName ·.name)).Nodup
  identified : ∀ type ∈ document.entityTypes, ∃ field ∈ type.fields, field.name = idField
  resolved : ∀ type ∈ document.entityTypes, ∀ field ∈ type.storedFields,
    document.fieldType field = .ok (document.fieldColumn field).type
  columns_unique : ∀ type ∈ document.entityTypes,
    ((document.declaredTable type).columns.map (·.name)).Nodup
  related : ∀ type ∈ document.entityTypes, ∀ field ∈ type.derivedFields,
    document.relationViolations type field = []
  included : ∀ item ∈ document.searchIncludes, document.includeViolations item.1 item.2 = []

theorem tables_nodup (fine : document.declarationViolations = []) :
    (document.entityTypes.map (·.table)).Nodup := by
  obtain ⟨objects, _⟩ := List.append_eq_nil_iff.mp fine
  apply withEarlier_invariant (fun types => ((types.filter (·.isEntity)).map (·.table)).Nodup) _ objects
  · simp
  · intro earlier type allowed unique
    by_cases entity : type.isEntity
    · have stored : type.isStored = true := by simp [ObjectType.isStored, entity]
      have fresh : type.table ∉ (earlier.filter (·.isEntity)).map (·.table) := by
        intro taken
        simp [ObjectType.violations, stored, entity, ObjectType.repeatedTable, taken] at allowed
      simpa [List.filter_append, entity] using nodup_concat unique fresh
    · simpa [List.filter_append, entity] using unique

theorem enums_nodup (fine : document.declarationViolations = []) :
    (document.enums.map (storeName ·.name)).Nodup := by
  obtain ⟨_, enums⟩ := List.append_eq_nil_iff.mp fine
  apply withEarlier_invariant (fun types => (types.map (storeName ·.name)).Nodup) _ enums
  · simp
  · intro earlier type allowed unique
    have fresh : storeName type.name ∉ earlier.map (storeName ·.name) := by
      intro taken
      simp [EnumType.repeatedName, taken] at allowed
    simpa using nodup_concat unique fresh

/-- The names of an entity's columns so far stay different with each further field. -/
theorem entityColumns_nodup {type : ObjectType} (fine : document.tableViolations type = []) :
    ((document.entityColumns type).map (·.name)).Nodup := by
  obtain ⟨_, fields⟩ := List.append_eq_nil_iff.mp fine
  have names (fields : List Field) :
      ([Column.vid, .blockRange] ++ fields.map document.fieldColumn).map (·.name) =
        [vidColumn, blockRangeColumn] ++ fields.map (storeName ·.name) := by
    rw [List.map_append, List.map_map]
    rfl
  rw [Document.entityColumns, names]
  apply withEarlier_invariant
    (fun fields => ([vidColumn, blockRangeColumn] ++ fields.map (storeName ·.name)).Nodup) _ fields
  · decide
  · intro earlier field allowed unique
    obtain ⟨_, free⟩ := List.append_eq_nil_iff.mp allowed
    have fresh : storeName field.name ∉
        [vidColumn, blockRangeColumn] ++ earlier.map (storeName ·.name) := by
      intro taken
      rw [ObjectType.repeatedColumn, if_pos taken] at free
      cases free
    rw [List.map_append, ← List.append_assoc]
    exact nodup_concat unique fresh

/-- No two columns of a finished table share a name: those of the fields were compared when the table was built, and
those of the searches when they were added. -/
theorem declaredColumns_nodup (unique : (document.entityTypes.map (·.table)).Nodup) {type : ObjectType}
    (member : type ∈ document.entityTypes) (fine : document.tableViolations type = [])
    (searches : withEarlier document.repeatedSearch [] document.searchIncludes = []) :
    ((document.declaredTable type).columns.map (·.name)).Nodup := by
  have found : document.storedIn? type.table = some type := find?_key unique member
  apply withEarlier_invariant
    (fun items => ((document.entityColumns type ++ searchColumns items type.table).map (·.name)).Nodup)
    _ searches
  · simpa [searchColumns] using entityColumns_nodup fine
  · intro earlier item allowed names
    obtain ⟨search, included⟩ := item
    by_cases here : included.table = type.table
    · have fresh : storeName search.name ∉
          (document.entityColumns type ++ searchColumns earlier type.table).map (·.name) := by
        intro taken
        simp only [Document.repeatedSearch, here, found] at allowed
        rw [if_pos taken] at allowed
        cases allowed
      have added : searchColumns (earlier ++ [(search, included)]) type.table =
          searchColumns earlier type.table ++ [search.column included] := by
        simp [searchColumns, here]
      rw [added, ← List.append_assoc, List.map_append]
      exact nodup_concat names fresh
    · have same : searchColumns (earlier ++ [(search, included)]) type.table =
          searchColumns earlier type.table := by
        simp [searchColumns, here]
      rw [same]
      exact names

/-- The type of every stored field resolves, or the table would violate something. -/
theorem resolved_of_tableViolations {type : ObjectType} {field : Field}
    (fine : document.tableViolations type = []) (member : field ∈ type.storedFields) :
    document.fieldType field = .ok (document.fieldColumn field).type := by
  obtain ⟨_, fields⟩ := List.append_eq_nil_iff.mp fine
  obtain ⟨before, allowed⟩ := check_eq_nil_of_mem fields member
  obtain ⟨resolves, _⟩ := List.append_eq_nil_iff.mp allowed
  cases resolved : document.fieldType field with
  | error cause =>
    rw [resolved] at resolves
    cases resolves
  | ok type => simp [Document.fieldColumn, resolved, Except.toOption]

theorem identified_of_tableViolations {type : ObjectType} (fine : document.tableViolations type = []) :
    ∃ field ∈ type.fields, field.name = idField := by
  obtain ⟨missing, _⟩ := List.append_eq_nil_iff.mp fine
  unfold ObjectType.missingId at missing
  split at missing
  · rename_i given
    simpa using given
  · cases missing

/-- A document without violations is in order. -/
theorem inOrder_of_violations (fine : document.violations = []) : document.InOrder := by
  unfold Document.violations at fine
  obtain ⟨declarations, fine⟩ := List.append_eq_nil_iff.mp fine
  obtain ⟨tables, fine⟩ := List.append_eq_nil_iff.mp fine
  obtain ⟨links, searches⟩ := List.append_eq_nil_iff.mp fine
  obtain ⟨relations, includes⟩ := List.append_eq_nil_iff.mp links
  have table := List.flatMap_eq_nil_iff.mp tables
  have unique := tables_nodup declarations
  exact {
    tables_unique := unique
    enums_unique := enums_nodup declarations
    identified := fun type member => identified_of_tableViolations (table type member)
    resolved := fun type member field => resolved_of_tableViolations (table type member)
    columns_unique := fun type member =>
      declaredColumns_nodup unique member (table type member) searches
    related := fun type member =>
      List.flatMap_eq_nil_iff.mp (List.flatMap_eq_nil_iff.mp relations type member)
    included := List.flatMap_eq_nil_iff.mp includes }

/-- Soundness and completeness of the violations in one equation: the layout that is declared, or the first of them.
-/
theorem ofDocument_eq (document : Document) :
    Layout.ofDocument document = unlessViolated document.violations document.declaredLayout := by
  unfold Layout.ofDocument Document.violations
  -- Each stage only has to be right where the stages in front of it have found nothing.
  rw [Catalog.catalog_ofDocument]
  apply unlessViolated_bind
  intro declarations
  have unique := tables_nodup declarations
  have tables : document.catalog.entities.mapM (·.toTable document.registry) =
      unlessViolated (document.entityTypes.flatMap document.tableViolations) (bareTables document) := by
    change (document.entityTypes.map (·.entity)).mapM _ = _
    rw [List.mapM_map]
    exact mapM_eq_unlessViolated fun type _ => toTable_entity document type
  simp only [Registry.ofDocument_catalog, tables]
  apply unlessViolated_bind
  intro _
  rw [additions_eq document unique]
  apply unlessViolated_bind
  intro _
  rw [apply_additions document unique]
  exact unlessViolated_bind_pure _ _ _

/-- Only a document in order has a layout, and this is the one that it declares. -/
theorem declared_of_success {layout : Layout} (success : Layout.ofDocument document = .ok layout) :
    document.InOrder ∧ layout = document.declaredLayout := by
  rw [ofDocument_eq] at success
  obtain ⟨fine, same⟩ := unlessViolated_eq_ok_iff.mp success
  exact ⟨inOrder_of_violations fine, same.symm⟩

/-- A document has a layout exactly when nothing is wrong with it. -/
theorem exists_layout_iff :
    (∃ layout, Layout.ofDocument document = .ok layout) ↔ document.violations = [] := by
  simp only [ofDocument_eq, unlessViolated_eq_ok_iff, exists_and_left, exists_eq', and_true]

/-- A document is refused with the first of its violations, and with nothing else: there is a layout
exactly when there are none. -/
theorem ofDocument_reports_first_violation (document : Document) :
    (∀ cause, Layout.ofDocument document = .error cause ↔ document.violations.head? = some cause) ∧
      ((∃ layout, Layout.ofDocument document = .ok layout) ↔ document.violations = []) := by
  rw [ofDocument_eq]
  refine ⟨fun cause => unlessViolated_eq_error_iff, ?_⟩
  constructor
  · intro given
    rcases given with ⟨layout, success⟩
    exact (unlessViolated_eq_ok_iff.mp success).1
  · intro fine
    exact ⟨document.declaredLayout, unlessViolated_eq_ok_iff.mpr ⟨fine, rfl⟩⟩

end

end EntityLayout
