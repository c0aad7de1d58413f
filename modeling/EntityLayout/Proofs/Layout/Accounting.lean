import EntityLayout.Proofs.Layout.Outcome

/-!
# What a layout holds

Every table, column and relation of a layout, accounted for by the document that it was built from:
`tables_accounted` for tables and columns, `relations_accounted` for relations. Both say what there is
and that there is nothing else.
-/
namespace EntityLayout

section
variable {document : Document} {layout : Layout}

/-- Under the name of an entity its own table is found, since no other entity has that table name. -/
theorem Document.InOrder.table?_declared (sound : document.InOrder) {type : ObjectType}
    (member : type ∈ document.entityTypes) :
    document.declaredLayout.table? type.table = some (document.declaredTable type) := by
  have found : document.entityTypes.find? (·.table == type.table) = some type :=
    find?_key sound.tables_unique member
  unfold Layout.table? declaredLayout
  rw [List.find?_map]
  change (document.entityTypes.find? (·.table == type.table)).map _ = _
  rw [found]
  rfl

/-- The tables of a layout are those of the entities, in their order. -/
structure TablesAccounted (document : Document) (layout : Layout) : Prop where
  names : layout.tableNames = document.entityTypes.map fun type => storeName type.name
  names_unique : layout.tableNames.Nodup
  flags : layout.tables.map (fun table => (table.immutable, table.timeseries)) =
    document.entityTypes.map fun type => (type.options.immutable, type.options.timeseries)
  columns : layout.tables.map (·.columns) =
    document.entityTypes.map fun type =>
      [.vid, .blockRange] ++ type.storedFields.map document.fieldColumn ++
        searchColumns document.searchIncludes (storeName type.name)
  /-- The types of these columns are the resolved ones. -/
  resolved : ∀ type ∈ document.entityTypes, ∀ field ∈ type.storedFields,
    document.fieldType field = .ok (document.fieldColumn field).type
  /-- Tables and columns are found under their own names. -/
  keyed : ∀ table ∈ layout.tables, layout.table? table.name = some table ∧
    ∀ column ∈ table.columns, table.column? column.name = some column

/-- Every layout that is built has one table for each entity and no other, with the flags, the columns and the column
types of that entity. No premise beyond success is needed: that the names are unique was checked on the way. -/
theorem tables_accounted (success : Layout.ofDocument document = .ok layout) :
    TablesAccounted document layout := by
  obtain ⟨sound, rfl⟩ := declared_of_success success
  have names : document.declaredLayout.tableNames =
      document.entityTypes.map fun type => storeName type.name := by
    simp only [Layout.tableNames, Document.declaredLayout, List.map_map]
    rfl
  refine ⟨names, ?_, ?_, ?_, sound.resolved, ?_⟩
  · rw [names]
    exact sound.tables_unique
  · simp only [Document.declaredLayout, List.map_map]
    rfl
  · simp only [Document.declaredLayout, List.map_map]
    rfl
  · intro table member
    obtain ⟨type, entity, rfl⟩ := List.mem_map.mp member
    refine ⟨sound.table?_declared entity, ?_⟩
    intro column stored
    exact find?_key (sound.columns_unique type entity) stored

/-- Owners of tokens, which they list, and a search over the symbols of tokens. -/
def tokenSchema : Document where
  definitions := [
    .object {
      name := "Owner", implements := ["Holder"]
      directives := [⟨"entity", [⟨"immutable", .bool true⟩]⟩]
      fields := [
        ⟨"id", .nonNull (.named "ID"), []⟩,
        ⟨"ownedTokens", .nonNull (.list (.named "Token")), [⟨"derivedFrom", [⟨"field", .str "heldBy"⟩]⟩]⟩] },
    .object {
      name := "Token", implements := [], directives := [⟨"entity", []⟩]
      fields := [
        ⟨"id", .nonNull (.named "ID"), []⟩,
        ⟨"symbol", .named "String", []⟩,
        ⟨"heldBy", .nonNull (.named "Holder"), []⟩] },
    .interface { name := "Holder", directives := [], fields := [] },
    .object {
      name := "_Schema_", implements := [], fields := []
      directives := [⟨"fulltext", [⟨"name", .str "tokenSearch"⟩, ⟨"language", .enum "en"⟩,
        ⟨"algorithm", .enum "rank"⟩, ⟨"include", .list [.object [⟨"entity", .str "Token"⟩,
          ⟨"fields", .list [.object [⟨"name", .str "symbol"⟩]]⟩]]⟩]⟩] }]

def tokenLayout : Layout where
  enums := []
  tables := [
    { name := "owner", immutable := true, timeseries := false
      columns := [.vid, .blockRange, ⟨"id", .scalar .text, false, false⟩]
      relations := [("id", [⟨"owned_tokens", "token", "held_by", .many⟩])] },
    { name := "token", immutable := false, timeseries := false
      columns := [.vid, .blockRange, ⟨"id", .scalar .text, false, false⟩,
        ⟨"symbol", .scalar .text, true, false⟩, ⟨"held_by", .reference ["owner"] "id" .text, false, false⟩,
        ⟨"token_search", .textSearch .tsvector "en" "rank" ["symbol"], true, false⟩]
      relations := [] }]

theorem tokenLayout_built : Layout.ofDocument tokenSchema = .ok tokenLayout := by
  rfl

/-- Two entities, one of them immutable, and a search over a column of the other. -/
theorem tables_accounted_tokens :
    Layout.ofDocument tokenSchema = .ok tokenLayout ∧ TablesAccounted tokenSchema tokenLayout :=
  ⟨tokenLayout_built, tables_accounted tokenLayout_built⟩

/-- The relations of a layout are those of the derived fields, each at the table of its own entity, and
each leads to a column that refers back to this table. -/
structure RelationsAccounted (document : Document) (layout : Layout) : Prop where
  relations : layout.tables.map (fun table => (table.name, table.relations)) =
    document.entityTypes.map fun type =>
      (storeName type.name,
        if type.derivedFields = [] then [] else [(idField, type.derivedFields.map Field.relation)])
  found : ∀ type ∈ document.entityTypes, ∃ table, layout.table? (storeName type.name) = some table ∧
    table.relations =
      if type.derivedFields = [] then [] else [(idField, type.derivedFields.map Field.relation)]
  backed : ∀ type ∈ document.entityTypes, ∀ field ∈ type.derivedFields,
    ∃ target column tables start stored,
      layout.table? field.relation.table = some target ∧
      target.column? field.relation.column = some column ∧
      (column.type = .reference tables start stored ∨
        column.type = .list (.reference tables start stored)) ∧
      storeName type.name ∈ tables

theorem relations_eq (type : ObjectType) :
    type.relations =
      if type.derivedFields = [] then [] else [(idField, type.derivedFields.map Field.relation)] := by
  simp [ObjectType.relations, underId]

/-- A type that refers to a table is a reference, or a list of references, that leads there. -/
theorem ColumnType.reference_of_refersTo {table : String} {type : ColumnType}
    (refers : type.refersTo table = true) :
    ∃ tables start stored, (type = .reference tables start stored ∨
      type = .list (.reference tables start stored)) ∧ table ∈ tables := by
  unfold refersTo at refers
  split at refers
  · rename_i tables start stored
    exact ⟨tables, start, stored, Or.inl rfl, by simpa using refers⟩
  · rename_i tables start stored
    exact ⟨tables, start, stored, Or.inr rfl, by simpa using refers⟩
  · cases refers

/-- A derived field without violations lists an entity with a column that refers back. -/
theorem backColumn_of_relationViolations {type : ObjectType} {field : Field}
    (fine : document.relationViolations type field = []) :
    ∃ listed column, document.entity? field.type.baseName = some listed ∧
      (document.entityColumns listed).find? (·.name == storeName field.backField) = some column ∧
      column.type.refersTo type.table = true := by
  unfold Document.relationViolations at fine
  simp only [] at fine
  split at fine
  · split at fine <;> cases fine
  · rename_i listed found
    split at fine
    · cases fine
    · rename_i column back
      split at fine
      · rename_i refers
        exact ⟨listed, column, found, back, refers⟩
      · cases fine

/-- Every layout that is built has one relation for each derived field and no other, in the order of the fields, under
`id` of the table of their entity. The column that a relation leads back by is there and refers to that table. -/
theorem relations_accounted (success : Layout.ofDocument document = .ok layout) :
    RelationsAccounted document layout := by
  obtain ⟨sound, rfl⟩ := declared_of_success success
  refine ⟨?_, ?_, ?_⟩
  · simp only [Document.declaredLayout, List.map_map, ← relations_eq]
    rfl
  · intro type member
    exact ⟨document.declaredTable type, sound.table?_declared member, relations_eq type⟩
  · intro type member field derived
    obtain ⟨listed, column, found, back, refers⟩ :=
      backColumn_of_relationViolations (sound.related type member field derived)
    obtain ⟨tables, start, stored, shape, refers⟩ := ColumnType.reference_of_refersTo refers
    have listedTable : field.relation.table = listed.table := (table_of_entity? document found).symm
    have listedMember : listed ∈ document.entityTypes := List.mem_of_find?_eq_some found
    -- The column was checked before the searches added theirs, which only come behind it.
    refine ⟨document.declaredTable listed, column, tables, start, stored, ?_, ?_, shape, refers⟩
    · rw [listedTable]
      exact sound.table?_declared listedMember
    · have kept : (document.declaredTable listed).column? (storeName field.backField) = some column := by
        unfold Table.column? Document.declaredTable
        rw [List.find?_append, back]
        rfl
      exact kept

/-- Owners have the only relation, to the tokens that they hold. -/
theorem relations_accounted_tokens :
    Layout.ofDocument tokenSchema = .ok tokenLayout ∧ RelationsAccounted tokenSchema tokenLayout :=
  ⟨tokenLayout_built, relations_accounted tokenLayout_built⟩

end

end EntityLayout
