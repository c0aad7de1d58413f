import EntityLayout.Proofs.Layout.Closed

/-!
# Identifiers

References lead to the column `id` of a table, and relations start from it. Every entity must have a field
`id`, but a derived field counts as one and gets no column, and a field `id` that is not required gets a
nullable column. So a table need not have the identifier that others refer to: `identifiers_exact` and
`keys_resolve_iff` say for which documents it has.
-/
namespace EntityLayout

section
variable {document : Document} {layout : Layout} {type : ObjectType} {column : Column}

/-- The column by which other tables refer to the rows of a table. -/
def Column.identifier : Column := ⟨idField, .scalar .text, false, false⟩

def Table.Identified (table : Table) : Prop :=
  table.column? idField = some .identifier

instance (table : Table) : Decidable table.Identified :=
  inferInstanceAs (Decidable (_ = _))

/-- Whether one of the fields is stored as a text under `id`. -/
def Document.StoresTextId (document : Document) (type : ObjectType) : Prop :=
  ∃ field ∈ type.storedFields, storeName field.name = idField ∧
    document.fieldType field = .ok (.scalar .text)

/-- The same, for a field that is required. -/
def Document.StoresRequiredId (document : Document) (type : ObjectType) : Prop :=
  ∃ field ∈ type.storedFields, storeName field.name = idField ∧
    document.fieldType field = .ok (.scalar .text) ∧ field.type.isRequired = true

/-- The name `id` is its own store name. -/
theorem storeName_idField : storeName idField = idField := by
  rfl

/-- Under the store name of a stored field its own column is found, since no two columns share a name. -/
theorem Document.InOrder.column?_stored (sound : document.InOrder)
    (entity : type ∈ document.entityTypes) {field : Field} (stored : field ∈ type.storedFields) :
    (document.declaredTable type).column? (storeName field.name) = some (document.fieldColumn field) := by
  have own : document.fieldColumn field ∈ document.entityColumns type :=
    List.mem_append_right _ (List.mem_map_of_mem stored)
  exact find?_key (sound.columns_unique type entity) (List.mem_append_left _ own)

/-- A text column that is not common to all tables belongs to a stored field. -/
theorem field_of_textColumn (found : (document.declaredTable type).column? idField = some column)
    (text : column.type = .scalar .text) :
    ∃ field ∈ type.storedFields, storeName field.name = idField ∧ document.fieldColumn field = column := by
  have named : column.name = idField := by simpa using List.find?_some found
  rcases Document.mem_declaredTable.mp (List.mem_of_find?_eq_some found) with own | ⟨_, _, _, rfl⟩
  · rcases List.mem_append.mp own with common | declared
    · simp only [List.mem_cons, List.not_mem_nil, or_false] at common
      rcases common with rfl | rfl <;> cases text
    · obtain ⟨field, stored, rfl⟩ := List.mem_map.mp declared
      exact ⟨field, stored, named, rfl⟩
  · cases text

theorem fieldColumn_text {field : Field} (text : document.fieldType field = .ok (.scalar .text)) :
    document.fieldColumn field = ⟨storeName field.name, .scalar .text, !field.type.isRequired, false⟩ := by
  simp [Document.fieldColumn, text, Except.toOption]

theorem Document.InOrder.fieldType_of_textColumn (sound : document.InOrder)
    (entity : type ∈ document.entityTypes) {field : Field} (stored : field ∈ type.storedFields)
    (text : (document.fieldColumn field).type = .scalar .text) :
    document.fieldType field = .ok (.scalar .text) := by
  rw [sound.resolved type entity field stored, text]

/-- The table of an entity has a text column `id` exactly when one of its stored fields gives that column. -/
theorem Document.InOrder.textId_iff (sound : document.InOrder) (entity : type ∈ document.entityTypes) :
    (∃ found, (document.declaredTable type).column? idField = some found ∧ found.type = .scalar .text) ↔
      document.StoresTextId type := by
  constructor
  · intro given
    rcases given with ⟨column, found, text⟩
    obtain ⟨field, stored, named, rfl⟩ := field_of_textColumn found text
    exact ⟨field, stored, named, sound.fieldType_of_textColumn entity stored text⟩
  · intro stores
    rcases stores with ⟨field, stored, named, text⟩
    have found := sound.column?_stored entity stored
    rw [named] at found
    exact ⟨_, found, by rw [fieldColumn_text text]⟩

/-- The column `id` must not be nullable either, so the field that gives it has to be required. -/
theorem Document.InOrder.identified_iff (sound : document.InOrder)
    (entity : type ∈ document.entityTypes) :
    (document.declaredTable type).Identified ↔ document.StoresRequiredId type := by
  constructor
  · intro identified
    obtain ⟨field, stored, named, same⟩ := field_of_textColumn identified rfl
    have text := sound.fieldType_of_textColumn entity stored (by rw [same]; rfl)
    refine ⟨field, stored, named, text, ?_⟩
    rw [fieldColumn_text text] at same
    simpa [Column.identifier] using congrArg Column.nullable same
  · intro stores
    rcases stores with ⟨field, stored, named, text, required⟩
    have found := sound.column?_stored entity stored
    rw [fieldColumn_text text, named, required] at found
    exact found

/-- A stored field `id` gives a text column whatever its declared type, which is nullable unless the field
is required. All tables have the identifier they should have exactly when every entity stores a required
text under `id`. -/
theorem identifiers_exact (success : Layout.ofDocument document = .ok layout) :
    (∀ type ∈ document.entityTypes, ∀ field ∈ type.storedFields, field.name = idField →
      ∃ table, layout.table? (storeName type.name) = some table ∧
        table.column? idField = some ⟨idField, .scalar .text, !field.type.isRequired, false⟩) ∧
    ((∀ table ∈ layout.tables, table.Identified) ↔
      ∀ type ∈ document.entityTypes, document.StoresRequiredId type) := by
  obtain ⟨sound, rfl⟩ := declared_of_success success
  refine ⟨?_, ?_⟩
  · intro type entity field stored identifier
    refine ⟨document.declaredTable type, sound.table?_declared entity, ?_⟩
    have found := sound.column?_stored entity stored
    rw [fieldColumn_text (if_pos identifier), identifier, storeName_idField] at found
    exact found
  · constructor
    · intro identified type entity
      exact (sound.identified_iff entity).mp (identified _ (List.mem_map_of_mem entity))
    · intro stores table finished
      obtain ⟨type, entity, rfl⟩ := List.mem_map.mp finished
      exact (sound.identified_iff entity).mpr (stores type entity)

theorem tokens_store_ids : ∀ type ∈ tokenSchema.entityTypes, tokenSchema.StoresRequiredId type := by
  refine List.forall_mem_cons.mpr ⟨?_, List.forall_mem_cons.mpr ⟨?_, nofun⟩⟩
  · exact ⟨_, List.mem_cons_self .., rfl, rfl, rfl⟩
  · exact ⟨_, List.mem_cons_self .., rfl, rfl, rfl⟩

/-- Both tables of owners and tokens have their identifier. -/
theorem identifiers_exact_tokens :
    Layout.ofDocument tokenSchema = .ok tokenLayout ∧ ∀ table ∈ tokenLayout.tables, table.Identified :=
  ⟨tokenLayout_built, (identifiers_exact tokenLayout_built).2.mpr tokens_store_ids⟩

/-- An entity whose `id` may be null. -/
def nullableIdSchema : Document where
  definitions := [
    .object {
      name := "Account", implements := [], directives := [⟨"entity", []⟩]
      fields := [⟨"id", .named "ID", []⟩] }]

/-- The layout is built although the only table has a nullable `id`. -/
theorem nullable_id_not_identified :
    ∃ layout, Layout.ofDocument nullableIdSchema = .ok layout ∧
      ¬∀ table ∈ layout.tables, table.Identified := by
  refine ⟨⟨[{
    name := "account", immutable := false, timeseries := false
    columns := [.vid, .blockRange, ⟨"id", .scalar .text, true, false⟩], relations := [] }], []⟩, rfl, ?_⟩
  decide

/-- The key of every reference is a column of the stored type in all of the tables that it leads to, and
relations start from columns of their own table. -/
structure KeysResolve (layout : Layout) : Prop where
  references : ∀ table ∈ layout.tables, ∀ column ∈ table.columns, ∀ tables key stored,
    column.type.leaf = .reference tables key stored →
      ∀ name ∈ tables, ∃ target found, layout.table? name = some target ∧
        target.column? key = some found ∧ found.type = .scalar stored
  starts : ∀ table ∈ layout.tables, ∀ entry ∈ table.relations,
    ∃ found, table.column? entry.1 = some found

/-- Whether some column refers to the table of the name. -/
def Layout.RefersTo (layout : Layout) (name : String) : Prop :=
  ∃ table ∈ layout.tables, ∃ column ∈ table.columns, ∃ tables key stored,
    column.type.leaf = .reference tables key stored ∧ name ∈ tables

/-- A type that refers to a table has a reference that leads there as its leaf. -/
theorem ColumnType.leaf_of_refersTo {table : String} {type : ColumnType}
    (refers : type.refersTo table = true) :
    ∃ tables key stored, type.leaf = .reference tables key stored ∧ table ∈ tables := by
  obtain ⟨tables, key, stored, shape, member⟩ := reference_of_refersTo refers
  rcases shape with rfl | rfl
  · exact ⟨tables, key, stored, rfl, member⟩
  · exact ⟨tables, key, stored, rfl, member⟩

/-- The column that a derived field starts from refers to the table of the field. -/
theorem Document.InOrder.refersTo_of_derived (sound : document.InOrder)
    (entity : type ∈ document.entityTypes) {field : Field} (derived : field ∈ type.derivedFields) :
    document.declaredLayout.RefersTo type.table := by
  obtain ⟨listed, column, found, back, refers⟩ :=
    backColumn_of_relationViolations (sound.related type entity field derived)
  obtain ⟨tables, key, stored, leaf, member⟩ := ColumnType.leaf_of_refersTo refers
  refine ⟨document.declaredTable listed, List.mem_map_of_mem (List.mem_of_find?_eq_some found),
    column, ?_, tables, key, stored, leaf, member⟩
  exact List.mem_append_left _ (List.mem_of_find?_eq_some back)

/-- Keys resolve exactly when every entity that some column refers to stores a text under `id`. -/
theorem keys_resolve_iff (success : Layout.ofDocument document = .ok layout) :
    KeysResolve layout ↔
      ∀ type ∈ document.entityTypes, layout.RefersTo (storeName type.name) →
        document.StoresTextId type := by
  obtain ⟨sound, rfl⟩ := declared_of_success success
  constructor
  · intro resolve type entity referred
    rcases referred with ⟨table, finished, column, member, tables, key, stored, leaf, listed⟩
    obtain ⟨target, found, looked, keyed, text⟩ :=
      resolve.references table finished column member tables key stored leaf _ listed
    obtain ⟨owner, declared, rfl⟩ := List.mem_map.mp finished
    obtain ⟨rfl, rfl, _, _⟩ := sound.reference_tables declared member leaf
    cases looked.symm.trans (sound.table?_declared entity)
    exact (sound.textId_iff entity).mp ⟨found, keyed, text⟩
  · intro stores
    refine ⟨?_, ?_⟩
    · intro table finished column member tables key stored leaf name listed
      obtain ⟨owner, declared, rfl⟩ := List.mem_map.mp finished
      obtain ⟨rfl, rfl, _, ordered⟩ := sound.reference_tables declared member leaf
      obtain ⟨type, entity, rfl⟩ := List.mem_map.mp (ordered.subset listed)
      have text := stores type entity ⟨_, finished, column, member, tables, _, _, leaf, listed⟩
      obtain ⟨found, keyed, textual⟩ := (sound.textId_iff entity).mpr text
      exact ⟨_, found, sound.table?_declared entity, keyed, textual⟩
    · intro table finished entry recorded
      obtain ⟨type, entity, rfl⟩ := List.mem_map.mp finished
      change entry ∈ type.relations at recorded
      rw [relations_eq] at recorded
      split at recorded
      · cases recorded
      · rename_i given
        obtain ⟨field, derived⟩ := List.exists_mem_of_ne_nil _ given
        have text := stores type entity (sound.refersTo_of_derived entity derived)
        obtain ⟨found, keyed, _⟩ := (sound.textId_iff entity).mpr text
        rw [List.mem_singleton.mp recorded]
        exact ⟨found, keyed⟩

/-- All references and relations of owners and tokens lead to columns that are there. -/
theorem keys_resolve_tokens :
    Layout.ofDocument tokenSchema = .ok tokenLayout ∧ KeysResolve tokenLayout := by
  refine ⟨tokenLayout_built, (keys_resolve_iff tokenLayout_built).mpr ?_⟩
  intro type entity _
  obtain ⟨field, stored, named, text, _⟩ := tokens_store_ids type entity
  exact ⟨field, stored, named, text⟩

/-- Books refer to their author, whose `id` is derived from the books. -/
def derivedIdSchema : Document where
  definitions := [
    .object {
      name := "Author", implements := [], directives := [⟨"entity", []⟩]
      fields := [⟨"id", .nonNull (.named "Book"), [⟨"derivedFrom", [⟨"field", .str "author"⟩]⟩]⟩] },
    .object {
      name := "Book", implements := [], directives := [⟨"entity", []⟩]
      fields := [
        ⟨"id", .nonNull (.named "ID"), []⟩,
        ⟨"author", .nonNull (.named "Author"), []⟩] }]

def derivedIdLayout : Layout where
  enums := []
  tables := [
    { name := "author", immutable := false, timeseries := false
      columns := [.vid, .blockRange]
      relations := [("id", [⟨"id", "book", "author", .one⟩])] },
    { name := "book", immutable := false, timeseries := false
      columns := [.vid, .blockRange, ⟨"id", .scalar .text, false, false⟩,
        ⟨"author", .reference ["author"] "id" .text, false, false⟩]
      relations := [] }]

/-- The layout is built, and the relation of the first table starts from a column that it does not have. -/
theorem derived_id_not_resolved :
    Layout.ofDocument derivedIdSchema = .ok derivedIdLayout ∧ ¬KeysResolve derivedIdLayout := by
  refine ⟨rfl, ?_⟩
  intro resolve
  obtain ⟨found, keyed⟩ := resolve.starts _ (List.mem_cons_self ..) _ (List.mem_cons_self ..)
  cases keyed

end

end EntityLayout
