import EntityLayout.Proofs.Layout.Accounting
import EntityLayout.Proofs.Schema.Names

/-!
# Layouts are closed

The types of columns name tables, enums and other columns. Whatever a layout names in this way, it holds:
`layout_closed`. Nothing is said here about the columns of the tables that a reference leads to.
-/
namespace EntityLayout

section
variable {document : Document} {layout : Layout} {type : ObjectType} {column : Column}

/-- The columns of a finished table are those of its entity and those of the searches that include it. -/
theorem Document.mem_declaredTable :
    column ∈ (document.declaredTable type).columns ↔
      column ∈ document.entityColumns type ∨
        ∃ item ∈ document.searchIncludes, item.2.table = type.table ∧ column = item.1.column item.2 := by
  simp only [declaredTable, searchColumns, List.mem_append, List.mem_map, List.mem_filter, beq_iff_eq,
    and_assoc, eq_comm (a := column)]

/-- The columns of an entity, before the searches add theirs, name nothing but what is declared. -/
theorem Document.InOrder.declares_column (sound : document.InOrder)
    (entity : type ∈ document.entityTypes) (member : column ∈ document.entityColumns type) :
    document.Declares column.type.leaf := by
  rcases List.mem_append.mp member with common | declared
  · simp only [List.mem_cons, List.not_mem_nil, or_false] at common
    rcases common with rfl | rfl
    · exact .scalar .bigserial
    · exact .scalar .int4range
  · obtain ⟨field, given, rfl⟩ := List.mem_map.mp declared
    have resolved := sound.resolved type entity field given
    unfold Document.fieldType at resolved
    split at resolved
    · rw [← Except.ok.inj resolved]
      exact .scalar .text
    · exact document.declares_leaf resolved

/-- No column of an entity is a text search. -/
theorem Document.InOrder.entityColumn_no_search (sound : document.InOrder)
    (entity : type ∈ document.entityTypes) (member : column ∈ document.entityColumns type)
    (stored : SqlType) (language algorithm : String) (columns : List String) :
    column.type ≠ .textSearch stored language algorithm columns := by
  intro search
  have declares := sound.declares_column entity member
  rw [search] at declares
  cases declares

/-- A reference in a finished table leads to the identifiers of some entities, in their order. -/
theorem Document.InOrder.reference_tables (sound : document.InOrder)
    (entity : type ∈ document.entityTypes) (member : column ∈ (document.declaredTable type).columns)
    {tables : List String} {key : String} {stored : SqlType}
    (refers : column.type.leaf = .reference tables key stored) :
    key = idField ∧ stored = .text ∧ tables ≠ [] ∧
      tables.Sublist (document.entityTypes.map (·.table)) := by
  rcases Document.mem_declaredTable.mp member with own | ⟨_, _, _, rfl⟩
  · have declares := sound.declares_column entity own
    rw [refers] at declares
    cases declares with
    | tables given ordered => exact ⟨rfl, rfl, given, ordered⟩
  · cases refers

theorem Document.InOrder.enum_declared (sound : document.InOrder)
    (entity : type ∈ document.entityTypes) (member : column ∈ (document.declaredTable type).columns)
    {name : String} (named : column.type.leaf = .enum name) :
    ∃ enum ∈ document.enums, storeName enum.name = name := by
  rcases Document.mem_declaredTable.mp member with own | ⟨_, _, _, rfl⟩
  · have declares := sound.declares_column entity own
    rw [named] at declares
    cases declares with
    | enum declared => exact ⟨_, declared, rfl⟩
  · cases named

/-- The values of an enum are found under its store name as they are declared, since no other enum has that name. -/
theorem Document.InOrder.enumValues?_declared (sound : document.InOrder) {enum : EnumType}
    (declared : enum ∈ document.enums) :
    document.declaredLayout.enumValues? (storeName enum.name) = some enum.values :=
  lookup_key sound.enums_unique declared (·.values)

/-- The fields that a text search includes have columns of their entity. -/
theorem Document.InOrder.searched_columns (sound : document.InOrder)
    (entity : type ∈ document.entityTypes) {search : TextSearch} {included : SearchInclude}
    (member : (search, included) ∈ document.searchIncludes) (here : included.table = type.table)
    {field : String} (listed : field ∈ included.fields) :
    ∃ column ∈ document.entityColumns type, column.name = storeName field := by
  have found : document.storedIn? included.table = some type := by
    rw [here]
    exact find?_key sound.tables_unique entity
  have fine := sound.included _ member
  simp only [includeViolations, found, List.flatMap_eq_nil_iff] at fine
  have known := fine field listed
  split at known
  · rename_i given
    exact List.mem_map.mp given
  · cases known

/-- Everything that the types of columns name is in the layout. -/
structure LayoutClosed (document : Document) (layout : Layout) : Prop where
  references : ∀ table ∈ layout.tables, ∀ column ∈ table.columns, ∀ tables key stored,
    column.type.leaf = .reference tables key stored →
      tables ≠ [] ∧ tables.Nodup ∧ tables.Sublist layout.tableNames
  enums : ∀ table ∈ layout.tables, ∀ column ∈ table.columns, ∀ name,
    column.type.leaf = .enum name →
      ∃ enum ∈ document.enums, storeName enum.name = name ∧
        layout.enumValues? name = some enum.values
  searches : ∀ table ∈ layout.tables, ∀ column ∈ table.columns,
    ∀ stored language algorithm names, column.type = .textSearch stored language algorithm names →
      ∀ name ∈ names, ∃ searched, table.column? name = some searched ∧
        ∀ stored language algorithm names, searched.type ≠ .textSearch stored language algorithm names

/-- Every layout that is built holds what its column types name: the tables of references, the enums with their
values, and the columns of searches. References are covered at any depth of lists, through the leaf of the type. -/
theorem layout_closed (success : Layout.ofDocument document = .ok layout) :
    LayoutClosed document layout := by
  obtain ⟨sound, rfl⟩ := declared_of_success success
  refine ⟨?_, ?_, ?_⟩
  · intro table finished column member tables key stored refers
    obtain ⟨type, entity, rfl⟩ := List.mem_map.mp finished
    obtain ⟨_, _, given, ordered⟩ := sound.reference_tables entity member refers
    have names : document.declaredLayout.tableNames = document.entityTypes.map (·.table) := by
      simp only [Layout.tableNames, Document.declaredLayout, List.map_map]
      rfl
    rw [names]
    exact ⟨given, ordered.nodup sound.tables_unique, ordered⟩
  · intro table finished column member name named
    obtain ⟨type, entity, rfl⟩ := List.mem_map.mp finished
    obtain ⟨enum, declared, rfl⟩ := sound.enum_declared entity member named
    exact ⟨enum, declared, rfl, sound.enumValues?_declared declared⟩
  · intro table finished column member stored language algorithm names searches name listed
    obtain ⟨type, entity, rfl⟩ := List.mem_map.mp finished
    rcases Document.mem_declaredTable.mp member with own | ⟨⟨search, included⟩, given, here, rfl⟩
    · exact absurd searches (sound.entityColumn_no_search entity own _ _ _ _)
    · cases searches
      obtain ⟨field, chosen, rfl⟩ := List.mem_map.mp listed
      obtain ⟨searched, own, named⟩ := sound.searched_columns entity given here chosen
      -- The searched column was there before the searches, and no later one has its name.
      refine ⟨searched, ?_, sound.entityColumn_no_search entity own⟩
      rw [← named]
      exact find?_key (sound.columns_unique type entity) (List.mem_append_left _ own)

/-- Blocks of events of two kinds, one of which has a side and a memo that can be searched. -/
def eventSchema : Document where
  definitions := [
    .object {
      name := "Block", implements := [], directives := [⟨"entity", []⟩]
      fields := [
        ⟨"id", .nonNull (.named "Bytes"), []⟩,
        ⟨"events", .nonNull (.list (.nonNull (.named "Event"))), []⟩] },
    .interface { name := "Event", directives := [], fields := [] },
    .object {
      name := "Swap", implements := ["Event"], directives := [⟨"entity", []⟩]
      fields := [
        ⟨"id", .nonNull (.named "ID"), []⟩,
        ⟨"side", .named "TradeSide", []⟩,
        ⟨"memo", .named "String", []⟩] },
    .object {
      name := "Burn", implements := ["Event"], directives := [⟨"entity", []⟩]
      fields := [⟨"id", .nonNull (.named "ID"), []⟩] },
    .enum { name := "TradeSide", directives := [], values := ["BUY", "SELL"] },
    .object {
      name := "_Schema_", implements := [], fields := []
      directives := [⟨"fulltext", [⟨"name", .str "memos"⟩, ⟨"language", .enum "en"⟩,
        ⟨"algorithm", .enum "rank"⟩, ⟨"include", .list [.object [⟨"entity", .str "Swap"⟩,
          ⟨"fields", .list [.object [⟨"name", .str "memo"⟩]]⟩]]⟩]⟩] }]

def eventLayout : Layout where
  enums := [("trade_side", ["BUY", "SELL"])]
  tables := [
    { name := "block", immutable := false, timeseries := false
      columns := [.vid, .blockRange, ⟨"id", .scalar .text, false, false⟩,
        ⟨"events", .list (.reference ["swap", "burn"] "id" .text), false, false⟩]
      relations := [] },
    { name := "swap", immutable := false, timeseries := false
      columns := [.vid, .blockRange, ⟨"id", .scalar .text, false, false⟩,
        ⟨"side", .enum "trade_side", true, false⟩, ⟨"memo", .scalar .text, true, false⟩,
        ⟨"memos", .textSearch .tsvector "en" "rank" ["memo"], true, false⟩]
      relations := [] },
    { name := "burn", immutable := false, timeseries := false
      columns := [.vid, .blockRange, ⟨"id", .scalar .text, false, false⟩]
      relations := [] }]

theorem eventLayout_built : Layout.ofDocument eventSchema = .ok eventLayout := by
  rfl

/-- A list of references to an interface, an enum and a search, all of them closed. -/
theorem layout_closed_events :
    Layout.ofDocument eventSchema = .ok eventLayout ∧ LayoutClosed eventSchema eventLayout :=
  ⟨eventLayout_built, layout_closed eventLayout_built⟩

end

end EntityLayout
