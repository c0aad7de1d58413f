import EntityLayout.Proofs.Json.Reading

/-!
# Layouts from JSON

A reader of layouts that takes the fields of every record in the order in which they are written. It undoes the
writing of every layout, so that the text of a layout tells all of it: tables, columns, relation keys and enums in
their order, and every name letter by letter (`jsonText_lossless`).
-/
namespace EntityLayout

namespace Json

def string? : Json → Option String
  | .str text => some text
  | _ => none

def items? {α : Type} (read : Json → Option α) : Json → Option (List α)
  | .arr items => items.mapM read
  | _ => none

def entries? {α : Type} (read : String × Json → Option α) : Json → Option (List α)
  | .obj entries => entries.mapM read
  | _ => none

def strings? : Json → Option (List String) :=
  items? string?

theorem mapM_map_eq_some {α β : Type} {read : β → Option α} {write : α → β}
    (reads : ∀ item, read (write item) = some item) (items : List α) :
    (items.map write).mapM read = some items := by
  induction items with
  | nil => rfl
  | cons item items ih => simp [reads item, ih]

/-- A list that was written as an array is read back when each item is. -/
theorem items?_arr {α : Type} {read : Json → Option α} {write : α → Json}
    (reads : ∀ item, read (write item) = some item) (items : List α) :
    (arr (items.map write)).items? read = some items :=
  mapM_map_eq_some reads items

theorem entries?_obj {α : Type} {read : String × Json → Option α} {write : α → String × Json}
    (reads : ∀ item, read (write item) = some item) (items : List α) :
    (obj (items.map write)).entries? read = some items :=
  mapM_map_eq_some reads items

@[simp]
theorem strings?_strings (texts : List String) : (strings texts).strings? = some texts := by
  have reads (text : String) : string? (str text) = some text := rfl
  exact items?_arr reads texts

end Json

/-- Reads a record that is kept under its own name. -/
def ofNamed? {α : Type} (name : α → String) (read : Json → Option α) (entry : String × Json) : Option α :=
  (read entry.2).filter (name · == entry.1)

def SqlType.all : List SqlType :=
  [.bigserial, .int4range, .text, .boolean, .numeric, .bytea, .integer, .int8, .tsvector, .timestamptz]

def SqlType.ofSpelling? (spelling : String) : Option SqlType :=
  SqlType.all.find? (·.spelling == spelling)

def ColumnType.ofJson? (json : Json) : Option ColumnType :=
  match json with
  | .obj [("kind", .str "scalar"), ("dbType", .str type)] => do
    some (.scalar (← SqlType.ofSpelling? type))
  | .obj [("kind", .str "enum"), ("name", .str name)] => some (.enum name)
  | .obj [("kind", .str "reference"), ("tables", tables), ("column", .str column), ("dbType", .str type)] => do
    some (.reference (← tables.strings?) column (← SqlType.ofSpelling? type))
  | .obj [("kind", .str "list"), ("element", element)] => do
    some (.list (← ofJson? element))
  | .obj [("kind", .str "textSearch"), ("dbType", .str type), ("language", .str language),
      ("algorithm", .str algorithm), ("columns", columns)] => do
    some (.textSearch (← SqlType.ofSpelling? type) language algorithm (← columns.strings?))
  | _ => none
termination_by sizeOf json

def Column.ofJson? : Json → Option Column
  | .obj [("name", .str name), ("type", type), ("nullable", .bool nullable), ("isPrimary", .bool isPrimary)] => do
    some ⟨name, ← ColumnType.ofJson? type, nullable, isPrimary⟩
  | _ => none

def RelationKind.ofText? : String → Option RelationKind
  | "one" => some .one
  | "many" => some .many
  | _ => none

def Relation.ofJson? : Json → Option Relation
  | .obj [("name", .str name), ("table", .str table), ("column", .str column), ("type", .str kind)] => do
    some ⟨name, table, column, ← RelationKind.ofText? kind⟩
  | _ => none

def Table.ofJson? : Json → Option Table
  | .obj [("name", .str name), ("immutable", .bool immutable), ("timeseries", .bool timeseries),
      ("columns", columns), ("relations", relations)] => do
    let columns ← columns.entries? (ofNamed? Column.name Column.ofJson?)
    let relations ← relations.entries? fun (column, relations) =>
      (relations.items? Relation.ofJson?).map (column, ·)
    some ⟨name, immutable, timeseries, columns, relations⟩
  | _ => none

def Layout.ofJson? : Json → Option Layout
  | .obj [("tables", tables), ("enums", enums)] => do
    let tables ← tables.entries? (ofNamed? Table.name Table.ofJson?)
    let enums ← enums.entries? fun (name, values) => values.strings?.map (name, ·)
    some ⟨tables, enums⟩
  | _ => none

/-- The layout that is written as the text. -/
def Layout.ofJsonText? (text : String) : Option Layout :=
  (Json.ofText? text).bind Layout.ofJson?

/-- No two types of the store are spelled alike. -/
@[simp]
theorem SqlType.ofSpelling?_spelling (type : SqlType) : SqlType.ofSpelling? type.spelling = some type := by
  cases type <;> rfl

/-- A column type is told by its tag, and lists by induction on the type of their elements. -/
@[simp]
theorem ColumnType.ofJson?_toJson (type : ColumnType) : ColumnType.ofJson? type.toJson = some type := by
  induction type with
  | list element ih => simp [toJson, ofJson?, ih]
  | scalar | enum | reference | textSearch => simp [toJson, ofJson?, SqlType.toJson]

@[simp]
theorem Column.ofJson?_toJson (column : Column) : Column.ofJson? column.toJson = some column := by
  simp [toJson, ofJson?]

@[simp]
theorem Relation.ofJson?_toJson (relation : Relation) : Relation.ofJson? relation.toJson = some relation := by
  obtain ⟨name, table, column, kind⟩ := relation
  cases kind <;> rfl

@[simp]
theorem Table.ofJson?_toJson (table : Table) : Table.ofJson? table.toJson = some table := by
  simp [toJson, ofJson?, ofNamed?, Json.entries?_obj, Json.items?_arr]

/-- A layout is read back from its JSON value. -/
@[simp]
theorem Layout.ofJson?_toJson (layout : Layout) : Layout.ofJson? layout.toJson = some layout := by
  simp [toJson, ofJson?, ofNamed?, Json.entries?_obj]

/-- The JSON text of a layout gives back the layout, so different layouts have different texts. -/
theorem Layout.jsonText_lossless :
    (∀ layout : Layout, Layout.ofJsonText? layout.jsonText = some layout) ∧
      Function.Injective Layout.jsonText := by
  have reads (layout : Layout) : Layout.ofJsonText? layout.jsonText = some layout := by
    rw [ofJsonText?, jsonText, Json.ofText?_text, Option.bind_some, ofJson?_toJson]
  refine ⟨reads, fun layout other same => ?_⟩
  have read := reads other
  rw [← same, reads layout] at read
  exact Option.some.inj read

end EntityLayout
