import EntityLayout.Layout.Basic

/-!
# Layouts as JSON

The JSON form of a layout: objects for records and for collections under names, in their order, and
no blanks between the parts.
-/
namespace EntityLayout

inductive Json where
  | str (text : String)
  | bool (value : Bool)
  | arr (items : List Json)
  | obj (entries : List (String × Json))
  deriving Repr

namespace Json

/-- A character inside a JSON string. Only the quote, the backslash and the controls below the space
are escaped. -/
def escapedChar (c : Char) : List Char :=
  if c = '"' then ['\\', '"']
  else if c = '\\' then ['\\', '\\']
  else if c = '\x08' then ['\\', 'b']
  else if c = '\x0c' then ['\\', 'f']
  else if c = '\n' then ['\\', 'n']
  else if c = '\r' then ['\\', 'r']
  else if c = '\t' then ['\\', 't']
  else if c.toNat < 16 then ['\\', 'u', '0', '0', '0', Nat.digitChar c.toNat]
  else if c.toNat < 32 then ['\\', 'u', '0', '0', '1', Nat.digitChar (c.toNat - 16)]
  else [c]

def stringText (text : String) : List Char :=
  '"' :: text.toList.flatMap escapedChar ++ ['"']

/-- The texts of items with commas between them. -/
def separated : List (List Char) → List Char
  | [] => []
  | [text] => text
  | text :: rest => text ++ ',' :: separated rest

mutual

def text : Json → List Char
  | .str text => stringText text
  | .bool true => ['t', 'r', 'u', 'e']
  | .bool false => ['f', 'a', 'l', 's', 'e']
  | .arr items => '[' :: separated (itemTexts items) ++ [']']
  | .obj entries => '\x7b' :: separated (entryTexts entries) ++ ['\x7d']

def itemTexts : List Json → List (List Char)
  | [] => []
  | item :: rest => item.text :: itemTexts rest

def entryTexts : List (String × Json) → List (List Char)
  | [] => []
  | (key, value) :: rest => (stringText key ++ ':' :: value.text) :: entryTexts rest

end

def strings (texts : List String) : Json :=
  .arr (texts.map .str)

end Json

def SqlType.toJson (type : SqlType) : Json :=
  .str type.spelling

def ColumnType.toJson : ColumnType → Json
  | .scalar type => .obj [("kind", .str "scalar"), ("dbType", type.toJson)]
  | .enum name => .obj [("kind", .str "enum"), ("name", .str name)]
  | .reference tables column type =>
    .obj [("kind", .str "reference"), ("tables", .strings tables), ("column", .str column),
      ("dbType", type.toJson)]
  | .list element => .obj [("kind", .str "list"), ("element", element.toJson)]
  | .textSearch type language algorithm columns =>
    .obj [("kind", .str "textSearch"), ("dbType", type.toJson), ("language", .str language),
      ("algorithm", .str algorithm), ("columns", .strings columns)]

def Column.toJson (column : Column) : Json :=
  .obj [("name", .str column.name), ("type", column.type.toJson), ("nullable", .bool column.nullable),
    ("isPrimary", .bool column.isPrimary)]

def Relation.toJson (relation : Relation) : Json :=
  .obj [("name", .str relation.name), ("table", .str relation.table),
    ("column", .str relation.column), ("type", .str relation.kind.text)]

def Table.toJson (table : Table) : Json :=
  .obj [("name", .str table.name), ("immutable", .bool table.immutable),
    ("timeseries", .bool table.timeseries),
    ("columns", .obj (table.columns.map fun column => (column.name, column.toJson))),
    ("relations", .obj (table.relations.map fun (column, relations) =>
      (column, .arr (relations.map Relation.toJson))))]

def Layout.toJson (layout : Layout) : Json :=
  .obj [("tables", .obj (layout.tables.map fun table => (table.name, table.toJson))),
    ("enums", .obj (layout.enums.map fun (name, values) => (name, .strings values)))]

/-- The compact JSON text of a layout. -/
def Layout.jsonText (layout : Layout) : String :=
  String.ofList layout.toJson.text

end EntityLayout
