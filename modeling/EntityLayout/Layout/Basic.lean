/-!
# Relational layouts

The tables that store the entities of a schema, with their columns and relations, and the enum types
that the columns use. Tables and columns stand in the order of their declaration, each under its own
name.
-/
namespace EntityLayout

/-- The row number of every table, its primary key. -/
def vidColumn : String := "vid"

/-- The column of every table that holds the range of blocks in which a row is valid. -/
def blockRangeColumn : String := "block_range"

/-- The field by which entities refer to each other. -/
def idField : String := "id"

/-- The storage types that a column can have. -/
inductive SqlType where
  | bigserial | int4range | text | boolean | numeric | bytea | integer | int8 | tsvector | timestamptz
  deriving DecidableEq, Repr

def SqlType.spelling : SqlType → String
  | .bigserial => "bigserial"
  | .int4range => "int4range"
  | .text => "text"
  | .boolean => "boolean"
  | .numeric => "numeric"
  | .bytea => "bytea"
  | .integer => "integer"
  | .int8 => "int8"
  | .tsvector => "tsvector"
  | .timestamptz => "timestamptz"

/-- The type of a column. A reference points at the `column` of one of several tables: an entity is
stored in one table, an interface in those of all its implementors. -/
inductive ColumnType where
  | scalar (type : SqlType)
  | enum (name : String)
  | reference (tables : List String) (column : String) (type : SqlType)
  | list (element : ColumnType)
  | textSearch (type : SqlType) (language algorithm : String) (columns : List String)
  deriving DecidableEq, Repr

namespace ColumnType

/-- The storage type of a column that has a single one: enums and lists have types of their own. -/
def sqlType? : ColumnType → Option SqlType
  | .scalar type => some type
  | .reference _ _ type => some type
  | .textSearch type _ _ _ => some type
  | .enum _ => none
  | .list _ => none

/-- The tables and the column that a type refers to, itself or as the elements of a list. -/
def reference? : ColumnType → Option (List String × String)
  | .reference tables column _ => some (tables, column)
  | .list (.reference tables column _) => some (tables, column)
  | _ => none

end ColumnType

structure Column where
  name : String
  type : ColumnType
  nullable : Bool
  isPrimary : Bool
  deriving DecidableEq, Repr

namespace Column

def vid : Column := ⟨vidColumn, .scalar .bigserial, false, true⟩

def blockRange : Column := ⟨blockRangeColumn, .scalar .int4range, false, false⟩

end Column

inductive RelationKind where
  | one | many
  deriving DecidableEq, Repr

def RelationKind.text : RelationKind → String
  | .one => "one"
  | .many => "many"

/-- The rows of another table whose `column` refers to a row of this one. -/
structure Relation where
  name : String
  table : String
  column : String
  kind : RelationKind
  deriving DecidableEq, Repr

/-- Relations are kept under the column of their own table that they start from. -/
structure Table where
  name : String
  immutable : Bool
  timeseries : Bool
  columns : List Column
  relations : List (String × List Relation)
  deriving DecidableEq, Repr

/-- Adds an item to the list under a key. A new key comes last. -/
def addUnder {α : Type} (key : String) (item : α) : List (String × List α) → List (String × List α)
  | [] => [(key, [item])]
  | (other, items) :: rest =>
    if other = key then (other, items ++ [item]) :: rest
    else (other, items) :: addUnder key item rest

namespace Table

/-- A table with the two columns that every table has. -/
def empty (name : String) (immutable timeseries : Bool) : Table :=
  ⟨name, immutable, timeseries, [.vid, .blockRange], []⟩

def column? (table : Table) (name : String) : Option Column :=
  table.columns.find? (·.name == name)

def columnNames (table : Table) : List String :=
  table.columns.map (·.name)

def primaryKey (table : Table) : List Column :=
  table.columns.filter (·.isPrimary)

def relationsOf? (table : Table) (column : String) : Option (List Relation) :=
  table.relations.lookup column

/-- The table with one more column, unless it has one of that name. -/
def addColumn? (table : Table) (column : Column) : Option Table :=
  if column.name ∈ table.columnNames then none
  else some { table with columns := table.columns ++ [column] }

def addRelation (table : Table) (column : String) (relation : Relation) : Table :=
  { table with relations := addUnder column relation table.relations }

end Table

/-- An enum is kept with its members as they are declared. -/
structure Layout where
  tables : List Table
  enums : List (String × List String)
  deriving DecidableEq, Repr

namespace Layout

def table? (layout : Layout) (name : String) : Option Table :=
  layout.tables.find? (·.name == name)

def tableNames (layout : Layout) : List String :=
  layout.tables.map (·.name)

def enumValues? (layout : Layout) (name : String) : Option (List String) :=
  layout.enums.lookup name

end Layout

/-- Whether two lists have the same entries, in any order, where every entry has a key of its own. -/
def sameEntries {α : Type} (key : α → String) (same : α → α → Bool) (xs ys : List α) : Bool :=
  xs.length == ys.length &&
    xs.all fun x => (ys.find? (key · == key x)).any (same x)

def Table.agrees (s t : Table) : Bool :=
  s.name == t.name && s.immutable == t.immutable && s.timeseries == t.timeseries &&
    sameEntries Column.name (· == ·) s.columns t.columns &&
    sameEntries Prod.fst (· == ·) s.relations t.relations

/-- Whether two layouts differ at most in the order of tables, columns, relation keys and enums. -/
def Layout.agrees (l m : Layout) : Bool :=
  sameEntries Table.name Table.agrees l.tables m.tables &&
    sameEntries Prod.fst (· == ·) l.enums m.enums

end EntityLayout
