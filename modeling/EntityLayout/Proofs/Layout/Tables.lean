import EntityLayout.Proofs.Violations

/-!
# Tables of entities

The table that is built for an entity has the columns that its stored fields declare, unless one of the
fields violates something (`toTable_entity`). The step lemma is `addField_eq`: after some fields, the
table has exactly their columns.
-/
namespace EntityLayout

/-- The table with further columns at the end. -/
def Table.withColumns (table : Table) (columns : List Column) : Table :=
  { table with columns := table.columns ++ columns }

theorem Table.withColumns_append (table : Table) (first second : List Column) :
    table.withColumns (first ++ second) = (table.withColumns first).withColumns second := by
  simp [withColumns]

/-- A column is refused when its name is taken. -/
theorem Table.addColumn_eq (table : Table) (column : Column) :
    table.addColumn column =
      unlessViolated
        (if column.name ∈ table.columns.map (·.name) then
          [.duplicateName (.column table.name column.name)] else [])
        (table.withColumns [column]) := by
  unfold addColumn addColumn? columnNames
  by_cases taken : column.name ∈ table.columns.map (·.name)
  · rw [if_pos taken, if_pos taken]
    rfl
  · rw [if_neg taken, if_neg taken]
    rfl

section
variable (document : Document) (type : ObjectType)

/-- The column type of a field is the resolved one, or the reason why there is none, with the name of the field. -/
theorem columnType_entity (field : Field) :
    type.entity.columnType document.registry field =
      unlessViolated ((errorOf (document.fieldType field)).map (type.unresolvedType field))
        (document.fieldColumn field).type := by
  have told : type.entity.columnType document.registry field =
      (document.fieldType field).mapError (type.unresolvedType field) := by
    unfold Entity.columnType Document.fieldType
    by_cases identifier : field.name = idField
    · rw [if_pos identifier, if_pos identifier]
      rfl
    · rw [if_neg identifier, if_neg identifier]
      rfl
  rw [told]
  apply mapError_eq_unlessViolated
  intro result resolved
  simp [Document.fieldColumn, resolved, Except.toOption]

/-- The table of the entity after some of its stored fields. -/
def tableAfter (fields : List Field) : Table :=
  (Table.empty type.table type.options.immutable type.options.timeseries).withColumns
    (fields.map document.fieldColumn)

theorem names_tableAfter (fields : List Field) :
    (tableAfter document type fields).columns.map (·.name) =
      [vidColumn, blockRangeColumn] ++ fields.map (storeName ·.name) := by
  simp only [tableAfter, Table.withColumns, Table.empty, List.map_append, List.map_map]
  rfl

/-- One more field adds its column, unless its type does not resolve or its name is taken. -/
theorem addField_eq (earlier : List Field) (field : Field) :
    type.entity.addField document.registry (tableAfter document type earlier) field =
      unlessViolated (document.fieldViolations type earlier field)
        (tableAfter document type (earlier ++ [field])) := by
  unfold Entity.addField Document.fieldViolations
  rw [columnType_entity]
  apply unlessViolated_bind
  intro _
  rw [Table.addColumn_eq, names_tableAfter]
  simp only [tableAfter, List.map_append, Table.withColumns_append]
  rfl

/-- A field `id` is looked for first, and then the columns are added field by field. -/
theorem toTable_entity :
    type.entity.toTable document.registry =
      unlessViolated (document.tableViolations type) (document.bareTable type) := by
  have identified : type.entity.fields.any (·.field.name == idField) =
      type.fields.any (·.name == idField) := by
    simp only [ObjectType.entity, List.any_map]
    rfl
  unfold Entity.toTable Document.tableViolations ObjectType.missingId
  rw [identified, type.storedFields_entity]
  by_cases given : type.fields.any (·.name == idField) = true
  · rw [if_pos given, if_pos given]
    exact foldlM_eq_unlessViolated (tableAfter document type) (addField_eq document type) []
      type.storedFields
  · rw [if_neg given, if_neg given]
    rfl

end

end EntityLayout
