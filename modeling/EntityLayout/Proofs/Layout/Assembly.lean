import EntityLayout.Proofs.Layout.Linking

/-!
# Assembling the tables

What was linked is added to the tables one by one. After some additions, every table has exactly those
relations and columns that belong to it (`tablesWith`), and each addition keeps this: `apply_relation`
for relations, which never fail, and `apply_column` for columns, which fail when their name is taken.
-/
namespace EntityLayout

/-- The relations among those given that belong to the table. -/
def relationsFor (relations : List (String × Relation)) (table : String) : List Relation :=
  (relations.filter (·.1 == table)).map (·.2)

theorem addUnder_underId (relations : List Relation) (added : Relation) :
    addUnder idField added (underId relations) = underId (relations ++ [added]) := by
  cases relations with
  | nil => rfl
  | cons first rest => simp [underId, addUnder]

/-- A change that is checked for each table of the name. -/
theorem updateTable_eq {types : List ObjectType} {before after : ObjectType → Table} {name : String}
    {change : Table → Except SchemaError Table} {violations : ObjectType → List SchemaError}
    (named : ∀ type, (before type).name = type.table)
    (here : ∀ type, type.table = name → change (before type) = unlessViolated (violations type) (after type))
    (elsewhere : ∀ type, type.table ≠ name → after type = before type) :
    updateTable (types.map before) name change =
      unlessViolated (types.flatMap fun type => if type.table = name then violations type else [])
        (types.map after) := by
  unfold updateTable
  rw [List.mapM_map]
  apply mapM_eq_unlessViolated
  intro type _
  simp only [Function.comp_apply, named]
  by_cases same : type.table = name
  · rw [if_pos same, if_pos same]
    exact here type same
  · rw [if_neg same, if_neg same, elsewhere type same]
    rfl

section
variable (document : Document)

/-- The table of an entity with its share of some relations and text searches. -/
def tableWith (relations : List (String × Relation)) (includes : List (TextSearch × SearchInclude))
    (type : ObjectType) : Table :=
  { document.bareTable type with
    columns := document.entityColumns type ++ searchColumns includes type.table
    relations := underId (relationsFor relations type.table) }

def tablesWith (relations : List (String × Relation)) (includes : List (TextSearch × SearchInclude)) :
    List Table :=
  document.entityTypes.map (tableWith document relations includes)

/-- A relation goes to the table of its owner, and never fails. -/
theorem apply_relation (earlier : List (String × Relation)) (item : String × Relation) :
    Addition.apply (tablesWith document earlier []) (.relation item.1 idField item.2) =
      unlessViolated [] (tablesWith document (earlier ++ [item]) []) := by
  have nothing : (document.entityTypes.flatMap fun type =>
      if type.table = item.1 then ([] : List SchemaError) else []) = [] := by
    simp
  rw [← nothing]
  apply updateTable_eq (fun _ => rfl)
  · intro type same
    have mine : relationsFor (earlier ++ [item]) type.table =
        relationsFor earlier type.table ++ [item.2] := by
      simp [relationsFor, same]
    simp only [Table.addRelation, tableWith, mine, addUnder_underId]
    rfl
  · intro type different
    have mine : relationsFor (earlier ++ [item]) type.table = relationsFor earlier type.table := by
      simp [relationsFor, Ne.symm different]
    simp only [tableWith, mine]

/-- Only the table that the column goes into can refuse it. -/
theorem repeatedSearch_eq (unique : (document.entityTypes.map (·.table)).Nodup)
    (earlier : List (TextSearch × SearchInclude)) (item : TextSearch × SearchInclude) :
    document.repeatedSearch earlier item =
      document.entityTypes.flatMap fun type =>
        if type.table = item.2.table then
          if storeName item.1.name ∈
              (document.entityColumns type ++ searchColumns earlier type.table).map (·.name) then
            [.duplicateName (.column type.table (storeName item.1.name))]
          else []
        else [] := by
  obtain ⟨search, included⟩ := item
  unfold Document.repeatedSearch
  cases found : document.storedIn? included.table with
  | none =>
    have absent := List.find?_eq_none.mp found
    simp only [found]
    symm
    rw [List.flatMap_eq_nil_iff]
    intro type member
    rw [if_neg (by simpa using absent type member)]
  | some type =>
    have member := List.mem_of_find?_eq_some found
    have named : type.table = included.table := by simpa using List.find?_some found
    simp only [found]
    rw [← named, flatMap_key unique member]

/-- A search column goes to the table that it searches, and is refused when that table has a column of its name. Table
names have to be unique, or more than one table would be checked. -/
theorem apply_column (unique : (document.entityTypes.map (·.table)).Nodup)
    (relations : List (String × Relation)) (earlier : List (TextSearch × SearchInclude))
    (item : TextSearch × SearchInclude) :
    Addition.apply (tablesWith document relations earlier) (.column item.2.table (item.1.column item.2)) =
      unlessViolated (document.repeatedSearch earlier item)
        (tablesWith document relations (earlier ++ [item])) := by
  rw [repeatedSearch_eq document unique]
  apply updateTable_eq (fun _ => rfl)
  · intro type same
    rw [Table.addColumn_eq]
    have mine : searchColumns (earlier ++ [item]) type.table =
        searchColumns earlier type.table ++ [item.1.column item.2] := by
      simp [searchColumns, same]
    simp only [Table.withColumns, tableWith, mine, List.append_assoc]
    rfl
  · intro type different
    have mine : searchColumns (earlier ++ [item]) type.table = searchColumns earlier type.table := by
      simp [searchColumns, Ne.symm different]
    simp only [tableWith, mine]

theorem withEarlier_nothing {α ε : Type} (earlier items : List α) :
    withEarlier (fun _ _ => ([] : List ε)) earlier items = [] := by
  induction items generalizing earlier with
  | nil => rfl
  | cons item rest ih => exact ih _

theorem apply_relations (relations : List (String × Relation)) :
    (relations.map fun (owner, added) => Addition.relation owner idField added).foldlM Addition.apply
      (bareTables document) = .ok (tablesWith document relations []) := by
  have bare : bareTables document = tablesWith document [] [] := by
    simp [bareTables, tablesWith, tableWith, searchColumns, relationsFor, underId, Document.bareTable]
  rw [bare, List.foldlM_map]
  have added : (relations.foldlM (fun tables item =>
        Addition.apply tables (.relation item.1 idField item.2)) (tablesWith document [] [])) =
      unlessViolated (withEarlier (fun _ _ => []) [] relations) (tablesWith document relations []) :=
    foldlM_eq_unlessViolated (fun earlier => tablesWith document earlier []) (apply_relation document)
      [] relations
  rw [withEarlier_nothing] at added
  exact added

/-- All search columns are added, in their order, up to the first one whose name is taken. -/
theorem apply_columns (unique : (document.entityTypes.map (·.table)).Nodup)
    (relations : List (String × Relation)) (includes : List (TextSearch × SearchInclude)) :
    (includes.map fun (search, included) =>
        Addition.column included.table (search.column included)).foldlM Addition.apply
      (tablesWith document relations []) =
      unlessViolated (withEarlier document.repeatedSearch [] includes)
        (tablesWith document relations includes) := by
  rw [List.foldlM_map]
  exact foldlM_eq_unlessViolated (tablesWith document relations) (apply_column document unique relations) []
    includes

/-- Among the relations of all entities, those of one table are the ones that its entity declares. -/
theorem relationsFor_linked (unique : (document.entityTypes.map (·.table)).Nodup) {type : ObjectType}
    (member : type ∈ document.entityTypes) :
    relationsFor (linkedRelations document) type.table = type.derivedFields.map Field.relation := by
  have own (other : ObjectType) :
      relationsFor (other.derivedFields.map fun field => (other.table, field.relation)) type.table =
        if other.table = type.table then other.derivedFields.map Field.relation else [] := by
    by_cases same : other.table = type.table
    · simp only [relationsFor, List.filter_map, List.map_map, Function.comp_def, same, beq_self_eq_true,
        if_true]
      rw [List.filter_eq_self.mpr fun _ _ => rfl]
    · simp [relationsFor, same, List.filter_map, Function.comp_def]
  calc
    relationsFor (linkedRelations document) type.table
    _ = document.entityTypes.flatMap fun other =>
        relationsFor (other.derivedFields.map fun field => (other.table, field.relation)) type.table := by
      simp only [relationsFor, linkedRelations, List.filter_flatMap, List.map_flatMap]
    _ = document.entityTypes.flatMap fun other =>
        if other.table = type.table then other.derivedFields.map Field.relation else [] := by
      simp only [own]
    _ = type.derivedFields.map Field.relation := flatMap_key unique member _

/-- With all relations and columns added, the tables are those that the document declares. -/
theorem tablesWith_linked (unique : (document.entityTypes.map (·.table)).Nodup) :
    tablesWith document (linkedRelations document) document.searchIncludes =
      document.declaredLayout.tables := by
  apply List.map_congr_left
  intro type member
  rw [tableWith, relationsFor_linked document unique member]
  rfl

/-- Assembling gives the tables of the declared layout, unless two columns of a table share a name. -/
theorem apply_additions (unique : (document.entityTypes.map (·.table)).Nodup) :
    (linkedAdditions document).foldlM Addition.apply (bareTables document) =
      unlessViolated (withEarlier document.repeatedSearch [] document.searchIncludes)
        document.declaredLayout.tables := by
  rw [linkedAdditions, List.foldlM_append, apply_relations, ← tablesWith_linked document unique]
  exact apply_columns document unique _ _

end

end EntityLayout
