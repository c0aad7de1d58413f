import EntityLayout.Layout.Build
import EntityLayout.Proofs.Calls
import EntityLayout.Proofs.UniqueKeys
import Mathlib.Data.List.Induction

/-!
# Appending to tables

Columns and relations are appended to a new table in any order, and the appends go on behind a column that is refused.
`Grown` says what the table then holds, in terms of the appends alone. Each append keeps it (`Grown.append`), so that
every run of appends does (`table_grown`).
-/
namespace EntityLayout

section
variable {α : Type} (key : String) (item : α) (lists : List (String × List α))

/-- A key keeps its place when something is added under it, and a new one comes last. -/
theorem keys_addUnder : (addUnder key item lists).map Prod.fst =
    if key ∈ lists.map Prod.fst then lists.map Prod.fst else lists.map Prod.fst ++ [key] := by
  induction lists with
  | nil => rfl
  | cons entry rest ih =>
    obtain ⟨other, items⟩ := entry
    rw [addUnder]
    by_cases same : other = key
    · simp [same]
    · have different : key ≠ other := Ne.symm same
      rw [if_neg same, List.map_cons, ih]
      by_cases known : key ∈ rest.map Prod.fst
      · simp [known]
      · simp [known, different]

/-- Something added under a key comes last there and changes nothing under the other keys. -/
theorem lookup_addUnder (wanted : String) : (addUnder key item lists).lookup wanted =
    if wanted = key then some ((lists.lookup key).getD [] ++ [item]) else lists.lookup wanted := by
  induction lists with
  | nil =>
    by_cases same : wanted = key
    · simp [addUnder, same]
    · simp [addUnder, same]
  | cons entry rest ih =>
    obtain ⟨other, items⟩ := entry
    rw [addUnder]
    by_cases here : other = key
    · subst here
      by_cases same : wanted = other
      · simp [same]
      · simp [List.lookup_cons, same, beq_false_of_ne same]
    · rw [if_neg here, List.lookup_cons, List.lookup_cons, ih]
      by_cases same : wanted = key
      · subst same
        simp [beq_false_of_ne (Ne.symm here)]
      · simp [List.lookup_cons, same]

end

namespace Table

/-- Something that is appended to a table. -/
inductive Append where
  | column (added : Column)
  | relation (start : String) (added : Relation)
  deriving DecidableEq, Repr

/-- Appends to the table in place. -/
def Append.run : Append → EStateM SchemaError Table Unit
  | .column added => do
    match (← get).addColumn added with
    | .ok grown => set grown
    | .error cause => throw cause
  | .relation start added => modify (·.addRelation start added)

/-- The table behind some appends, with what those that failed have left. -/
def after (table : Table) (history : List Append) : Table :=
  history.foldl (fun table append => leftBy (append.run table)) table

/-- The columns whose names are not taken when they come. -/
def freshColumns (taken : List String) : List Append → List Column
  | [] => []
  | .column added :: history =>
    if added.name ∈ taken then freshColumns taken history
    else added :: freshColumns (taken ++ [added.name]) history
  | .relation _ _ :: history => freshColumns taken history

/-- The relations that are appended under a column. -/
def relationsUnder (start : String) (history : List Append) : List Relation :=
  history.filterMap fun
    | .relation other added => if other = start then some added else none
    | .column _ => none

/-- The columns under which relations are appended, each as often as they are. -/
def starts (history : List Append) : List String :=
  history.filterMap fun
    | .relation start _ => some start
    | .column _ => none

/-- What a table holds behind a history of appends to a new one. -/
structure Grown (name : String) (immutable timeseries : Bool) (history : List Append) (table : Table) : Prop where
  named : table.name = name
  flagged : table.immutable = immutable ∧ table.timeseries = timeseries
  columns : table.columns = [.vid, .blockRange] ++ freshColumns [vidColumn, blockRangeColumn] history
  unique : table.columnNames.Nodup
  relations : ∀ start, table.relationsOf? start =
    if relationsUnder start history = [] then none else some (relationsUnder start history)
  keys : table.relations.map Prod.fst = (starts history).eraseDups

/-- One more append works on what all those in front of it have left. -/
theorem after_concat (table : Table) (history : List Append) (append : Append) :
    table.after (history ++ [append]) = leftBy (append.run (table.after history)) := by
  rw [after, List.foldl_append]
  rfl

theorem freshColumns_relation (taken : List String) (history : List Append) (start : String) (added : Relation) :
    freshColumns taken (history ++ [.relation start added]) = freshColumns taken history := by
  fun_induction freshColumns taken history with
  | case1 => rfl
  | case2 taken column history known ih => rw [List.cons_append, freshColumns, if_pos known, ih]
  | case3 taken column history unknown ih => rw [List.cons_append, freshColumns, if_neg unknown, ih]
  | case4 taken _ _ history ih => rw [List.cons_append, freshColumns, ih]

/-- The last column is compared with all that were there before it. -/
theorem freshColumns_column (taken : List String) (history : List Append) (added : Column) :
    freshColumns taken (history ++ [.column added]) = freshColumns taken history ++
      if added.name ∈ taken ++ (freshColumns taken history).map (·.name) then [] else [added] := by
  fun_induction freshColumns taken history with
  | case1 taken => simp [freshColumns]
  | case2 taken column history known ih => rw [List.cons_append, freshColumns, if_pos known, ih]
  | case3 taken column history unknown ih =>
    rw [List.cons_append, freshColumns, if_neg unknown, ih, List.append_assoc taken]
    rfl
  | case4 taken _ _ history ih => rw [List.cons_append, freshColumns, ih]

theorem relationsUnder_column (start : String) (history : List Append) (added : Column) :
    relationsUnder start (history ++ [.column added]) = relationsUnder start history := by
  rw [relationsUnder, List.filterMap_append, List.filterMap_cons, List.filterMap_nil, List.append_nil]
  rfl

theorem relationsUnder_relation (start : String) (history : List Append) (other : String) (added : Relation) :
    relationsUnder start (history ++ [.relation other added]) =
      relationsUnder start history ++ if other = start then [added] else [] := by
  by_cases same : other = start
  · simp [relationsUnder, same]
  · simp [relationsUnder, same]

theorem starts_column (history : List Append) (added : Column) :
    starts (history ++ [.column added]) = starts history := by
  rw [starts, List.filterMap_append, List.filterMap_cons, List.filterMap_nil, List.append_nil]
  rfl

theorem starts_relation (history : List Append) (start : String) (added : Relation) :
    starts (history ++ [.relation start added]) = starts history ++ [start] :=
  List.filterMap_append

/-- A key that comes again adds nothing to those that were used first. -/
theorem eraseDups_concat (keys : List String) (key : String) :
    (keys ++ [key]).eraseDups = if key ∈ keys then keys.eraseDups else keys.eraseDups ++ [key] := by
  rw [List.eraseDups_append]
  by_cases known : key ∈ keys
  · simp [List.removeAll, known]
  · simp [List.removeAll, known, List.eraseDups_cons]

section
variable (table : Table)

/-- A column whose name is taken is refused, and the table stays as it was. -/
theorem run_refused {added : Column} (taken : added.name ∈ table.columnNames) :
    (Append.column added).run table = .error (.duplicateName (.column table.name added.name)) table := by
  have refused : table.addColumn added = .error (.duplicateName (.column table.name added.name)) := by
    rw [addColumn, addColumn?, if_pos taken]
  change (match table.addColumn added with
    | .ok grown => set grown
    | .error cause => throw cause : EStateM SchemaError Table Unit) table = _
  rw [refused]
  rfl

/-- A column whose name is not taken comes last, and nothing else changes. -/
theorem run_accepted {added : Column} (fresh : added.name ∉ table.columnNames) :
    (Append.column added).run table = .ok () { table with columns := table.columns ++ [added] } := by
  have grown : table.addColumn added = .ok { table with columns := table.columns ++ [added] } := by
    rw [addColumn, addColumn?, if_neg fresh]
  change (match table.addColumn added with
    | .ok grown => set grown
    | .error cause => throw cause : EStateM SchemaError Table Unit) table = _
  rw [grown]
  rfl

/-- A column is refused just where its name is there already, and the table then stays as it is. -/
theorem run_error_iff {added : Column} {cause : SchemaError} {left : Table} :
    (Append.column added).run table = .error cause left ↔
      added.name ∈ table.columnNames ∧ cause = .duplicateName (.column table.name added.name) ∧ left = table := by
  by_cases taken : added.name ∈ table.columnNames
  · rw [run_refused table taken]
    constructor
    · rintro ⟨⟩
      exact ⟨taken, rfl, rfl⟩
    · rintro ⟨_, rfl, rfl⟩
      rfl
  · rw [run_accepted table taken]
    exact ⟨nofun, fun given => absurd given.1 taken⟩

end

section
variable {name : String} {immutable timeseries : Bool} {history : List Append} {table : Table}

theorem grown_empty : Grown name immutable timeseries [] (empty name immutable timeseries) where
  named := rfl
  flagged := ⟨rfl, rfl⟩
  columns := rfl
  unique := by simp [columnNames, empty, Column.vid, Column.blockRange, vidColumn, blockRangeColumn]
  relations _ := rfl
  keys := rfl

theorem Grown.columnNames (grown : Grown name immutable timeseries history table) : table.columnNames =
    [vidColumn, blockRangeColumn] ++ (freshColumns [vidColumn, blockRangeColumn] history).map (·.name) := by
  rw [Table.columnNames, grown.columns]
  rfl

/-- A refused column leaves no trace in the table, nor in what the history says of it. -/
theorem Grown.refused (grown : Grown name immutable timeseries history table) {added : Column}
    (taken : added.name ∈ table.columnNames) :
    Grown name immutable timeseries (history ++ [.column added]) table := by
  refine ⟨grown.named, grown.flagged, ?_, grown.unique, fun start => ?_, ?_⟩
  · rw [freshColumns_column, ← grown.columnNames, if_pos taken, List.append_nil]
    exact grown.columns
  · rw [relationsUnder_column]
    exact grown.relations start
  · rw [starts_column]
    exact grown.keys

/-- An accepted column is one of the fresh columns of the longer history. -/
theorem Grown.accepted (grown : Grown name immutable timeseries history table) {added : Column}
    (fresh : added.name ∉ table.columnNames) :
    Grown name immutable timeseries (history ++ [.column added])
      { table with columns := table.columns ++ [added] } := by
  refine ⟨grown.named, grown.flagged, ?_, ?_, fun start => ?_, ?_⟩
  · rw [freshColumns_column, ← grown.columnNames, if_neg fresh, ← List.append_assoc, ← grown.columns]
  · rw [Table.columnNames, List.map_append]
    exact nodup_concat grown.unique fresh
  · rw [relationsUnder_column]
    exact grown.relations start
  · rw [starts_column]
    exact grown.keys

theorem Grown.related (grown : Grown name immutable timeseries history table) (start : String) (added : Relation) :
    Grown name immutable timeseries (history ++ [.relation start added]) (table.addRelation start added) := by
  refine ⟨grown.named, grown.flagged, ?_, grown.unique, fun wanted => ?_, ?_⟩
  · rw [freshColumns_relation]
    exact grown.columns
  · have before := grown.relations start
    rw [relationsOf?] at before
    rw [relationsUnder_relation, relationsOf?, addRelation, lookup_addUnder]
    by_cases same : start = wanted
    · subst same
      rw [if_pos rfl, if_pos rfl, before]
      by_cases none : relationsUnder start history = []
      · simp [none]
      · simp [none]
    · rw [if_neg (Ne.symm same), if_neg same, List.append_nil]
      exact grown.relations wanted
  · rw [starts_relation, eraseDups_concat, addRelation, keys_addUnder, grown.keys]
    simp only [List.mem_eraseDups]

/-- Every append keeps what a table holds in step with the history. -/
theorem Grown.append (grown : Grown name immutable timeseries history table) (append : Append) :
    Grown name immutable timeseries (history ++ [append]) (leftBy (append.run table)) := by
  cases append with
  | column added =>
    by_cases taken : added.name ∈ table.columnNames
    · rw [run_refused table taken]
      exact grown.refused taken
    · rw [run_accepted table taken]
      exact grown.accepted taken
  | relation start added => exact grown.related start added

/-- What a new table holds behind any history, by induction over the appends, each of which keeps `Grown`. -/
theorem grown_after (name : String) (immutable timeseries : Bool) (history : List Append) :
    Grown name immutable timeseries history ((empty name immutable timeseries).after history) := by
  induction history using List.reverseRecOn with
  | nil => exact grown_empty
  | append_singleton history append ih =>
    rw [after_concat]
    exact ih.append append

end

/-- Behind every history of appends, a new table has its name and flags, the two columns of every table and then those
columns of the history whose names were not taken, each of them under its own name, and the relations of the history
under their columns, in the order in which these were used first. Another column is refused just where its name is
taken, and the table then stays as it is. -/
theorem table_grown (name : String) (immutable timeseries : Bool) (history : List Append) :
    Grown name immutable timeseries history ((empty name immutable timeseries).after history) ∧
    (∀ column ∈ ((empty name immutable timeseries).after history).columns,
      ((empty name immutable timeseries).after history).column? column.name = some column) ∧
    (∀ added cause left,
      (Append.column added).run ((empty name immutable timeseries).after history) = .error cause left ↔
      added.name ∈ ((empty name immutable timeseries).after history).columnNames ∧
        cause = .duplicateName (.column name added.name) ∧
        left = (empty name immutable timeseries).after history) := by
  have grown := grown_after name immutable timeseries history
  refine ⟨grown, fun column member => find?_key grown.unique member, fun added cause left => ?_⟩
  rw [run_error_iff, grown.named]

end Table

end EntityLayout
