import EntityLayout.Proofs.UniqueKeys
import EntityLayout.Proofs.Violations

/-!
# Layouts up to order

A reference leads to the tables of an interface in the order in which its implementors are declared.
`Layout.inCommonOrder` sorts these lists, and only these: the order of tables, columns, relation keys and
enums is left to `Layout.agrees`, which does not mind it.
-/
namespace EntityLayout

/-- Sorting forgets the order that names are given in. -/
theorem mergeSort_eq_of_perm {names others : List String} (permuted : names.Perm others) :
    names.mergeSort = others.mergeSort := by
  have sorted (list : List String) : list.mergeSort.Pairwise fun a b => decide (a ≤ b) = true := by
    apply List.pairwise_mergeSort
    · intro a b c
      simpa using String.le_trans
    · intro a b
      simpa using String.le_total a b
  refine List.Perm.eq_of_pairwise ?_ (sorted names) (sorted others) ?_
  · intro a b _ _ below above
    exact String.le_antisymm (by simpa using below) (by simpa using above)
  · exact ((List.mergeSort_perm names _).trans permuted).trans (List.mergeSort_perm others _).symm

/-- The type with the tables of its reference sorted by their names. -/
def ColumnType.inCommonOrder : ColumnType → ColumnType
  | .reference tables column type => .reference tables.mergeSort column type
  | .list element => .list element.inCommonOrder
  | type => type

def Column.inCommonOrder (column : Column) : Column :=
  { column with type := column.type.inCommonOrder }

def Table.inCommonOrder (table : Table) : Table :=
  { table with columns := table.columns.map Column.inCommonOrder }

def Layout.inCommonOrder (layout : Layout) : Layout :=
  { layout with tables := layout.tables.map Table.inCommonOrder }

theorem names_inCommonOrder (columns : List Column) :
    (columns.map Column.inCommonOrder).map (·.name) = columns.map (·.name) := by
  rw [List.map_map]
  rfl

theorem ColumnType.inCommonOrder_toTables_perm {tables others : List String}
    (permuted : tables.Perm others) :
    (toTables tables).inCommonOrder = (toTables others).inCommonOrder := by
  simp only [toTables, inCommonOrder, mergeSort_eq_of_perm permuted]

/-- Text stands in for a type that does not resolve, in any order. -/
theorem ColumnType.inCommonOrder_getD {ε : Type} (check : Except ε ColumnType) :
    (check.toOption.getD (.scalar .text)).inCommonOrder =
      (check.map inCommonOrder).toOption.getD (.scalar .text) := by
  cases check <;> rfl

/-- What a type refers to does not depend on the order of its tables. -/
theorem ColumnType.refersTo_inCommonOrder (type : ColumnType) (table : String) :
    type.inCommonOrder.refersTo table = type.refersTo table := by
  have sorted (tables : List String) : tables.mergeSort.contains table = tables.contains table := by
    rw [Bool.eq_iff_iff]
    simp
  cases type with
  | reference tables column stored => exact sorted tables
  | list element =>
    cases element with
    | reference tables column stored => exact sorted tables
    | _ => rfl
  | _ => rfl

section
variable {α ι : Type} {key : α → String} {same : α → α → Bool}

/-- Two lists that are made from the same items in different orders have the same entries, when the two
entries of each item are the same and no two items share a key. -/
theorem sameEntries_map {items others : List ι} {left right : ι → α} (permuted : items.Perm others)
    (unique : ((others.map right).map key).Nodup)
    (each : ∀ item ∈ items,
      key (left item) = key (right item) ∧ same (left item) (right item) = true) :
    sameEntries key same (items.map left) (others.map right) = true := by
  unfold sameEntries
  rw [Bool.and_eq_true, beq_iff_eq, List.all_eq_true]
  refine ⟨by simp [permuted.length_eq], ?_⟩
  intro entry member
  obtain ⟨item, given, rfl⟩ := List.mem_map.mp member
  obtain ⟨named, agreed⟩ := each item given
  have partner : right item ∈ others.map right :=
    List.mem_map_of_mem (permuted.mem_iff.mp given)
  rw [named, find?_key unique partner]
  exact agreed

/-- Entries with keys of their own are the same as maps in any order. -/
theorem sameEntries_of_perm {entries others : List α} (permuted : entries.Perm others)
    (unique : (others.map key).Nodup) (reflexive : ∀ entry, same entry entry = true) :
    sameEntries key same entries others = true := by
  have agreed : sameEntries key same (entries.map id) (others.map id) = true :=
    sameEntries_map permuted (by simpa using unique) fun entry _ => ⟨rfl, reflexive entry⟩
  simpa using agreed

end

end EntityLayout
