import EntityLayout.Proofs.Layout.CommonOrder
import EntityLayout.Proofs.Schema.Names

/-!
# Documents in another order

What becomes of the declarations of a document when its definitions are put in another order: they are
the same ones in another order, and the names of types stand for the same things (`resolve_reordered`).
Only the tables of an interface come in the new order.
-/
namespace EntityLayout

namespace Document

variable {document other : Document} (reordered : document.definitions.Perm other.definitions)
include reordered

theorem objects_perm : document.objects.Perm other.objects :=
  reordered.filterMap _

theorem interfaces_perm : document.interfaces.Perm other.interfaces :=
  reordered.filterMap _

theorem enums_perm : document.enums.Perm other.enums :=
  reordered.filterMap _

theorem entityTypes_perm : document.entityTypes.Perm other.entityTypes :=
  (objects_perm reordered).filter _

theorem searchIncludes_perm : document.searchIncludes.Perm other.searchIncludes :=
  (((objects_perm reordered).filter _).flatMap_right _).flatMap_right _

theorem isInterface_reordered (name : String) : document.isInterface name = other.isInterface name := by
  unfold isInterface
  rw [Bool.eq_iff_iff]
  simp only [List.any_eq_true, (interfaces_perm reordered).mem_iff]

/-- The tables of an interface are the same ones in another order. -/
theorem implementors_perm (interface : String) :
    (document.implementors interface).Perm (other.implementors interface) :=
  ((entityTypes_perm reordered).filter _).map _

/-- The registries resolve a name alike, up to the order of the tables of an interface. -/
theorem resolveName_reordered (name : String) :
    (document.registry.resolveName name).map ColumnType.inCommonOrder =
      (other.registry.resolveName name).map ColumnType.inCommonOrder := by
  have enums : name ∈ document.registry.enums ↔ name ∈ other.registry.enums := by
    simp only [mem_registry_enums, (enums_perm reordered).mem_iff]
  have entities : name ∈ document.registry.entities ↔ name ∈ other.registry.entities := by
    simp only [mem_registry_entities, (entityTypes_perm reordered).mem_iff]
  have tables := implementors_perm reordered name
  unfold Registry.resolveName
  simp only [enums, entities, lookup_interfaces, isInterface_reordered reordered]
  split
  · rfl
  split
  · rfl
  split
  · rfl
  by_cases interface : other.isInterface name = true
  · simp only [if_pos interface]
    generalize document.implementors name = implementors at tables
    generalize other.implementors name = others at tables
    -- The two lists are empty together, and then the interface resolves to nothing.
    cases implementors with
    | nil =>
      rw [List.nil_perm.mp tables]
    | cons first rest =>
      cases others with
      | nil => cases List.perm_nil.mp tables
      | cons => exact congrArg Except.ok (ColumnType.inCommonOrder_toTables_perm tables)
  · simp only [if_neg interface]

/-- A type resolves to the same column type up to the order of its tables, or fails in the same way. -/
theorem resolve_reordered (type : TypeRef) :
    (document.registry.resolve type).map ColumnType.inCommonOrder =
      (other.registry.resolve type).map ColumnType.inCommonOrder := by
  induction type with
  | named name => exact resolveName_reordered reordered name
  | nonNull type ih => exact ih
  | list element ih =>
    have lists (check : Except ResolveError ColumnType) :
        (check.map .list).map ColumnType.inCommonOrder =
          (check.map ColumnType.inCommonOrder).map .list := by
      cases check <;> rfl
    unfold Registry.resolve
    rw [lists, lists, ih]

end Document

end EntityLayout
