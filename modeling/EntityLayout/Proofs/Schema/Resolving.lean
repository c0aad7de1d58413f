import EntityLayout.Proofs.FirstViolation
import EntityLayout.Schema.Registry
import Mathlib.Logic.Function.Iterate

/-!
# Resolving types

A declared type resolves to what its base name stands for, in as many lists as it has, so that every
reference in it leads to the identifiers of tables.
-/
namespace EntityLayout

namespace ColumnType

/-- The type inside all lists. -/
def leaf : ColumnType → ColumnType
  | .list element => element.leaf
  | type => type

/-- Lists around a type do not change its leaf. -/
theorem leaf_lists (lists : Nat) (type : ColumnType) : (list^[lists] type).leaf = type.leaf := by
  induction lists generalizing type with
  | zero => rfl
  | succ lists ih => exact ih (.list type)

/-- A reference that stands by itself or in one list is the type inside all lists. -/
theorem leaf_of_reference? {type : ColumnType} {tables : List String} {column : String}
    (refers : type.reference? = some (tables, column)) :
    ∃ stored, type.leaf = .reference tables column stored := by
  unfold reference? at refers
  split at refers
  · rename_i _ _ stored
    cases refers
    exact ⟨stored, rfl⟩
  · rename_i _ _ stored
    cases refers
    exact ⟨stored, rfl⟩
  · cases refers

end ColumnType

namespace TypeRef

/-- The type without its required marks. -/
def unmarked : TypeRef → TypeRef
  | .named name => .named name
  | .list element => .list element.unmarked
  | .nonNull type => type.unmarked

/-- How many lists the base name stands in. -/
def lists : TypeRef → Nat
  | .named _ => 0
  | .list element => element.lists + 1
  | .nonNull type => type.lists

/-- Required marks do not change the name that a type is made of. -/
theorem baseName_unmarked (type : TypeRef) : type.unmarked.baseName = type.baseName := by
  induction type with
  | named name => rfl
  | list element ih => exact ih
  | nonNull type ih => exact ih

theorem lists_unmarked (type : TypeRef) : type.unmarked.lists = type.lists := by
  induction type with
  | named name => rfl
  | list element ih => exact congrArg (· + 1) ih
  | nonNull type ih => exact ih

/-- A type resolves to what its base name stands for, in as many lists as the name stands in. -/
theorem resolve_eq_map (registry : Registry) (type : TypeRef) :
    registry.resolve type = (registry.resolveName type.baseName).map ColumnType.list^[type.lists] := by
  induction type with
  | named name =>
    rw [Registry.resolve, baseName, lists, Function.iterate_zero]
    cases registry.resolveName name <;> rfl
  | list element ih =>
    rw [Registry.resolve, ih, baseName, lists, Function.iterate_succ']
    cases registry.resolveName element.baseName <;> rfl
  | nonNull type ih => exact ih

/-- So required marks make no difference to what a type resolves to. -/
theorem resolve_unmarked (registry : Registry) (type : TypeRef) :
    registry.resolve type.unmarked = registry.resolve type := by
  rw [resolve_eq_map, resolve_eq_map, baseName_unmarked, lists_unmarked]

end TypeRef

namespace Registry

/-- What a name can stand for. -/
theorem resolveName_cases {registry : Registry} {name : String} {column : ColumnType}
    (success : registry.resolveName name = .ok column) :
    (∃ type, builtinType? name = some type ∧ column = .scalar type) ∨
      (name ∈ registry.enums ∧ column = .enum (storeName name)) ∨
      (name ∈ registry.entities ∧ column = .toTables [storeName name]) ∨
      ∃ tables, tables ≠ [] ∧ registry.interfaces.lookup name = some tables ∧ column = .toTables tables := by
  unfold resolveName at success
  split at success
  · rename_i type builtin
    cases success
    exact Or.inl ⟨type, builtin, rfl⟩
  · split at success
    · rename_i declared
      cases success
      exact Or.inr (Or.inl ⟨declared, rfl⟩)
    · split at success
      · rename_i declared
        cases success
        exact Or.inr (Or.inr (Or.inl ⟨declared, rfl⟩))
      · split at success
        · cases success
        · cases success
        · rename_i tables found
          cases success
          exact Or.inr (Or.inr (Or.inr ⟨_, by assumption, found, rfl⟩))

/-- A name never stands for a list. -/
theorem leaf_of_resolveName {registry : Registry} {name : String} {column : ColumnType}
    (success : registry.resolveName name = .ok column) : column.leaf = column := by
  rcases resolveName_cases success with
    ⟨type, _, rfl⟩ | ⟨_, rfl⟩ | ⟨_, rfl⟩ | ⟨tables, _, _, rfl⟩ <;> rfl

/-- Lists and required marks do not matter to what a type is made of. -/
theorem resolve_leaf {registry : Registry} {type : TypeRef} {column : ColumnType}
    (success : registry.resolve type = .ok column) :
    registry.resolveName type.baseName = .ok column.leaf := by
  rw [TypeRef.resolve_eq_map, map_eq_ok_iff] at success
  obtain ⟨base, named, rfl⟩ := success
  rw [ColumnType.leaf_lists, leaf_of_resolveName named]
  exact named

/-- A reference leads to identifiers, which are texts. -/
theorem reference_of_resolveName {registry : Registry} {name : String} {tables : List String}
    {column : String} {stored : SqlType}
    (success : registry.resolveName name = .ok (.reference tables column stored)) :
    column = idField ∧ stored = .text := by
  rcases resolveName_cases success with
    ⟨type, _, same⟩ | ⟨_, same⟩ | ⟨_, same⟩ | ⟨tables, _, _, same⟩
  · cases same
  · cases same
  · cases same
    exact ⟨rfl, rfl⟩
  · cases same
    exact ⟨rfl, rfl⟩

end Registry

end EntityLayout
