import EntityLayout.Proofs.Schema.Resolving
import EntityLayout.Proofs.Violations

/-!
# What names stand for in a document

The names that field types can use, by the declarations that introduce them: `mem_registry_enums`,
`mem_registry_entities` and `lookup_interfaces`. A type that resolves is made of a built-in scalar, of a
declared enum, or of a reference to the tables of some entities (`declares_leaf`).
-/
namespace EntityLayout

theorem lookup_map_key {α : Type} (value : String → α) (names : List String) (name : String) :
    (names.map fun other => (other, value other)).lookup name =
      if name ∈ names then some (value name) else none := by
  induction names with
  | nil => rfl
  | cons head rest ih =>
    rw [List.map_cons, List.lookup_cons]
    by_cases same : name = head
    · simp [same]
    · rw [beq_false_of_ne same, ih]
      simp [same]

namespace Document

variable (document : Document)

theorem mem_registry_enums (name : String) :
    name ∈ document.registry.enums ↔ ∃ type ∈ document.enums, type.name = name := by
  simp [registry]

/-- Types can name the entities of the document, and no other object types. -/
theorem mem_registry_entities (name : String) :
    name ∈ document.registry.entities ↔ ∃ type ∈ document.entityTypes, type.name = name := by
  simp [registry]

/-- Declarations of an interface under the same name have the same implementors. -/
theorem lookup_interfaces (name : String) :
    document.registry.interfaces.lookup name =
      if document.isInterface name then some (document.implementors name) else none := by
  have entries : document.registry.interfaces =
      (document.interfaces.map (·.name)).reverse.map fun other => (other, document.implementors other) := by
    simp only [registry, List.map_reverse, List.map_map]
    rfl
  rw [entries, lookup_map_key]
  simp [isInterface]

/-- A type without lists that names nothing but what the document declares: an enum, or the tables of at
least one entity in their order. -/
inductive Declares : ColumnType → Prop
  | scalar (stored : SqlType) : Declares (.scalar stored)
  | enum {type : EnumType} (declared : type ∈ document.enums) : Declares (.enum (storeName type.name))
  | tables {tables : List String} (given : tables ≠ [])
      (ordered : tables.Sublist (document.entityTypes.map (·.table))) : Declares (.toTables tables)

/-- Whatever a type resolves to, its leaf is declared: the lists around it name nothing. -/
theorem declares_leaf {type : TypeRef} {column : ColumnType}
    (success : document.registry.resolve type = .ok column) : document.Declares column.leaf := by
  rcases Registry.resolveName_cases (Registry.resolve_leaf success) with
    ⟨stored, _, leaf⟩ | ⟨declared, leaf⟩ | ⟨declared, leaf⟩ | ⟨tables, given, found, leaf⟩
  · rw [leaf]
    exact .scalar stored
  · obtain ⟨enum, member, named⟩ := (document.mem_registry_enums _).mp declared
    rw [leaf, ← named]
    exact .enum member
  · obtain ⟨entity, member, named⟩ := (document.mem_registry_entities _).mp declared
    rw [leaf, ← named]
    refine .tables (by simp) ?_
    rw [List.singleton_sublist]
    exact List.mem_map_of_mem member
  · rw [lookup_interfaces] at found
    split at found
    · cases found
      rw [leaf]
      exact .tables given (List.filter_sublist.map _)
    · cases found

end Document

end EntityLayout
