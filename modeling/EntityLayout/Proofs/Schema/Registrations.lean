import EntityLayout.Proofs.Schema.Resolving
import Mathlib.Data.List.Induction

/-!
# What a registry has been told

Names are registered one after the other, in any order and as often as one likes. What a name stands for is a matter of
the history alone (`standsFor_iff`): it does not matter how often or when an enum or an entity was registered, and of
the registrations of an interface the last one counts.
-/
namespace EntityLayout

/-- One name that a registry is told. -/
inductive Registration where
  | enum (name : String)
  | entity (name : String)
  | interface (name : String) (tables : List String)
  deriving DecidableEq, Repr

namespace Registry

def add (registry : Registry) : Registration → Registry
  | .enum name => registry.addEnum name
  | .entity name => registry.addEntity name
  | .interface name tables => registry.addInterface name tables

/-- A registry that has been told everything in a history. -/
def after (history : List Registration) : Registry :=
  history.foldl add empty

end Registry

/-- The tables with which an interface was registered at last. -/
def LastTables (history : List Registration) (name : String) (tables : List String) : Prop :=
  ∃ earlier later, history = earlier ++ .interface name tables :: later ∧ ∀ others, .interface name others ∉ later

/-- What a name stands for after a history. Each kind of name hides those below it. -/
inductive StandsFor (history : List Registration) (name : String) : Except ResolveError ColumnType → Prop
  | builtin {type : SqlType} (known : builtinType? name = some type) : StandsFor history name (.ok (.scalar type))
  | enum (foreign : builtinType? name = none) (told : .enum name ∈ history) :
      StandsFor history name (.ok (.enum (storeName name)))
  | entity (foreign : builtinType? name = none) (noEnum : .enum name ∉ history) (told : .entity name ∈ history) :
      StandsFor history name (.ok (.reference [storeName name] idField .text))
  | interface (foreign : builtinType? name = none) (noEnum : .enum name ∉ history) (noEntity : .entity name ∉ history)
      {tables : List String} (last : LastTables history name tables) (implemented : tables ≠ []) :
      StandsFor history name (.ok (.reference tables idField .text))
  | unimplemented (foreign : builtinType? name = none) (noEnum : .enum name ∉ history)
      (noEntity : .entity name ∉ history) (last : LastTables history name []) :
      StandsFor history name (.error (.noImplementors name))
  | unknown (foreign : builtinType? name = none) (noEnum : .enum name ∉ history) (noEntity : .entity name ∉ history)
      (noInterface : ∀ tables, .interface name tables ∉ history) : StandsFor history name (.error (.unknown name))

/-- Types in which no required mark stands directly inside of another. -/
inductive TypeRef.SingleMarked : TypeRef → Prop
  | named (name : String) : SingleMarked (.named name)
  | list {element : TypeRef} (inside : SingleMarked element) : SingleMarked (.list element)
  | nonNull {type : TypeRef} (once : type.isRequired = false) (inside : SingleMarked type) :
      SingleMarked (.nonNull type)

/-- A later registration hides the earlier ones of the same interface, and no others. -/
theorem lastTables_concat_iff {history : List Registration} {registration : Registration} {name : String}
    {tables : List String} : LastTables (history ++ [registration]) name tables ↔
      registration = .interface name tables ∨
        (∀ others, registration ≠ .interface name others) ∧ LastTables history name tables := by
  constructor
  · rintro ⟨earlier, later, same, last⟩
    rcases List.eq_nil_or_concat later with rfl | ⟨front, final, rfl⟩
    · exact Or.inl (List.cons.inj (List.append_inj' same rfl).2).1
    · rw [List.concat_eq_append, ← List.cons_append, ← List.append_assoc] at same
      obtain ⟨rfl, ends⟩ := List.append_inj' same rfl
      cases ends
      right
      refine ⟨fun others final => ?_, earlier, front, rfl, fun others member => ?_⟩
      · exact last others (by simp [final])
      · exact last others (by simp [member])
  · rintro (rfl | ⟨different, earlier, later, rfl, last⟩)
    · exact ⟨history, [], rfl, fun _ => List.not_mem_nil⟩
    · refine ⟨earlier, later ++ [registration], by simp, fun others => ?_⟩
      rw [List.mem_append, List.mem_singleton, not_or]
      exact ⟨last others, (different others).symm⟩

/-- An interface that was registered was registered at last. -/
theorem exists_lastTables {history : List Registration} {name : String} {tables : List String}
    (told : .interface name tables ∈ history) : ∃ last, LastTables history name last := by
  induction history using List.reverseRecOn with
  | nil => cases told
  | append_singleton history registration ih =>
    by_cases same : ∃ others, registration = .interface name others
    · obtain ⟨others, rfl⟩ := same
      exact ⟨others, lastTables_concat_iff.mpr (Or.inl rfl)⟩
    · have different : ∀ others, registration ≠ .interface name others := not_exists.mp same
      rw [List.mem_append, List.mem_singleton] at told
      obtain ⟨last, before⟩ := ih (told.resolve_right (different tables).symm)
      exact ⟨last, lastTables_concat_iff.mpr (Or.inr ⟨different, before⟩)⟩

namespace Registry

/-- A registry knows what is in a history, and nothing else. -/
structure Records (registry : Registry) (history : List Registration) : Prop where
  enums : ∀ name, name ∈ registry.enums ↔ .enum name ∈ history
  entities : ∀ name, name ∈ registry.entities ↔ .entity name ∈ history
  interfaces : ∀ name tables, registry.interfaces.lookup name = some tables ↔ LastTables history name tables

theorem records_empty : empty.Records [] where
  enums _ := by simp [empty]
  entities _ := by simp [empty]
  interfaces name tables := by
    refine ⟨nofun, ?_⟩
    rintro ⟨earlier, later, same, _⟩
    simp at same

variable {registry : Registry} {history : List Registration}

/-- One more registration is recorded, and those in front of it are kept. -/
theorem Records.add (records : registry.Records history) (registration : Registration) :
    (registry.add registration).Records (history ++ [registration]) := by
  refine ⟨fun name => ?_, fun name => ?_, fun name tables => ?_⟩
  · rw [List.mem_append, List.mem_singleton, ← records.enums]
    cases registration <;> simp [Registry.add, addEnum, addEntity, addInterface, or_comm]
  · rw [List.mem_append, List.mem_singleton, ← records.entities]
    cases registration <;> simp [Registry.add, addEnum, addEntity, addInterface, or_comm]
  · rw [lastTables_concat_iff, ← records.interfaces]
    cases registration with
    | enum _ => simp [Registry.add, addEnum]
    | entity _ => simp [Registry.add, addEntity]
    | interface told given =>
      simp only [Registry.add, addInterface, List.lookup_cons]
      by_cases same : name = told
      · simp [same]
      · simp [Ne.symm same, beq_false_of_ne same]

/-- Hence a registry records all that it was told, by induction over the history. -/
theorem records_after (history : List Registration) : (after history).Records history := by
  induction history using List.reverseRecOn with
  | nil => exact records_empty
  | append_singleton history registration ih =>
    rw [after, List.foldl_append]
    exact ih.add registration

/-- An interface that is not found was never registered. -/
theorem Records.lookup_eq_none_iff (records : registry.Records history) {name : String} :
    registry.interfaces.lookup name = none ↔ ∀ tables, .interface name tables ∉ history := by
  constructor
  · intro absent tables told
    obtain ⟨last, found⟩ := exists_lastTables told
    rw [(records.interfaces name last).mpr found] at absent
    cases absent
  · intro untold
    cases found : registry.interfaces.lookup name with
    | none => rfl
    | some tables =>
      obtain ⟨earlier, later, rfl, _⟩ := (records.interfaces name tables).mp found
      exact absurd (by simp) (untold tables)

/-- A name is resolved to what it stands for. -/
theorem Records.standsFor (records : registry.Records history) (name : String) :
    StandsFor history name (registry.resolveName name) := by
  unfold resolveName
  split
  · rename_i builtin
    exact .builtin builtin
  · rename_i foreign
    split
    · rename_i told
      exact .enum foreign ((records.enums name).mp told)
    · rename_i untold
      have noEnum := mt (records.enums name).mpr untold
      split
      · rename_i told
        exact .entity foreign noEnum ((records.entities name).mp told)
      · rename_i untold
        have noEntity := mt (records.entities name).mpr untold
        split
        · rename_i absent
          exact .unknown foreign noEnum noEntity (records.lookup_eq_none_iff.mp absent)
        · rename_i found
          exact .unimplemented foreign noEnum noEntity ((records.interfaces name []).mp found)
        · rename_i implemented found
          exact .interface foreign noEnum noEntity ((records.interfaces name _).mp found) implemented

/-- What a name stands for is what it is resolved to, so that it stands for one thing only. -/
theorem Records.resolveName_eq (records : registry.Records history) {name : String}
    {outcome : Except ResolveError ColumnType} (stands : StandsFor history name outcome) :
    registry.resolveName name = outcome := by
  unfold resolveName
  simp only [records.enums, records.entities]
  cases stands with
  | builtin known => rw [known]
  | enum foreign told => rw [foreign, if_pos told]
  | entity foreign noEnum told =>
    rw [foreign, if_neg noEnum, if_pos told]
    rfl
  | interface foreign noEnum noEntity last implemented =>
    obtain ⟨first, rest, rfl⟩ := List.exists_cons_of_ne_nil implemented
    rw [foreign, if_neg noEnum, if_neg noEntity, (records.interfaces name _).mpr last]
    rfl
  | unimplemented foreign noEnum noEntity last =>
    rw [foreign, if_neg noEnum, if_neg noEntity, (records.interfaces name []).mpr last]
  | unknown foreign noEnum noEntity noInterface =>
    rw [foreign, if_neg noEnum, if_neg noEntity, records.lookup_eq_none_iff.mpr noInterface]

end Registry

/-- A name stands for exactly what the registry resolves it to, so the history decides every name. -/
theorem standsFor_iff {history : List Registration} {name : String} {outcome : Except ResolveError ColumnType} :
    StandsFor history name outcome ↔ (Registry.after history).resolveName name = outcome := by
  have records := Registry.records_after history
  constructor
  · exact records.resolveName_eq
  · rintro rfl
    exact records.standsFor name

/-- No name stands for a list. -/
theorem StandsFor.not_list {history : List Registration} {name : String} {element : ColumnType} :
    ¬StandsFor history name (.ok (.list element)) :=
  nofun

/-- A type with single marks is a list if its base name stands in one. -/
theorem TypeRef.SingleMarked.isList_iff {type : TypeRef} (single : type.SingleMarked) :
    type.isList = true ↔ type.lists ≠ 0 := by
  cases single with
  | named name => simp [isList, lists]
  | list inside => simp [isList, lists]
  | nonNull once inside =>
    cases inside with
    | named name => simp [isList, lists]
    | list inside => simp [isList, lists]
    | nonNull _ _ => cases once

/-- A type that is no list becomes one exactly when it is put in at least one. -/
theorem iterate_list_iff {leaf : ColumnType} (single : ∀ element, leaf ≠ .list element) (lists : Nat) :
    (∃ element, ColumnType.list^[lists] leaf = .list element) ↔ lists ≠ 0 := by
  cases lists with
  | zero => simpa using single
  | succ lists => exact iff_of_true ⟨_, Function.iterate_succ_apply' _ _ _⟩ (Nat.succ_ne_zero _)

/-- A type resolves to what the history says of its base name, in as many lists as the name stands in. Required marks do
not matter, and lists are told from other types by their outermost marks alone. -/
theorem resolve_by_history (history : List Registration) (type : TypeRef) :
    (∀ result, (Registry.after history).resolve type = result ↔ ∃ outcome, StandsFor history type.baseName outcome ∧
      outcome.map ColumnType.list^[type.lists] = result) ∧
    (∀ other : TypeRef, other.unmarked = type.unmarked →
      (Registry.after history).resolve other = (Registry.after history).resolve type) ∧
    (type.SingleMarked → ∀ column, (Registry.after history).resolve type = .ok column →
      (type.isList = true ↔ ∃ element, column = .list element)) := by
  refine ⟨fun result => ?_, fun other same => ?_, fun single column success => ?_⟩
  · simp [standsFor_iff, TypeRef.resolve_eq_map]
  · rw [← TypeRef.resolve_unmarked, same, TypeRef.resolve_unmarked]
  · rw [TypeRef.resolve_eq_map, map_eq_ok_iff] at success
    obtain ⟨leaf, named, rfl⟩ := success
    have single' : ∀ element, leaf ≠ .list element := by
      rintro element rfl
      exact StandsFor.not_list (standsFor_iff.mpr named)
    rw [single.isList_iff, iterate_list_iff single']

/-- An interface that is registered twice, and a name that is both an enum and an entity. -/
def nodeHistory : List Registration :=
  [.interface "Node" ["post"], .enum "Color", .interface "Node" ["post", "user_account"], .entity "Color"]

/-- The type `[Node!]!`. -/
def nodesType : TypeRef :=
  .nonNull (.list (.nonNull (.named "Node")))

/-- The interface was registered twice, and its last tables count; the required marks in the type do not. -/
theorem resolve_by_history_nodes :
    nodesType.SingleMarked ∧ (TypeRef.list (.named "Node")).unmarked = nodesType.unmarked ∧
      (Registry.after nodeHistory).resolve nodesType =
        .ok (.list (.reference ["post", "user_account"] idField .text)) ∧
      (Registry.after nodeHistory).resolve (.list (.named "Node")) = (Registry.after nodeHistory).resolve nodesType ∧
      (nodesType.isList = true ↔
        ∃ element, ColumnType.list (.reference ["post", "user_account"] idField .text) = .list element) := by
  have single : nodesType.SingleMarked := .nonNull rfl (.list (.nonNull rfl (.named "Node")))
  have unmarked : (TypeRef.list (.named "Node")).unmarked = nodesType.unmarked := rfl
  have last : LastTables nodeHistory "Node" ["post", "user_account"] :=
    ⟨[.interface "Node" ["post"], .enum "Color"], [.entity "Color"], rfl, by simp⟩
  have stands : StandsFor nodeHistory "Node" (.ok (.reference ["post", "user_account"] idField .text)) :=
    .interface (by decide) (by decide) (by decide) last (by simp)
  obtain ⟨resolves, marks, lists⟩ := resolve_by_history nodeHistory nodesType
  have resolved := (resolves _).mpr ⟨_, stands, rfl⟩
  exact ⟨single, unmarked, resolved, marks _ unmarked, lists single _ resolved⟩

/-- Under two required marks, a list is taken for something else. -/
example : TypeRef.isList (.nonNull (.nonNull (.list (.named "Node")))) = false := by
  rfl

end EntityLayout
