import Mathlib.Data.List.Nodup

/-!
# Items with keys of their own

What looking up a key gives in a list whose items all have different keys: the item of that key alone.
-/
namespace EntityLayout

theorem nodup_concat {κ : Type} {keys : List κ} {k : κ} (unique : keys.Nodup) (fresh : k ∉ keys) :
    (keys ++ [k]).Nodup := by
  rw [← List.concat_eq_append]
  exact List.Nodup.concat fresh unique

section
variable {α β κ : Type} [DecidableEq κ] {key : α → κ} {items : List α} {item : α}

theorem filter_key_eq_nil {k : κ} (absent : k ∉ items.map key) : items.filter (key · == k) = [] := by
  rw [List.filter_eq_nil_iff]
  intro other member same
  exact absent (List.mem_map.mpr ⟨other, member, beq_iff_eq.mp same⟩)

/-- Only the item itself has its key. -/
theorem filter_key (unique : (items.map key).Nodup) (member : item ∈ items) :
    items.filter (key · == key item) = [item] := by
  induction items with
  | nil => cases member
  | cons head tail ih =>
    obtain ⟨fresh, unique⟩ := List.nodup_cons.mp unique
    rcases List.mem_cons.mp member with rfl | later
    · rw [List.filter_cons_of_pos (by simp), filter_key_eq_nil fresh]
    · have different : key head ≠ key item := by
        intro same
        exact fresh (List.mem_map.mpr ⟨item, later, same.symm⟩)
      rw [List.filter_cons_of_neg (by simpa using different), ih unique later]

/-- An item is found under its key, which no item in front of it has. -/
theorem find?_key (unique : (items.map key).Nodup) (member : item ∈ items) :
    items.find? (key · == key item) = some item := by
  rw [← List.head?_filter, filter_key unique member]
  rfl

/-- The order of items does not matter to what is found under a key. -/
theorem find?_key_perm {others : List α} (permuted : items.Perm others)
    (unique : (items.map key).Nodup) (k : κ) :
    items.find? (key · == k) = others.find? (key · == k) := by
  cases found : items.find? (key · == k) with
  | none =>
    symm
    rw [List.find?_eq_none] at found ⊢
    intro other member
    exact found other (permuted.mem_iff.mpr member)
  | some item =>
    have named : key item = k := by simpa using List.find?_some found
    have member := permuted.mem_iff.mp (List.mem_of_find?_eq_some found)
    rw [← named, find?_key ((permuted.map key).nodup unique) member]

/-- Items are those of a list with keys of their own, in any order, if they have its keys, each once, and what is
found under each key is the item of the list. -/
theorem perm_iff_find?_key {others : List α} (unique : (others.map key).Nodup) :
    items.Perm others ↔ (∀ item ∈ items, key item ∈ others.map key) ∧ (items.map key).Nodup ∧
      ∀ other ∈ others, items.find? (key · == key other) = some other := by
  constructor
  · intro permuted
    have itemsUnique : (items.map key).Nodup := (permuted.map key).nodup_iff.mpr unique
    refine ⟨fun item member => List.mem_map_of_mem (permuted.mem_iff.mp member), itemsUnique, ?_⟩
    exact fun other member => find?_key itemsUnique (permuted.mem_iff.mpr member)
  · rintro ⟨known, itemsUnique, found⟩
    rw [List.perm_ext_iff_of_nodup (.of_map key itemsUnique) (.of_map key unique)]
    intro item
    constructor
    · intro member
      obtain ⟨other, among, same⟩ := List.mem_map.mp (known item member)
      have searched := found other among
      rw [same, find?_key itemsUnique member] at searched
      rw [Option.some.inj searched]
      exact among
    · exact fun among => List.mem_of_find?_eq_some (found item among)

/-- A value that is kept under the key of its item is found under it. -/
theorem lookup_key (unique : (items.map key).Nodup) (member : item ∈ items) (value : α → β) :
    (items.map fun other => (key other, value other)).lookup (key item) = some (value item) := by
  induction items with
  | nil => cases member
  | cons head tail ih =>
    obtain ⟨fresh, unique⟩ := List.nodup_cons.mp unique
    rw [List.map_cons, List.lookup_cons]
    rcases List.mem_cons.mp member with rfl | later
    · rw [beq_self_eq_true]
    · have different : key item ≠ key head := by
        intro same
        exact fresh (List.mem_map.mpr ⟨item, later, same⟩)
      rw [beq_false_of_ne different]
      exact ih unique later

/-- Of lists that are only given for one key, that of the item with this key is left. -/
theorem flatMap_key (unique : (items.map key).Nodup) (member : item ∈ items) (list : α → List β) :
    (items.flatMap fun other => if key other = key item then list other else []) = list item := by
  have chosen : (items.flatMap fun other => if key other = key item then list other else []) =
      (items.filter (key · == key item)).flatMap list := by
    clear unique member
    induction items with
    | nil => rfl
    | cons head tail ih =>
      by_cases same : key head = key item
      · simp [same, ih]
      · simp [same, ih]
  rw [chosen, filter_key unique member, List.flatMap_singleton]

end

end EntityLayout
