import Mathlib.Data.List.TakeWhile

/-!
# Runs at the front of a list

Where the items of a kind at the front of a list end: what `takeWhile` and `dropWhile` find there, and the same for a
run of limited length.
-/
namespace EntityLayout

variable {α : Type} {test : α → Bool}

/-- A run ends where no item of its kind comes next. -/
theorem takeWhile_append_of_stop {run rest : List α} (all : ∀ item ∈ run, test item = true)
    (stops : ∀ item ∈ rest.head?, test item = false) :
    (run ++ rest).takeWhile test = run ∧ (run ++ rest).dropWhile test = rest := by
  have stop : rest.takeWhile test = [] ∧ rest.dropWhile test = rest := by
    cases rest with
    | nil => exact ⟨rfl, rfl⟩
    | cons item rest =>
      have other : ¬test item = true := by simp [stops item rfl]
      exact ⟨List.takeWhile_cons_of_neg other, List.dropWhile_cons_of_neg other⟩
  rw [List.takeWhile_append_of_pos all, List.dropWhile_append_of_pos all, stop.1, stop.2, List.append_nil]
  exact ⟨rfl, rfl⟩

/-- Every list starts with as many items of a kind as are asked for, or with fewer and then no other one of them. -/
theorem limited_run (test : α → Bool) (limit : Nat) (items : List α) :
    ∃ run rest, items = run ++ rest ∧ run.all test = true ∧
      (run.length = limit ∨ run.length < limit ∧ ∀ item ∈ rest.head?, test item = false) := by
  induction limit generalizing items with
  | zero => exact ⟨[], items, rfl, rfl, Or.inl rfl⟩
  | succ limit ih =>
    cases items with
    | nil => exact ⟨[], [], rfl, rfl, Or.inr ⟨Nat.zero_lt_succ _, by simp⟩⟩
    | cons item items =>
      cases first : test item with
      | false => exact ⟨[], item :: items, rfl, rfl, Or.inr ⟨Nat.zero_lt_succ _, by simp [first]⟩⟩
      | true =>
        obtain ⟨run, rest, rfl, all, long⟩ := ih items
        refine ⟨item :: run, rest, rfl, by simp [first, all], ?_⟩
        rw [List.length_cons, Nat.add_right_cancel_iff, Nat.add_lt_add_iff_right]
        exact long

/-- What a reader finds that looks for such a run within the limit. -/
theorem takeWhile_take_of_run {run rest : List α} {limit : Nat} (all : run.all test = true)
    (long : run.length = limit ∨ run.length < limit ∧ ∀ item ∈ rest.head?, test item = false) :
    ((run ++ rest).take limit).takeWhile test = run := by
  have fits : run.length ≤ limit := by omega
  rw [List.take_append, List.take_of_length_le fits]
  refine (takeWhile_append_of_stop (List.all_eq_true.mp all) fun item member => ?_).1
  rw [List.head?_take] at member
  rcases long with full | ⟨_, stops⟩
  · simp [full] at member
  · split at member
    · cases member
    · exact stops item member

end EntityLayout
