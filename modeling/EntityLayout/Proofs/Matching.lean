import EntityLayout.Proofs.FirstViolation
import Mathlib.Data.List.Forall2

/-!
# Lists that match item by item

What two lists give when each item of one is related to the item of the other in the same place: the same
values, matching parts of both, the same violations, and the same outcome of a loop over them.
-/
namespace EntityLayout
open List (Forall₂)

section
variable {α β ε : Type} {R : α → β → Prop}

/-- A function that does not tell matching items apart makes equal lists of them. -/
theorem map_eq_of_forall₂ {γ : Type} {value : α → γ} {value' : β → γ} {items : List α} {others : List β}
    (same : ∀ item other, R item other → value item = value' other) (related : Forall₂ R items others) :
    items.map value = others.map value' := by
  induction related with
  | nil => rfl
  | cons head _ ih => rw [List.map_cons, List.map_cons, same _ _ head, ih]

theorem forall₂_of_map_eq {γ : Type} {value : α → γ} {value' : β → γ} {items : List α} {others : List β}
    (same : items.map value = others.map value') :
    Forall₂ (fun item other => value item = value' other) items others := by
  rwa [← List.forall₂_eq_eq_eq, List.forall₂_map_left_iff, List.forall₂_map_right_iff] at same

theorem forall_mem_concat_iff {property : α → Prop} {items : List α} {item : α} :
    (∀ other ∈ items ++ [item], property other) ↔ (∀ other ∈ items, property other) ∧ property item := by
  rw [List.forall_mem_append, List.forall_mem_singleton]

/-- What matches a list with one more item at its end has one more item there too. -/
theorem forall₂_concat_iff {items : List α} {item : α} {others : List β} :
    Forall₂ R (items ++ [item]) others ↔
      ∃ front last, others = front ++ [last] ∧ Forall₂ R items front ∧ R item last := by
  constructor
  · intro related
    obtain ⟨last, front, matches_, others, same⟩ : ∃ last front, R item last ∧ Forall₂ R items.reverse front ∧
        others.reverse = last :: front := by
      rwa [← List.forall₂_reverse_iff, List.reverse_append, List.reverse_singleton, List.singleton_append,
        List.forall₂_cons_left_iff] at related
    refine ⟨front.reverse, last, ?_, ?_, matches_⟩
    · rw [← List.reverse_cons, ← same, List.reverse_reverse]
    · rwa [← List.forall₂_reverse_iff, List.reverse_reverse]
  · rintro ⟨front, last, rfl, related, first⟩
    exact List.rel_append related (.cons first .nil)

/-- Where a list matches an optional item, it has at most one item. -/
theorem forall₂_concat_toList_iff {items : List α} {item : α} {other? : Option β} :
    Forall₂ R (items ++ [item]) other?.toList ↔ items = [] ∧ ∃ other, other? = some other ∧ R item other := by
  cases other? with
  | none => simp
  | some other =>
    rw [Option.toList_some, forall₂_concat_iff]
    constructor
    · rintro ⟨front, last, same, related, first⟩
      cases front with
      | nil =>
        cases same
        exact ⟨List.forall₂_nil_right_iff.mp related, other, rfl, first⟩
      | cons head front => simp at same
    · rintro ⟨rfl, _, ⟨⟩, first⟩
      exact ⟨[], other, rfl, .nil, first⟩

/-- A test that does not tell matching items apart holds somewhere in both lists or in neither. -/
theorem any_forall₂ {p : α → Bool} {q : β → Bool} {items : List α} {others : List β}
    (same : ∀ item other, R item other → p item = q other) (related : Forall₂ R items others) :
    items.any p = others.any q := by
  induction related with
  | nil => rfl
  | cons head _ ih => rw [List.any_cons, List.any_cons, same _ _ head, ih]

/-- The related parts of two lists match when both tests agree on related items. -/
theorem filter_forall₂ {p : α → Bool} {q : β → Bool} {items : List α} {others : List β}
    (same : ∀ item other, R item other → p item = q other) (related : Forall₂ R items others) :
    Forall₂ R (items.filter p) (others.filter q) :=
  List.rel_filter (fun item other given => Bool.eq_iff_iff.mp (same item other given)) related

/-- Searching two matching lists finds matching items, or nothing in either. -/
theorem find?_forall₂ {p : α → Bool} {q : β → Bool} {items : List α} {others : List β}
    (same : ∀ item other, R item other → p item = q other) (related : Forall₂ R items others) :
    (items.find? p = none ∧ others.find? q = none) ∨
      ∃ item other, items.find? p = some item ∧ others.find? q = some other ∧ R item other := by
  induction related with
  | nil => exact Or.inl ⟨rfl, rfl⟩
  | @cons item other items others head _ ih =>
    have condition := same item other head
    cases found : p item with
    | true =>
      right
      exact ⟨item, other, List.find?_cons_of_pos found, List.find?_cons_of_pos (condition ▸ found), head⟩
    | false =>
      rw [List.find?_cons_of_neg (by simp [found]), List.find?_cons_of_neg (by simp [← condition, found])]
      exact ih

/-- Violations that are looked for with the items in front in view match when those of related items do behind
matching fronts. -/
theorem withEarlier_forall₂ {S : ε → ε → Prop} {check : List α → α → List ε}
    {check' : List β → β → List ε}
    (each : ∀ earlier earlier' item other, Forall₂ R earlier earlier' → R item other →
      Forall₂ S (check earlier item) (check' earlier' other))
    {earlier items : List α} {earlier' others : List β} (before : Forall₂ R earlier earlier')
    (related : Forall₂ R items others) :
    Forall₂ S (withEarlier check earlier items) (withEarlier check' earlier' others) := by
  induction related generalizing earlier earlier' with
  | nil => exact .nil
  | cons head _ ih =>
    exact List.rel_append (each _ _ _ _ before head) (ih (List.rel_append before (.cons head .nil)))

/-- Items at which nothing can be wrong, and which no check of another item looks at, may be left out. -/
theorem withEarlier_filter {check : List α → α → List ε} {keep : α → Bool}
    (dropped : ∀ earlier item, keep item = false → check earlier item = [])
    (unseen : ∀ earlier item, check (earlier.filter keep) item = check earlier item)
    (earlier items : List α) :
    withEarlier check (earlier.filter keep) (items.filter keep) = withEarlier check earlier items := by
  induction items generalizing earlier with
  | nil => rfl
  | cons item rest ih =>
    have rest := ih (earlier ++ [item])
    rw [List.filter_append] at rest
    cases kept : keep item with
    | true =>
      rw [List.filter_cons_of_pos kept] at rest ⊢
      rw [withEarlier, withEarlier, unseen]
      exact congrArg _ rest
    | false =>
      have unkept : ¬keep item = true := by simp [kept]
      rw [List.filter_cons_of_neg unkept, List.filter_nil, List.append_nil] at rest
      rw [List.filter_cons_of_neg unkept, withEarlier, dropped _ _ kept]
      exact rest

end

section
variable {α β γ δ ε σ τ : Type} {R : α → β → Prop} {S : γ → δ → Prop}

/-- A run over a list succeeds where each of its items does. -/
theorem mapM_eq_ok_iff {check : α → Except ε γ} {items : List α} {results : List γ} :
    items.mapM check = .ok results ↔ Forall₂ (fun item result => check item = .ok result) items results := by
  induction items generalizing results with
  | nil =>
    rw [List.forall₂_nil_left_iff, List.mapM_nil]
    exact ⟨fun success => (Except.ok.inj success).symm, fun empty => congrArg Except.ok empty.symm⟩
  | cons item items ih =>
    rw [List.mapM_cons, List.forall₂_cons_left_iff, bind_eq_ok_iff]
    constructor
    · rintro ⟨first, head, success⟩
      obtain ⟨others, tail, success⟩ := bind_eq_ok_iff.mp success
      cases success
      exact ⟨first, others, head, ih.mp tail, rfl⟩
    · rintro ⟨first, others, head, related, rfl⟩
      exact ⟨first, head, bind_eq_ok_iff.mpr ⟨others, ih.mpr related, rfl⟩⟩

/-- Two checks that fail with the same error, or succeed with related results. -/
inductive SameOutcome (R : α → β → Prop) : Except ε α → Except ε β → Prop where
  | ok {result : α} {other : β} (related : R result other) : SameOutcome R (.ok result) (.ok other)
  | error (cause : ε) : SameOutcome R (.error cause) (.error cause)

namespace SameOutcome

variable {check : Except ε α} {check' : Except ε β}

/-- Checks of the same outcome fail with the same error or not at all. -/
theorem errorOf_eq (same : SameOutcome R check check') : errorOf check = errorOf check' := by
  cases same <;> rfl

/-- Sequences have the same outcome when their first checks do, and their second ones on related values. -/
theorem bind {next : α → Except ε γ} {next' : β → Except ε δ} (same : SameOutcome R check check')
    (continued : ∀ result other, R result other → SameOutcome S (next result) (next' other)) :
    SameOutcome S (check >>= next) (check' >>= next') := by
  cases same with
  | ok related => exact continued _ _ related
  | error cause => exact .error cause

theorem map {change : α → γ} {change' : β → δ} (same : SameOutcome R check check')
    (changed : ∀ result other, R result other → S (change result) (change' other)) :
    SameOutcome S (check.map change) (check'.map change') := by
  cases same with
  | ok related => exact .ok (changed _ _ related)
  | error cause => exact .error cause

/-- Loops that keep all values have the same outcome when each pass has. -/
theorem mapM {each : α → Except ε γ} {each' : β → Except ε δ} {items : List α} {others : List β}
    (related : Forall₂ R items others)
    (same : ∀ item other, R item other → SameOutcome S (each item) (each' other)) :
    SameOutcome (Forall₂ S) (items.mapM each) (others.mapM each') := by
  induction related with
  | nil => exact .ok .nil
  | cons head _ ih =>
    rw [List.mapM_cons, List.mapM_cons]
    refine (same _ _ head).bind fun first first' firsts => ih.bind fun rest rest' rests => ?_
    exact .ok (.cons firsts rests)

/-- A loop over matching lists keeps the states of both related. -/
theorem foldlM {T : σ → τ → Prop} {step : σ → α → Except ε σ} {step' : τ → β → Except ε τ}
    {items : List α} {others : List β} (related : Forall₂ R items others)
    (same : ∀ state state' item other, T state state' → R item other →
      SameOutcome T (step state item) (step' state' other))
    {state : σ} {state' : τ} (start : T state state') :
    SameOutcome T (items.foldlM step state) (others.foldlM step' state') := by
  induction related generalizing state state' with
  | nil => exact .ok start
  | cons head _ ih =>
    rw [List.foldlM_cons, List.foldlM_cons]
    exact (same _ _ _ _ start head).bind fun _ _ next => ih next

end SameOutcome

end

end EntityLayout
