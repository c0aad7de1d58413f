/-!
# The first violation

A check that goes through its input in order and stops at the first thing that is wrong. It is
described by all that is wrong with the input, in the order in which it is looked for, and by the value
that it has when nothing is. The lemmas carry this description through sequences of checks.
-/
namespace EntityLayout

section
variable {ε α β σ : Type}

/-- The value, refused with the first violation if there is one. -/
def unlessViolated (violations : List ε) (value : α) : Except ε α :=
  match violations with
  | [] => .ok value
  | first :: _ => .error first

/-- What is wrong with each item, given the items in front of it. -/
def withEarlier (check : List α → α → List ε) : (earlier : List α) → List α → List ε
  | _, [] => []
  | earlier, item :: rest => check earlier item ++ withEarlier check (earlier ++ [item]) rest

/-- The error of a check as a list, which is empty when there is none. -/
def errorOf : Except ε α → List ε
  | .ok _ => []
  | .error cause => [cause]

/-- A check described by its violations succeeds exactly when there are none, and then with the value given. -/
theorem unlessViolated_eq_ok_iff {violations : List ε} {value result : α} :
    unlessViolated violations value = .ok result ↔ violations = [] ∧ value = result := by
  cases violations with
  | nil => simp [unlessViolated]
  | cons first rest => simp [unlessViolated]

/-- It fails exactly with the first violation. -/
theorem unlessViolated_eq_error_iff {violations : List ε} {value : α} {cause : ε} :
    unlessViolated violations value = .error cause ↔ violations.head? = some cause := by
  cases violations with
  | nil => simp [unlessViolated]
  | cons first rest => simp [unlessViolated]

/-- A sequence of two checks succeeds exactly when both do, the second on the value of the first. -/
theorem bind_eq_ok_iff {check : Except ε α} {next : α → Except ε β} {result : β} :
    (check >>= next) = .ok result ↔ ∃ value, check = .ok value ∧ next value = .ok result := by
  cases check with
  | error cause => simp [bind, Except.bind]
  | ok value => simp [bind, Except.bind]

theorem map_eq_ok_iff {check : Except ε α} {change : α → β} {result : β} :
    check.map change = .ok result ↔ ∃ value, check = .ok value ∧ change value = result := by
  cases check with
  | error cause => simp [Except.map]
  | ok value => simp [Except.map]

/-- The same for a check whose error is told in other words. -/
theorem mapError_eq_unlessViolated {check : Except ε α} {value : α} (wrap : ε → σ)
    (determined : ∀ result, check = .ok result → result = value) :
    check.mapError wrap = unlessViolated ((errorOf check).map wrap) value := by
  cases check with
  | error cause => rfl
  | ok result =>
    rw [determined result rfl]
    rfl

/-- A condition that is tested before the value is returned is a check with one possible violation. -/
theorem ite_eq_unlessViolated {condition : Prop} [Decidable condition] {cause : ε} {value : α} :
    (if condition then .error cause else .ok value) =
      unlessViolated (if condition then [cause] else []) value := by
  by_cases violated : condition <;> simp [violated, unlessViolated]

theorem errorOf_map (check : Except ε α) (change : α → β) :
    errorOf (check.map change) = errorOf check := by
  cases check <;> rfl

/-- The second check may rely on the first one having found nothing. -/
theorem unlessViolated_bind {violations later : List ε} {value : α} {result : β}
    {next : α → Except ε β}
    (continued : violations = [] → next value = unlessViolated later result) :
    (unlessViolated violations value >>= next) = unlessViolated (violations ++ later) result := by
  cases violations with
  | nil => exact continued rfl
  | cons first rest => rfl

/-- What only rearranges a value that was checked finds nothing more. -/
theorem unlessViolated_bind_pure (violations : List ε) (value : α) (change : α → β) :
    (unlessViolated violations value >>= fun checked => pure (change checked)) =
      unlessViolated violations (change value) := by
  cases violations <;> rfl

/-- Each item is checked for itself. -/
theorem mapM_eq_unlessViolated {check : α → Except ε β} {violations : α → List ε} {value : α → β}
    {items : List α}
    (each : ∀ item ∈ items, check item = unlessViolated (violations item) (value item)) :
    items.mapM check = unlessViolated (items.flatMap violations) (items.map value) := by
  induction items with
  | nil => rfl
  | cons item rest ih =>
    have head := each item (by simp)
    have tail := ih fun other member => each other (by simp [member])
    rw [List.mapM_cons, head, tail]
    rw [List.flatMap_cons, List.map_cons]
    apply unlessViolated_bind
    intro _
    exact unlessViolated_bind_pure _ _ _

/-- Each item is checked against the state that the items in front of it have led to. -/
theorem foldlM_eq_unlessViolated {step : σ → α → Except ε σ} {violations : List α → α → List ε}
    (state : List α → σ)
    (each : ∀ earlier item,
      step (state earlier) item = unlessViolated (violations earlier item) (state (earlier ++ [item])))
    (earlier items : List α) :
    items.foldlM step (state earlier) =
      unlessViolated (withEarlier violations earlier items) (state (earlier ++ items)) := by
  induction items generalizing earlier with
  | nil => simp [withEarlier, unlessViolated, pure, Except.pure]
  | cons item rest ih =>
    rw [List.foldlM_cons, each, withEarlier]
    apply unlessViolated_bind
    intro _
    rw [ih, List.append_assoc, List.singleton_append]

/-- A property of the items so far holds of all items, if an item at which nothing is wrong keeps it. -/
theorem withEarlier_invariant {check : List α → α → List ε} (holds : List α → Prop)
    (each : ∀ earlier item, check earlier item = [] → holds earlier → holds (earlier ++ [item]))
    {earlier items : List α} (fine : withEarlier check earlier items = []) (start : holds earlier) :
    holds (earlier ++ items) := by
  induction items generalizing earlier with
  | nil =>
    rw [List.append_nil]
    exact start
  | cons item rest ih =>
    obtain ⟨head, tail⟩ := List.append_eq_nil_iff.mp fine
    have next := ih tail (each earlier item head start)
    rwa [List.append_assoc, List.singleton_append] at next

/-- Where nothing is wrong with a list, nothing is wrong with any of its items. -/
theorem check_eq_nil_of_mem {check : List α → α → List ε} {earlier items : List α} {item : α}
    (fine : withEarlier check earlier items = []) (member : item ∈ items) :
    ∃ before, check before item = [] := by
  induction items generalizing earlier with
  | nil => cases member
  | cons head rest ih =>
    obtain ⟨first, others⟩ := List.append_eq_nil_iff.mp fine
    rcases List.mem_cons.mp member with rfl | later
    · exact ⟨earlier, first⟩
    · exact ih others later

/-- A check that compares an item with each one in front of it finds nothing exactly when all items are fine
and any two of them go together. -/
theorem withEarlier_eq_nil_iff {check : List α → α → List ε} {isFine : α → Prop} {apart : α → α → Prop}
    (each : ∀ earlier item,
      check earlier item = [] ↔ isFine item ∧ ∀ other ∈ earlier, apart other item)
    (earlier items : List α) :
    withEarlier check earlier items = [] ↔
      (∀ item ∈ items, isFine item ∧ ∀ other ∈ earlier, apart other item) ∧ items.Pairwise apart := by
  induction items generalizing earlier with
  | nil => simp [withEarlier]
  | cons item rest ih =>
    rw [withEarlier, List.append_eq_nil_iff, each, ih, List.pairwise_cons]
    -- The item itself is one of those that stand in front of the rest.
    simp only [List.mem_append, List.mem_cons, List.not_mem_nil, or_false]
    grind

/-- Such a check does not mind in which order it meets the items. -/
theorem withEarlier_eq_nil_perm {check : List α → α → List ε} {isFine : α → Prop} {apart : α → α → Prop}
    (each : ∀ earlier item,
      check earlier item = [] ↔ isFine item ∧ ∀ other ∈ earlier, apart other item)
    (symmetric : ∀ item other, apart item other → apart other item) {items others : List α}
    (permuted : items.Perm others) (allowed : withEarlier check [] items = []) :
    withEarlier check [] others = [] := by
  rw [withEarlier_eq_nil_iff each] at allowed ⊢
  obtain ⟨fine, pairs⟩ := allowed
  refine ⟨fun item member => fine item (permuted.mem_iff.mpr member), ?_⟩
  exact (permuted.pairwise_iff (symmetric _ _)).mp pairs

/-- Neither does a check that looks at each item for itself. -/
theorem flatMap_eq_nil_perm {check : α → List ε} {items others : List α}
    (permuted : items.Perm others) (fine : items.flatMap check = []) : others.flatMap check = [] := by
  have same := permuted.flatMap_right check
  rw [fine] at same
  exact List.nil_perm.mp same

/-- A successful run over a list has the values of its items. -/
theorem mapM_values {check : α → Except ε β} {value : α → β}
    (each : ∀ item result, check item = .ok result → result = value item)
    {items : List α} {results : List β} (success : items.mapM check = .ok results) :
    results = items.map value := by
  induction items generalizing results with
  | nil =>
    cases success
    rfl
  | cons item rest ih =>
    rw [List.mapM_cons] at success
    obtain ⟨first, head, success⟩ := bind_eq_ok_iff.mp success
    obtain ⟨others, tail, success⟩ := bind_eq_ok_iff.mp success
    cases success
    rw [List.map_cons, each item first head, ih tail]

/-- The state after a successful run, when each successful step leads to a state that the items so far
determine. -/
theorem foldlM_state {step : σ → α → Except ε σ} (state : List α → σ)
    (each : ∀ earlier item next, step (state earlier) item = .ok next → next = state (earlier ++ [item]))
    (earlier : List α) {items : List α} {last : σ}
    (success : items.foldlM step (state earlier) = .ok last) : last = state (earlier ++ items) := by
  induction items generalizing earlier with
  | nil =>
    cases success
    rw [List.append_nil]
  | cons item rest ih =>
    rw [List.foldlM_cons] at success
    obtain ⟨next, taken, success⟩ := bind_eq_ok_iff.mp success
    rw [each earlier item next taken] at success
    rw [ih (earlier ++ [item]) success, List.append_assoc, List.singleton_append]

/-- The states to which a list leads, when one more item leads from the states of those in front of it to the states
that a step makes of them. -/
theorem foldlM_ok_iff {step : σ → α → Except ε σ} {LeadsTo : List α → σ → Prop}
    (each : ∀ earlier item next,
      LeadsTo (earlier ++ [item]) next ↔ ∃ state, LeadsTo earlier state ∧ step state item = .ok next)
    (earlier : List α) {items : List α} {last : σ} :
    (∃ state, LeadsTo earlier state ∧ items.foldlM step state = .ok last) ↔ LeadsTo (earlier ++ items) last := by
  induction items generalizing earlier with
  | nil =>
    rw [List.append_nil]
    constructor
    · rintro ⟨_, leads, ⟨⟩⟩
      exact leads
    · exact fun leads => ⟨last, leads, rfl⟩
  | cons item rest ih =>
    rw [← List.singleton_append, ← List.append_assoc, ← ih (earlier ++ [item])]
    simp only [each, List.singleton_append, List.foldlM_cons, bind_eq_ok_iff]
    constructor
    · rintro ⟨state, leads, next, taken, success⟩
      exact ⟨next, ⟨state, leads, taken⟩, success⟩
    · rintro ⟨next, ⟨state, leads, taken⟩, success⟩
      exact ⟨state, leads, next, taken, success⟩

end

end EntityLayout
