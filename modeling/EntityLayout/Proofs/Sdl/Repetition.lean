import EntityLayout.Proofs.Sdl.Reading

/-!
# Laws of repetitions

`collect_nil_iff` and `collect_cons_iff` take a repetition apart into its rounds. The number of rounds
that it allows itself never shows, because each item takes a token (`collect_eq`). Repetitions differ in
their step: `stepUntil` looks for a closing token and `stepAfter` for a mark.
-/
namespace EntityLayout.Reader

section
variable {α : Type} {tokens rest : List Token}

/-- Each item that the step finds takes at least one token. -/
def Progress (step : Reader (Option α)) : Prop :=
  ∀ tokens item rest, step tokens = .ok (some item) rest → rest.length < tokens.length

/-- What one round of a repetition does before it goes on with `again`. -/
def round (step : Reader (Option α)) (again : Reader (List α)) : Reader (List α) := do
  match ← step with
  | none => return []
  | some item => return item :: (← again)

/-- Rounds only have to be as many as there are tokens, and one more. -/
theorem collectWithin_eq {step : Reader (Option α)} (progress : Progress step) :
    ∀ (rounds others tokens : List Token), tokens.length < rounds.length →
      tokens.length < others.length →
      collectWithin step rounds tokens = collectWithin step others tokens
  | [], _, _, enough, _ => absurd enough (Nat.not_lt_zero _)
  | _, [], _, _, enough => absurd enough (Nat.not_lt_zero _)
  | _ :: rounds, _ :: others, tokens, first, second => by
    change EStateM.bind step _ tokens = EStateM.bind step _ tokens
    unfold EStateM.bind
    cases taken : step tokens with
    | error cause middle => rfl
    | ok answer middle =>
      cases answer with
      | none => rfl
      | some item =>
        -- One round and at least one token are used up, so that the rounds stay enough.
        have shorter := progress tokens item middle taken
        have same := collectWithin_eq progress rounds others middle
          (by simp only [List.length_cons] at first; omega)
          (by simp only [List.length_cons] at second; omega)
        simp only [bind, EStateM.bind, same]

/-- A repetition is a round behind which it is repeated. -/
theorem collect_eq {step : Reader (Option α)} (progress : Progress step) (tokens : List Token) :
    collect step tokens = round step (collect step) tokens := by
  change EStateM.bind step _ tokens = EStateM.bind step _ tokens
  unfold EStateM.bind
  cases taken : step tokens with
  | error cause middle => rfl
  | ok answer middle =>
    cases answer with
    | none => rfl
    | some item =>
      have shorter := progress tokens item middle taken
      have same : collectWithin step tokens middle = collect step middle :=
        collectWithin_eq progress tokens (.eof :: middle) middle shorter (by simp)
      simp only [bind, EStateM.bind, same]

/-- A repetition finds nothing exactly when its step does at once. -/
theorem collect_nil_iff {step : Reader (Option α)} (progress : Progress step) :
    collect step tokens = .ok [] rest ↔ step tokens = .ok none rest := by
  rw [collect_eq progress, round, bind_ok_iff]
  constructor
  · intro given
    rcases given with ⟨answer, middle, taken, success⟩
    cases answer with
    | none =>
      obtain ⟨_, rfl⟩ := pure_ok_iff.mp success
      exact taken
    | some item =>
      obtain ⟨_, _, _, success⟩ := bind_ok_iff.mp success
      cases (pure_ok_iff.mp success).1
  · intro taken
    exact ⟨none, rest, taken, rfl⟩

/-- It finds something exactly when its step does, and goes on behind that. -/
theorem collect_cons_iff {step : Reader (Option α)} (progress : Progress step) {item : α}
    {items : List α} :
    collect step tokens = .ok (item :: items) rest ↔
      ∃ middle, step tokens = .ok (some item) middle ∧ collect step middle = .ok items rest := by
  rw [collect_eq progress, round, bind_ok_iff]
  constructor
  · intro given
    rcases given with ⟨answer, middle, taken, success⟩
    cases answer with
    | none => cases (pure_ok_iff.mp success).1
    | some found =>
      obtain ⟨others, _, again, success⟩ := bind_ok_iff.mp success
      obtain ⟨same, rfl⟩ := pure_ok_iff.mp success
      cases same
      exact ⟨middle, taken, again⟩
  · intro given
    rcases given with ⟨middle, taken, again⟩
    exact ⟨some item, middle, taken, bind_ok_iff.mpr ⟨items, rest, again, rfl⟩⟩

/-- Finds the next item, unless the closing token comes first. -/
def stepUntil (close : Token) (item : Reader α) : Reader (Option α) := do
  if ← eat close then return none
  else return some (← item)

theorem itemsUntil_eq (close : Token) (item : Reader α) :
    itemsUntil close item = collect (stepUntil close item) :=
  rfl

theorem stepUntil_none_iff {close : Token} (proper : close ≠ .eof) {item : Reader α} :
    stepUntil close item tokens = .ok none rest ↔ tokens = close :: rest := by
  unfold stepUntil
  rw [bind_ok_iff]
  constructor
  · intro given
    rcases given with ⟨eaten, middle, taken, success⟩
    rcases (eat_ok_iff proper).mp taken with ⟨rfl, rfl⟩ | ⟨rfl, _, _⟩
    · obtain ⟨_, rfl⟩ := pure_ok_iff.mp success
      rfl
    · obtain ⟨_, _, _, success⟩ := bind_ok_iff.mp success
      cases (pure_ok_iff.mp success).1
  · rintro rfl
    exact ⟨true, rest, (eat_ok_iff proper).mpr (Or.inl ⟨rfl, rfl⟩), rfl⟩

theorem stepUntil_some_iff {close : Token} (proper : close ≠ .eof) {item : Reader α} {found : α} :
    stepUntil close item tokens = .ok (some found) rest ↔
      tokens.headD .eof ≠ close ∧ item tokens = .ok found rest := by
  unfold stepUntil
  rw [bind_ok_iff]
  constructor
  · intro given
    rcases given with ⟨eaten, middle, taken, success⟩
    rcases (eat_ok_iff proper).mp taken with ⟨rfl, _⟩ | ⟨rfl, rfl, absent⟩
    · cases (pure_ok_iff.mp success).1
    · obtain ⟨value, _, read, success⟩ := bind_ok_iff.mp success
      obtain ⟨same, rfl⟩ := pure_ok_iff.mp success
      cases same
      exact ⟨absent, read⟩
  · intro given
    rcases given with ⟨absent, read⟩
    refine ⟨false, tokens, (eat_ok_iff proper).mpr (Or.inr ⟨rfl, rfl, absent⟩), ?_⟩
    exact bind_ok_iff.mpr ⟨found, rest, read, rfl⟩

/-- Finds the next item behind the mark. -/
def stepAfter (mark : Token) (item : Reader α) : Reader (Option α) := do
  if ← eat mark then return some (← item)
  else return none

theorem itemsAfter_eq (mark : Token) (item : Reader α) :
    itemsAfter mark item = collect (stepAfter mark item) :=
  rfl

theorem stepAfter_none_iff {mark : Token} (proper : mark ≠ .eof) {item : Reader α} :
    stepAfter mark item tokens = .ok none rest ↔ tokens = rest ∧ rest.headD .eof ≠ mark := by
  unfold stepAfter
  rw [bind_ok_iff]
  constructor
  · intro given
    rcases given with ⟨eaten, middle, taken, success⟩
    rcases (eat_ok_iff proper).mp taken with ⟨rfl, _⟩ | ⟨rfl, rfl, absent⟩
    · obtain ⟨_, _, _, success⟩ := bind_ok_iff.mp success
      cases (pure_ok_iff.mp success).1
    · obtain ⟨_, rfl⟩ := pure_ok_iff.mp success
      exact ⟨rfl, absent⟩
  · intro given
    rcases given with ⟨rfl, absent⟩
    exact ⟨false, tokens, (eat_ok_iff proper).mpr (Or.inr ⟨rfl, rfl, absent⟩), rfl⟩

theorem stepAfter_some_iff {mark : Token} (proper : mark ≠ .eof) {item : Reader α} {found : α} :
    stepAfter mark item tokens = .ok (some found) rest ↔
      ∃ middle, tokens = mark :: middle ∧ item middle = .ok found rest := by
  unfold stepAfter
  rw [bind_ok_iff]
  constructor
  · intro given
    rcases given with ⟨eaten, middle, taken, success⟩
    rcases (eat_ok_iff proper).mp taken with ⟨rfl, rfl⟩ | ⟨rfl, _, _⟩
    · obtain ⟨value, _, read, success⟩ := bind_ok_iff.mp success
      obtain ⟨same, rfl⟩ := pure_ok_iff.mp success
      cases same
      exact ⟨middle, rfl, read⟩
    · cases (pure_ok_iff.mp success).1
  · intro given
    rcases given with ⟨middle, rfl, read⟩
    refine ⟨true, middle, (eat_ok_iff proper).mpr (Or.inl ⟨rfl, rfl⟩), ?_⟩
    exact bind_ok_iff.mpr ⟨found, rest, read, rfl⟩

theorem block_eq (item : Reader α) :
    block item = (do
      if ← eat .openBrace then collect (do skipDescription; stepUntil .closeBrace item)
      else return []) :=
  rfl

end

end EntityLayout.Reader
