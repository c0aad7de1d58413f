import EntityLayout.Sdl.Document.Read

/-!
# Laws of readers

When the small readers succeed, and what they leave: `bind_ok_iff` and `bind_error_iff` take a sequence of
readers apart, and each reader of one token succeeds exactly where that token stands.
-/
namespace EntityLayout.Reader

section
variable {α β : Type} {tokens rest : List Token}

/-- A sequence succeeds exactly when both readers do, the second one on what the first has left. -/
theorem bind_ok_iff {first : Reader α} {next : α → Reader β} {result : β} :
    (first >>= next) tokens = .ok result rest ↔
      ∃ value middle, first tokens = .ok value middle ∧ next value middle = .ok result rest := by
  change EStateM.bind first next tokens = _ ↔ _
  unfold EStateM.bind
  cases first tokens with
  | ok found behind =>
    constructor
    · intro success
      exact ⟨found, behind, rfl, success⟩
    · intro given
      rcases given with ⟨_, _, taken, success⟩
      cases taken
      exact success
  | error cause behind => simp

/-- Behind a success the next reader goes on. -/
theorem bind_of_ok {first : Reader α} {next : α → Reader β} {value : α}
    (taken : first tokens = .ok value rest) : (first >>= next) tokens = next value rest := by
  change EStateM.bind first next tokens = _
  unfold EStateM.bind
  rw [taken]

/-- A sequence fails as the first reader does, or as the second one behind it. -/
theorem bind_error_iff {first : Reader α} {next : α → Reader β} {cause : ParseError} :
    (first >>= next) tokens = .error cause rest ↔
      first tokens = .error cause rest ∨
        ∃ value middle, first tokens = .ok value middle ∧ next value middle = .error cause rest := by
  change EStateM.bind first next tokens = _ ↔ _
  unfold EStateM.bind
  cases first tokens with
  | ok found behind =>
    constructor
    · intro failure
      exact Or.inr ⟨found, behind, rfl, failure⟩
    · intro given
      rcases given with contradictory | ⟨_, _, taken, failure⟩
      · cases contradictory
      · cases taken
        exact failure
  | error cause behind => simp

/-- Behind a failure no reader goes on. -/
theorem bind_of_error {first : Reader α} {next : α → Reader β} {cause : ParseError}
    (failed : first tokens = .error cause rest) : (first >>= next) tokens = .error cause rest :=
  bind_error_iff.mpr (.inl failed)

theorem map_ok_iff {reader : Reader α} {change : α → β} {result : β} :
    (change <$> reader) tokens = .ok result rest ↔
      ∃ value, reader tokens = .ok value rest ∧ change value = result := by
  change EStateM.map change reader tokens = _ ↔ _
  unfold EStateM.map
  cases reader tokens with
  | ok found behind =>
    constructor
    · intro success
      cases success
      exact ⟨found, rfl, rfl⟩
    · intro given
      rcases given with ⟨_, taken, rfl⟩
      cases taken
      rfl
  | error cause behind => simp

theorem pure_ok_iff {value result : α} :
    (pure value : Reader α) tokens = .ok result rest ↔ value = result ∧ tokens = rest := by
  change EStateM.Result.ok value tokens = _ ↔ _
  simp

theorem throw_ok_iff {cause : ParseError} {result : α} :
    (throw cause : Reader α) tokens = .ok result rest ↔ False := by
  change EStateM.Result.error cause tokens = _ ↔ _
  simp

theorem peek_ok_iff {token : Token} :
    peek tokens = .ok token rest ↔ tokens.headD .eof = token ∧ tokens = rest := by
  simp [peek]

theorem advance_ok_iff {token : Token} :
    advance tokens = .ok token rest ↔ tokens.headD .eof = token ∧ tokens.tail = rest := by
  simp [advance]

/-- A token other than the end is only found where it stands. -/
theorem headD_eq_iff {token : Token} (proper : token ≠ .eof) :
    tokens.headD .eof = token ↔ ∃ behind, tokens = token :: behind := by
  cases tokens with
  | nil => simp [Ne.symm proper]
  | cons head behind => simp

/-- A name is read exactly where a word stands. -/
theorem name_ok_iff {word : String} : name tokens = .ok word rest ↔ tokens = .name word :: rest := by
  unfold name
  rw [bind_ok_iff]
  constructor
  · intro given
    rcases given with ⟨found, middle, taken, success⟩
    obtain ⟨head, tail⟩ := advance_ok_iff.mp taken
    split at success
    · obtain ⟨rfl, rfl⟩ := pure_ok_iff.mp success
      obtain ⟨behind, rfl⟩ := (headD_eq_iff (by simp)).mp head
      rw [← tail]
      rfl
    · exact (throw_ok_iff.mp success).elim
  · rintro rfl
    exact ⟨.name word, rest, advance_ok_iff.mpr ⟨rfl, rfl⟩, rfl⟩

theorem name_present {word : String} : name (.name word :: rest) = .ok word rest :=
  name_ok_iff.mpr rfl

theorem expect_ok_iff {wanted : Token} (proper : wanted ≠ .eof) {found : Unit} :
    expect wanted tokens = .ok found rest ↔ tokens = wanted :: rest := by
  unfold expect
  rw [bind_ok_iff]
  constructor
  · intro given
    rcases given with ⟨found, middle, taken, success⟩
    obtain ⟨head, tail⟩ := advance_ok_iff.mp taken
    split at success
    · rename_i same
      obtain ⟨_, rfl⟩ := pure_ok_iff.mp success
      subst same
      obtain ⟨behind, rfl⟩ := (headD_eq_iff proper).mp head
      rw [← tail]
      rfl
    · split at success
      · exact (throw_ok_iff.mp success).elim
      · exact (throw_ok_iff.mp success).elim
  · rintro rfl
    refine ⟨wanted, rest, advance_ok_iff.mpr ⟨rfl, rfl⟩, ?_⟩
    rw [if_pos rfl]
    rfl

theorem expect_present {wanted : Token} : expect wanted (wanted :: rest) = .ok () rest := by
  rw [expect, bind_of_ok (advance_ok_iff.mpr ⟨rfl, rfl⟩), List.headD_cons, if_pos rfl]
  rfl

theorem eat_present {token : Token} : eat token (token :: rest) = .ok true rest := by
  rw [eat, bind_of_ok (peek_ok_iff.mpr ⟨rfl, rfl⟩), List.headD_cons, if_pos rfl]
  rfl

theorem eat_absent {token : Token} (absent : tokens.headD .eof ≠ token) :
    eat token tokens = .ok false tokens := by
  rw [eat, bind_of_ok (peek_ok_iff.mpr ⟨rfl, rfl⟩), if_neg absent]
  rfl

theorem eat_ok_iff {token : Token} (proper : token ≠ .eof) {eaten : Bool} :
    eat token tokens = .ok eaten rest ↔
      (eaten = true ∧ tokens = token :: rest) ∨
        (eaten = false ∧ tokens = rest ∧ rest.headD .eof ≠ token) := by
  by_cases same : tokens.headD .eof = token
  · obtain ⟨behind, rfl⟩ := (headD_eq_iff proper).mp same
    rw [eat_present]
    constructor
    · intro success
      cases success
      exact Or.inl ⟨rfl, rfl⟩
    · intro given
      rcases given with ⟨rfl, found⟩ | ⟨_, rfl, absent⟩
      · rw [(List.cons.inj found).2]
      · exact absurd rfl absent
  · rw [eat_absent same]
    constructor
    · intro success
      cases success
      exact Or.inr ⟨rfl, rfl, same⟩
    · intro given
      rcases given with ⟨_, rfl⟩ | ⟨rfl, rfl, _⟩
      · exact absurd rfl same
      · rfl

end

end EntityLayout.Reader
