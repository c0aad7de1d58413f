import EntityLayout.Proofs.Sdl.Recognition

/-!
# Described listings

Items that may each have a description in front of them, as they stand in a block and in a document. A
text always starts a description, since no item does.
-/
namespace EntityLayout.Grammar
open Reader

section
variable {α : Type} {Item : List Token → α → Prop}

/-- A text starts a description wherever one may stand. -/
theorem skipDescription_sound {tokens rest : List Token} (success : skipDescription tokens = .ok () rest) :
    ∃ front, Takes front tokens rest ∧ Description front := by
  unfold skipDescription at success
  obtain ⟨head, middle, seen, success⟩ := bind_ok_iff.mp success
  obtain ⟨starts, rfl⟩ := peek_ok_iff.mp seen
  split at success
  · rename_i text
    obtain ⟨behind, rfl⟩ := (headD_eq_iff (by simp)).mp starts
    change EStateM.Result.ok () behind = _ at success
    cases success
    exact ⟨[.str text], .cons (by simp) .none, .text text⟩
  · obtain ⟨_, rfl⟩ := pure_ok_iff.mp success
    exact ⟨[], .none, .absent⟩

/-- Any description is read over, unless a further text follows it. -/
theorem skipDescription_complete {description rest : List Token} (derived : Description description)
    (clear : ∀ text, rest.headD .eof ≠ .str text) :
    skipDescription (description ++ rest) = .ok () rest := by
  cases derived with
  | text text => rfl
  | absent =>
    rw [List.nil_append]
    unfold skipDescription
    refine bind_ok_iff.mpr ⟨_, rest, peek_ok_iff.mpr ⟨rfl, rfl⟩, ?_⟩
    generalize rest.headD .eof = head at clear
    cases head with
    | str text => exact absurd rfl (clear text)
    | _ => rfl

/-- Every item starts with a name, and it is none of those given. -/
def StartsWithName (Item : List Token → α → Prop) (avoided : List Token) : Prop :=
  ∀ {front item}, Item front item → ∃ word tail, front = .name word :: tail ∧ .name word ∉ avoided

theorem StartsWithName.narrow {less more : List Token} (included : less ⊆ more)
    (named : StartsWithName Item more) : StartsWithName Item less := by
  intro front item derived
  obtain ⟨word, tail, same, allowed⟩ := named derived
  exact ⟨word, tail, same, fun member => allowed (included member)⟩

theorem Described.starts {avoided : List Token} (texts : ∀ text, .str text ∉ avoided)
    (named : StartsWithName Item avoided) : Starts (Described Item) avoided := by
  intro front item derived
  obtain ⟨description, derived⟩ := derived
  obtain ⟨word, tail, rfl, allowed⟩ := named derived
  cases description with
  | absent => exact ⟨.name word, tail, rfl, allowed⟩
  | text text => exact ⟨.str text, .name word :: tail, rfl, texts text⟩

section
variable {step : Reader (Option α)}

/-- A step that may find a description first. -/
def describedStep (step : Reader (Option α)) : Reader (Option α) := do
  skipDescription
  step

/-- What is read behind a description is an item behind it. -/
theorem describedStep_sound
    (sound : ∀ {tokens item rest}, step tokens = .ok (some item) rest →
      ∃ front, Takes front tokens rest ∧ Item front item)
    {tokens rest : List Token} {item : α} (success : describedStep step tokens = .ok (some item) rest) :
    ∃ front, Takes front tokens rest ∧ Described Item front item := by
  obtain ⟨_, middle, skipped, success⟩ := bind_ok_iff.mp success
  obtain ⟨description, takes, described⟩ := skipDescription_sound skipped
  obtain ⟨front, others, derived⟩ := sound success
  exact ⟨description ++ front, takes.append others, .mk described derived⟩

/-- Conversely, an item is read with its description, for it does not start with a text itself. -/
theorem describedStep_complete {continuing : List Token} (named : StartsWithName Item [])
    (complete : ∀ {front item rest}, Item front item → rest.headD .eof ∉ continuing →
      step (front ++ rest) = .ok (some item) rest)
    {front rest : List Token} {item : α} (derived : Described Item front item) (clear : rest.headD .eof ∉ continuing) :
    describedStep step (front ++ rest) = .ok (some item) rest := by
  obtain ⟨described, derived⟩ := derived
  obtain ⟨word, tail, rfl, _⟩ := named derived
  rw [List.append_assoc]
  exact bind_ok_iff.mpr ⟨(), _, skipDescription_complete described (by simp), complete derived clear⟩

theorem describedStep_progress (named : StartsWithName Item [])
    (sound : ∀ {tokens item rest}, step tokens = .ok (some item) rest →
      ∃ front, Takes front tokens rest ∧ Item front item) : Progress (describedStep step) :=
  progress_of_sound (Described.starts (by simp) named) (describedStep_sound sound)

/-- A listing is read item by item, up to what stops the step. -/
theorem listing_sound (named : StartsWithName Item [])
    (sound : ∀ {tokens item rest}, step tokens = .ok (some item) rest →
      ∃ front, Takes front tokens rest ∧ Item front item)
    {tokens rest : List Token} {items : List α}
    (success : collect (describedStep step) tokens = .ok items rest) :
    ∃ front last, Takes front tokens last ∧ Listing Item front items ∧ step last = .ok none rest := by
  obtain ⟨front, behind, takes, many, stopped⟩ :=
    collect_sound (Described.starts (by simp) named) (describedStep_sound sound) success
  obtain ⟨_, last, skipped, stopped⟩ := bind_ok_iff.mp stopped
  obtain ⟨description, others, described⟩ := skipDescription_sound skipped
  exact ⟨front ++ description, last, takes.append others, .mk many described, stopped⟩

/-- Conversely, all items of a listing are read, and the step stops where none could follow. -/
theorem listing_complete {continuing : List Token} (texts : ∀ text, .str text ∉ continuing)
    (named : StartsWithName Item continuing)
    (sound : ∀ {tokens item rest}, step tokens = .ok (some item) rest →
      ∃ front, Takes front tokens rest ∧ Item front item)
    (complete : ∀ {front item rest}, Item front item → rest.headD .eof ∉ continuing →
      step (front ++ rest) = .ok (some item) rest)
    {last rest : List Token} (clear : last.headD .eof ∉ continuing)
    (plain : ∀ text, last.headD .eof ≠ .str text) (stopped : step last = .ok none rest)
    {front : List Token} {items : List α} (derived : Listing Item front items) :
    collect (describedStep step) (front ++ last) = .ok items rest := by
  obtain ⟨many, description⟩ := derived
  have unnamed : StartsWithName Item [] := named.narrow (List.nil_subset continuing)
  rw [List.append_assoc]
  refine collect_complete (describedStep_progress unnamed sound) (Described.starts texts named)
    (describedStep_complete unnamed complete) ?_ ?_ many
  · cases description with
    | absent => exact clear
    | text text => exact texts text
  · exact bind_ok_iff.mpr ⟨(), last, skipDescription_complete description plain, stopped⟩

end

theorem Block.clear {front rest : List Token} {items : List α} {avoided : List Token}
    (opens : .openBrace ∉ avoided) (clear : rest.headD .eof ∉ avoided) (derived : Block Item front items) :
    (front ++ rest).headD .eof ∉ avoided := by
  cases derived with
  | absent => exact clear
  | braces _ => exact opens

/-- What follows a block cannot continue it, except that braces may follow where there is none. -/
theorem block_recognizes {continuing : List Token} {item : Reader α}
    (texts : ∀ text, .str text ∉ continuing) (closes : .closeBrace ∉ continuing)
    (named : StartsWithName Item continuing) (recognizes : Recognizes item Item continuing) :
    Recognizes (block item) (Block Item) [.openBrace] := by
  have unnamed : StartsWithName Item [] := named.narrow (List.nil_subset continuing)
  have sound {tokens rest : List Token} {found : α}
      (taken : stepUntil .closeBrace item tokens = .ok (some found) rest) :
      ∃ front, Takes front tokens rest ∧ Item front found :=
    stepUntil_sound (by simp) recognizes taken
  refine ⟨?_, ?_⟩
  · intro tokens rest items success
    rw [block_eq] at success
    obtain ⟨eaten, middle, taken, success⟩ := bind_ok_iff.mp success
    rcases (eat_ok_iff (by simp)).mp taken with ⟨rfl, rfl⟩ | ⟨rfl, rfl, _⟩
    · obtain ⟨front, last, takes, listing, stopped⟩ := listing_sound unnamed sound success
      obtain rfl := (stepUntil_none_iff (by simp)).mp stopped
      exact ⟨.openBrace :: front ++ [.closeBrace],
        (takes.append (.cons (by simp) .none)).cons (by simp), .braces listing⟩
    · obtain ⟨rfl, rfl⟩ := pure_ok_iff.mp success
      exact ⟨[], .none, .absent⟩
  · intro front rest items derived clear
    rw [block_eq]
    cases derived with
    | absent =>
      have absent : rest.headD .eof ≠ .openBrace := fun same => clear (List.mem_singleton.mpr same)
      exact bind_ok_iff.mpr ⟨false, rest, eat_absent absent, rfl⟩
    | braces listing =>
      refine bind_ok_iff.mpr ⟨true, _, eat_present, ?_⟩
      change collect (describedStep (stepUntil .closeBrace item)) (_ ++ [.closeBrace] ++ rest) = _
      rw [List.append_assoc]
      refine listing_complete texts named sound ?_ ?_ (by simp) ?_ listing
      · intro front found rest derived clear
        obtain ⟨word, tail, rfl, _⟩ := named derived
        exact (stepUntil_some_iff (by simp)).mpr ⟨by simp, recognizes.complete derived clear⟩
      · exact closes
      · exact (stepUntil_none_iff (by simp)).mpr rfl

end

end EntityLayout.Grammar
