import EntityLayout.Proofs.Sdl.Grammar
import EntityLayout.Proofs.Sdl.Repetition

/-!
# Readers that recognise a part of the grammar

A reader looks one token ahead, so that it finds the tokens of an item exactly unless the token behind
them could continue the item. `Recognizes` says this with the tokens that could, and
`itemsUntil_recognizes` and `itemsAfter_recognizes` carry it from a reader to its repetitions.
-/
namespace EntityLayout.Grammar
open Reader

section
variable {α : Type} {Item : List Token → α → Prop}

/-- The tokens between two positions, without the end. -/
structure Takes (front tokens rest : List Token) : Prop where
  split : tokens = front ++ rest
  proper : .eof ∉ front

theorem Takes.none {tokens : List Token} : Takes [] tokens tokens :=
  ⟨rfl, List.not_mem_nil⟩

theorem Takes.cons {token : Token} {front tokens rest : List Token} (proper : token ≠ .eof)
    (taken : Takes front tokens rest) : Takes (token :: front) (token :: tokens) rest := by
  refine ⟨by rw [taken.split, List.cons_append], ?_⟩
  rw [List.mem_cons]
  intro given
  rcases given with same | member
  · exact proper same.symm
  · exact taken.proper member

theorem Takes.append {front next tokens middle rest : List Token} (first : Takes front tokens middle)
    (second : Takes next middle rest) : Takes (front ++ next) tokens rest := by
  refine ⟨by rw [first.split, second.split, List.append_assoc], ?_⟩
  rw [List.mem_append]
  intro given
  rcases given with member | member
  · exact first.proper member
  · exact second.proper member

/-- The reader takes the tokens of an item, and takes them wherever no token behind them continues it. -/
structure Recognizes (reader : Reader α) (Item : List Token → α → Prop) (continuing : List Token) :
    Prop where
  sound {tokens rest : List Token} {item : α} :
    reader tokens = .ok item rest → ∃ front, Takes front tokens rest ∧ Item front item
  complete {front rest : List Token} {item : α} :
    Item front item → rest.headD .eof ∉ continuing → reader (front ++ rest) = .ok item rest

theorem Recognizes.congr {reader : Reader α} {Other : List Token → α → Prop} {continuing : List Token}
    (recognizes : Recognizes reader Item continuing)
    (same : ∀ tokens item, Item tokens item ↔ Other tokens item) :
    Recognizes reader Other continuing := by
  refine ⟨?_, fun derived => recognizes.complete ((same _ _).mpr derived)⟩
  intro tokens rest item success
  obtain ⟨front, takes, derived⟩ := recognizes.sound success
  exact ⟨front, takes, (same front item).mp derived⟩

/-- Every item has a first token, and it is none of those given. -/
def Starts (Item : List Token → α → Prop) (avoided : List Token) : Prop :=
  ∀ {front item}, Item front item → ∃ head tail, front = head :: tail ∧ head ∉ avoided

theorem Starts.narrow {less more : List Token} (included : less ⊆ more) (starts : Starts Item more) :
    Starts Item less := by
  intro front item derived
  obtain ⟨head, tail, same, allowed⟩ := starts derived
  exact ⟨head, tail, same, fun member => allowed (included member)⟩

theorem Many.clear {front rest : List Token} {items : List α} {avoided : List Token}
    (starts : Starts Item avoided) (derived : Many Item front items) (clear : rest.headD .eof ∉ avoided) :
    (front ++ rest).headD .eof ∉ avoided := by
  cases derived with
  | nil => exact clear
  | cons first others =>
    obtain ⟨head, tail, rfl, allowed⟩ := starts first
    exact allowed

/-- Many items of a restricted kind are many items that all keep to the restriction. -/
theorem many_and_iff {Restriction : α → Prop} {tokens : List Token} {items : List α} :
    Many (fun tokens item => Item tokens item ∧ Restriction item) tokens items ↔
      Many Item tokens items ∧ ∀ item ∈ items, Restriction item := by
  constructor
  · intro many
    induction many with
    | nil => exact ⟨.nil, by simp⟩
    | cons first _ ih => exact ⟨.cons first.1 ih.1, List.forall_mem_cons.mpr ⟨first.2, ih.2⟩⟩
  · intro given
    rcases given with ⟨many, restricted⟩
    induction many with
    | nil => exact .nil
    | cons first _ ih =>
      obtain ⟨one, others⟩ := List.forall_mem_cons.mp restricted
      exact .cons ⟨first, one⟩ (ih others)

theorem Behind.starts {mark : Token} {avoided : List Token} (allowed : mark ∉ avoided) :
    Starts (Behind mark Item) avoided := by
  intro front item derived
  cases derived with
  | mk derived => exact ⟨mark, _, rfl, allowed⟩

/-- A step whose items are never empty takes a token whenever it finds one. -/
theorem progress_of_sound {step : Reader (Option α)} (nonempty : Starts Item [])
    (sound : ∀ {tokens item rest}, step tokens = .ok (some item) rest →
      ∃ front, Takes front tokens rest ∧ Item front item) : Progress step := by
  intro tokens item rest taken
  obtain ⟨front, takes, derived⟩ := sound taken
  obtain ⟨head, tail, rfl, _⟩ := nonempty derived
  rw [takes.split, List.cons_append, List.length_cons, List.length_append]
  omega

/-- A repetition takes many items, up to where its step finds no further one. -/
theorem collect_sound {step : Reader (Option α)} (nonempty : Starts Item [])
    (sound : ∀ {tokens item rest}, step tokens = .ok (some item) rest →
      ∃ front, Takes front tokens rest ∧ Item front item) :
    ∀ {items : List α} {tokens rest : List Token}, collect step tokens = .ok items rest →
      ∃ front last, Takes front tokens last ∧ Many Item front items ∧ step last = .ok none rest
  | [], tokens, rest, success =>
    ⟨[], tokens, .none, .nil, (collect_nil_iff (progress_of_sound nonempty sound)).mp success⟩
  | item :: items, tokens, rest, success => by
    obtain ⟨middle, taken, again⟩ :=
      (collect_cons_iff (progress_of_sound nonempty sound)).mp success
    obtain ⟨front, takes, derived⟩ := sound taken
    obtain ⟨behind, last, others, many, stopped⟩ := collect_sound nonempty sound again
    exact ⟨front ++ behind, last, takes.append others, .cons derived many, stopped⟩

/-- A repetition finds many items in front of a place where its step stops. -/
theorem collect_complete {step : Reader (Option α)} {continuing : List Token}
    (progress : Progress step) (starts : Starts Item continuing)
    (complete : ∀ {front item rest}, Item front item → rest.headD .eof ∉ continuing →
      step (front ++ rest) = .ok (some item) rest)
    {last rest : List Token} (clear : last.headD .eof ∉ continuing)
    (stopped : step last = .ok none rest) {front : List Token} {items : List α}
    (derived : Many Item front items) : collect step (front ++ last) = .ok items rest := by
  induction derived with
  | nil => exact (collect_nil_iff progress).mpr stopped
  | cons first others ih =>
    -- What stands behind this item is the next one, or the place where the step stops.
    rw [List.append_assoc]
    exact (collect_cons_iff progress).mpr ⟨_, complete first (others.clear starts clear), ih⟩

/-- A repetition fails behind many items, in front of a place where its step fails. -/
theorem collect_error {step : Reader (Option α)} {continuing : List Token}
    (progress : Progress step) (starts : Starts Item continuing)
    (complete : ∀ {front item rest}, Item front item → rest.headD .eof ∉ continuing →
      step (front ++ rest) = .ok (some item) rest)
    {last rest : List Token} {cause : ParseError} (clear : last.headD .eof ∉ continuing)
    (failed : step last = .error cause rest) {front : List Token} {items : List α}
    (derived : Many Item front items) : collect step (front ++ last) = .error cause rest := by
  induction derived with
  | nil =>
    rw [List.nil_append, collect_eq progress]
    exact bind_of_error failed
  | cons first others ih =>
    -- The item ends where the next one or that place starts, so that it is read as it was derived.
    rw [List.append_assoc, collect_eq progress]
    exact (bind_of_ok (complete first (others.clear starts clear))).trans (bind_of_error ih)

/-- The items up to a closing token. -/
inductive Until (close : Token) (Item : List Token → α → Prop) : List Token → List α → Prop
  | mk {tokens : List Token} {items : List α} :
      Many Item tokens items → Until close Item (tokens ++ [close]) items

theorem until_and_iff {close : Token} {Restriction : α → Prop} {tokens : List Token} {items : List α} :
    Until close (fun tokens item => Item tokens item ∧ Restriction item) tokens items ↔
      Until close Item tokens items ∧ ∀ item ∈ items, Restriction item := by
  constructor
  · intro given
    rcases given with ⟨many⟩
    obtain ⟨many, restricted⟩ := many_and_iff.mp many
    exact ⟨.mk many, restricted⟩
  · intro given
    rcases given with ⟨⟨many⟩, restricted⟩
    exact .mk (many_and_iff.mpr ⟨many, restricted⟩)

section
variable {reader : Reader α} {continuing front tokens rest : List Token} {item : α}

/-- An item in front of the closing token is one that the reader found. -/
theorem stepUntil_sound {close : Token} (proper : close ≠ .eof) (recognizes : Recognizes reader Item continuing)
    (taken : stepUntil close reader tokens = .ok (some item) rest) :
    ∃ front, Takes front tokens rest ∧ Item front item :=
  recognizes.sound ((stepUntil_some_iff proper).mp taken).2

/-- Conversely, an item is found, since it does not start with the closing token. -/
theorem stepUntil_complete {close : Token} (proper : close ≠ .eof) (starts : Starts Item (close :: continuing))
    (recognizes : Recognizes reader Item continuing) (derived : Item front item)
    (clear : rest.headD .eof ∉ continuing) : stepUntil close reader (front ++ rest) = .ok (some item) rest := by
  obtain ⟨head, tail, rfl, allowed⟩ := starts derived
  refine (stepUntil_some_iff proper).mpr ⟨?_, recognizes.complete derived clear⟩
  rintro rfl
  exact allowed List.mem_cons_self

theorem stepAfter_sound {mark : Token} (proper : mark ≠ .eof) (recognizes : Recognizes reader Item continuing)
    (taken : stepAfter mark reader tokens = .ok (some item) rest) :
    ∃ front, Takes front tokens rest ∧ Behind mark Item front item := by
  obtain ⟨middle, rfl, read⟩ := (stepAfter_some_iff proper).mp taken
  obtain ⟨front, takes, derived⟩ := recognizes.sound read
  exact ⟨mark :: front, takes.cons proper, .mk derived⟩

theorem stepAfter_complete {mark : Token} (proper : mark ≠ .eof) (recognizes : Recognizes reader Item continuing)
    (derived : Behind mark Item front item) (clear : rest.headD .eof ∉ continuing) :
    stepAfter mark reader (front ++ rest) = .ok (some item) rest := by
  obtain ⟨derived⟩ := derived
  exact (stepAfter_some_iff proper).mpr ⟨_, rfl, recognizes.complete derived clear⟩

theorem stepUntil_progress {close : Token} (proper : close ≠ .eof) (nonempty : Starts Item [])
    (recognizes : Recognizes reader Item continuing) : Progress (stepUntil close reader) :=
  progress_of_sound nonempty (stepUntil_sound proper recognizes)

theorem stepAfter_progress {mark : Token} (proper : mark ≠ .eof) (recognizes : Recognizes reader Item continuing) :
    Progress (stepAfter mark reader) :=
  progress_of_sound (Behind.starts List.not_mem_nil) (stepAfter_sound proper recognizes)

end

/-- Items up to a closing token are recognised when each of them is, and none starts with that token. -/
theorem itemsUntil_recognizes {close : Token} {continuing : List Token} {item : Reader α}
    (proper : close ≠ .eof) (closes : close ∉ continuing) (starts : Starts Item (close :: continuing))
    (recognizes : Recognizes item Item continuing) :
    Recognizes (itemsUntil close item) (Until close Item) [] := by
  have nonempty : Starts Item [] := starts.narrow (List.nil_subset _)
  refine ⟨?_, ?_⟩
  · intro tokens rest items success
    rw [itemsUntil_eq] at success
    obtain ⟨front, last, takes, many, stopped⟩ :=
      collect_sound nonempty (stepUntil_sound proper recognizes) success
    obtain rfl := (stepUntil_none_iff proper).mp stopped
    exact ⟨front ++ [close], takes.append (.cons proper .none), .mk many⟩
  · intro front rest items derived _
    obtain ⟨many⟩ := derived
    rw [itemsUntil_eq, List.append_assoc]
    refine collect_complete (stepUntil_progress proper nonempty recognizes)
      (starts.narrow (List.subset_cons_self close continuing)) (stepUntil_complete proper starts recognizes) ?_
      ((stepUntil_none_iff proper).mpr rfl) many
    exact closes

/-- Items behind marks are recognised when each of them is, and could go on with a further mark. -/
theorem itemsAfter_recognizes {mark : Token} {continuing : List Token} {item : Reader α}
    (proper : mark ≠ .eof) (marks : mark ∉ continuing) (recognizes : Recognizes item Item continuing) :
    Recognizes (itemsAfter mark item) (Many (Behind mark Item)) (mark :: continuing) := by
  refine ⟨?_, ?_⟩
  · intro tokens rest items success
    rw [itemsAfter_eq] at success
    obtain ⟨front, last, takes, many, stopped⟩ :=
      collect_sound (Behind.starts List.not_mem_nil) (stepAfter_sound proper recognizes) success
    obtain ⟨rfl, _⟩ := (stepAfter_none_iff proper).mp stopped
    exact ⟨front, takes, many⟩
  · intro front rest items many clear
    rw [List.mem_cons, not_or] at clear
    rw [itemsAfter_eq]
    exact collect_complete (stepAfter_progress proper recognizes) (Behind.starts marks)
      (stepAfter_complete proper recognizes) clear.2 ((stepAfter_none_iff proper).mpr ⟨rfl, clear.1⟩) many

end

end EntityLayout.Grammar
