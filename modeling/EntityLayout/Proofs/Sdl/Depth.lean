import EntityLayout.Proofs.Sdl.Recognition

/-!
# Types and values within a depth

Depth is the room that a reader is given: a list or an object takes one of it, and where none is left the
reader takes neither. With the room that it has, a reader recognises exactly the types
(`type_recognizes`) or values (`value_recognizes`) that need no more.
-/
namespace EntityLayout.Grammar
open Reader

def TypeWithin (limit : Nat) (tokens : List Token) (type : TypeRef) : Prop :=
  DerivesType tokens type ∧ type.nesting < limit

theorem throw_recognizes {α : Type} {Item : List Token → α → Prop} {continuing : List Token}
    {cause : ParseError} (empty : ∀ tokens item, ¬ Item tokens item) :
    Recognizes (throw cause) Item continuing :=
  ⟨fun success => (throw_ok_iff.mp success).elim, fun derived => absurd derived (empty _ _)⟩

/-- Reads the mark behind a type. -/
def marked (type : TypeRef) : Reader TypeRef := do
  if ← eat .bang then return .nonNull type
  else return type

/-- The mark behind a type adds no list to it, and a second mark is left for others to refuse. -/
theorem marked_sound {front tokens middle rest : List Token} {type result : TypeRef} {limit : Nat}
    (takes : Takes front tokens middle) (optional : OptionalType front type)
    (shallow : type.nesting < limit) (success : marked type middle = .ok result rest) :
    ∃ front, Takes front tokens rest ∧ TypeWithin limit front result := by
  obtain ⟨eaten, behind, taken, success⟩ := bind_ok_iff.mp success
  rcases (eat_ok_iff (by simp)).mp taken with ⟨rfl, rfl⟩ | ⟨rfl, rfl, _⟩
  · obtain ⟨rfl, rfl⟩ := pure_ok_iff.mp success
    exact ⟨front ++ [.bang], takes.append (.cons (by simp) .none), .required optional, shallow⟩
  · obtain ⟨rfl, rfl⟩ := pure_ok_iff.mp success
    exact ⟨front, takes, .optional optional, shallow⟩

/-- Up to its mark, a type is read as its first token tells. -/
theorem typeOf_optional {element : Reader TypeRef} {limit : Nat}
    (elements : Recognizes element (TypeWithin limit) [.bang]) {front rest : List Token} {type : TypeRef}
    (optional : OptionalType front type) (shallow : type.nesting < limit + 1) :
    typeOf element (front ++ rest) = marked type rest := by
  cases optional with
  | named name => rfl
  | @list tokens inner derived =>
    have within : TypeWithin limit tokens inner := ⟨derived, Nat.lt_of_succ_lt_succ shallow⟩
    have read : element (tokens ++ [.closeBracket] ++ rest) = .ok inner (.closeBracket :: rest) := by
      rw [List.append_assoc]
      exact elements.complete within (by simp)
    change (element >>= _) (tokens ++ [.closeBracket] ++ rest) = _
    rw [bind_of_ok read]
    rfl

/-- With readers of elements for one list less, types are read within the limit. -/
theorem typeOf_recognizes {element : Reader TypeRef} {limit : Nat}
    (elements : Recognizes element (TypeWithin limit) [.bang]) :
    Recognizes (typeOf element) (TypeWithin (limit + 1)) [.bang] := by
  refine ⟨?_, ?_⟩
  · intro tokens rest type success
    unfold typeOf at success
    obtain ⟨head, middle, taken, success⟩ := bind_ok_iff.mp success
    obtain ⟨starts, rfl⟩ := advance_ok_iff.mp taken
    split at success
    · rename_i word
      obtain ⟨behind, rfl⟩ := (headD_eq_iff (by simp)).mp starts
      exact marked_sound (.cons (by simp) .none) (.named word) (Nat.zero_lt_succ limit) success
    · obtain ⟨behind, rfl⟩ := (headD_eq_iff (by simp)).mp starts
      obtain ⟨inner, middle, read, success⟩ := bind_ok_iff.mp success
      obtain ⟨front, takes, derived, shallow⟩ := elements.sound read
      obtain ⟨_, behind, closed, success⟩ := bind_ok_iff.mp success
      obtain rfl := (expect_ok_iff (by simp)).mp closed
      exact marked_sound ((takes.append (.cons (by simp) .none)).cons (by simp)) (.list derived)
        (Nat.succ_lt_succ shallow) success
    · obtain ⟨_, _, failed, _⟩ := bind_ok_iff.mp success
      exact (throw_ok_iff.mp failed).elim
  · intro front rest type derived clear
    obtain ⟨derived, shallow⟩ := derived
    cases derived with
    | optional optional =>
      rw [typeOf_optional elements optional shallow]
      have unmarked : rest.headD .eof ≠ .bang := fun same => clear (List.mem_singleton.mpr same)
      exact bind_ok_iff.mpr ⟨false, rest, eat_absent unmarked, rfl⟩
    | required optional =>
      rw [List.append_assoc, typeOf_optional elements optional shallow]
      exact bind_ok_iff.mpr ⟨true, rest, eat_present, rfl⟩

/-- By induction on the room: where none is left, no element is read at all. -/
theorem type_recognizes : ∀ room : Nat, Recognizes (type room) (TypeWithin (room + 1)) [.bang]
  | 0 => typeOf_recognizes (throw_recognizes fun _ _ within => Nat.not_lt_zero _ within.2)
  | room + 1 => typeOf_recognizes (type_recognizes room)

def ValueWithin (limit : Nat) (tokens : List Token) (value : Value) : Prop :=
  DerivesValue tokens value ∧ value.nesting < limit

def ArgumentWithin (limit : Nat) (tokens : List Token) (argument : Argument) : Prop :=
  DerivesArgument tokens argument ∧ argument.value.nesting < limit

/-- What stands behind the opening token of a list. -/
def ItemsWithin (limit : Nat) (tokens : List Token) (items : List Value) : Prop :=
  Until .closeBracket DerivesValue tokens items ∧ itemsNesting items < limit

/-- What stands behind the opening token of an object. -/
def EntriesWithin (limit : Nat) (tokens : List Token) (entries : List Argument) : Prop :=
  Until .closeBrace DerivesArgument tokens entries ∧ entriesNesting entries < limit

theorem DerivesValue.starts : Starts DerivesValue [.closeBracket] := by
  intro front value derived
  cases derived with
  | list _ => exact ⟨.openBracket, _, rfl, by simp⟩
  | object _ => exact ⟨.openBrace, _, rfl, by simp⟩
  | _ => exact ⟨_, [], rfl, by simp⟩

theorem DerivesArgument.starts {avoided : List Token} (names : ∀ word, .name word ∉ avoided) :
    Starts DerivesArgument avoided := by
  intro front argument derived
  cases derived with
  | mk name _ => exact ⟨.name name, _, rfl, names name⟩

theorem word_derives (text : String) : DerivesValue [.name text] (word text) := by
  unfold word
  split
  · rename_i same
    subst same
    exact .true
  · split
    · rename_i same
      subst same
      exact .false
    · split
      · rename_i same
        subst same
        exact .null
      · exact .enum (by simp [*])

theorem word_nesting (text : String) : (word text).nesting = 0 := by
  unfold word
  split
  · rfl
  · split
    · rfl
    · split
      · rfl
      · rfl

theorem argumentOf_recognizes {value : Reader Value} {limit : Nat}
    (values : Recognizes value (ValueWithin limit) []) :
    Recognizes (argumentOf value) (ArgumentWithin limit) [] := by
  refine ⟨?_, ?_⟩
  · intro tokens rest argument success
    simp only [argumentOf, bind_ok_iff, name_ok_iff, expect_ok_iff, pure_ok_iff, ne_eq, reduceCtorEq,
      not_false_eq_true] at success
    obtain ⟨name, _, rfl, _, _, rfl, found, _, read, rfl, rfl⟩ := success
    obtain ⟨front, takes, derived, shallow⟩ := values.sound read
    exact ⟨.name name :: .colon :: front, (takes.cons (by simp)).cons (by simp), .mk name derived,
      shallow⟩
  · intro front rest argument derived clear
    obtain ⟨derived, shallow⟩ := derived
    cases derived with
    | mk name derived =>
      refine bind_ok_iff.mpr ⟨name, _, name_ok_iff.mpr rfl, ?_⟩
      refine bind_ok_iff.mpr ⟨(), _, (expect_ok_iff (by simp)).mpr rfl, ?_⟩
      exact bind_ok_iff.mpr ⟨_, rest, values.complete ⟨derived, shallow⟩ clear, rfl⟩

/-- A value of one token is read by its first token alone. -/
theorem single_sound {token : Token} {tokens rest : List Token} {found value : Value} {limit : Nat}
    (derived : DerivesValue [token] found) (flat : found.nesting = 0) (proper : token ≠ .eof)
    (starts : tokens.headD .eof = token)
    (success : (pure found : Reader Value) tokens.tail = .ok value rest) :
    ∃ front, Takes front tokens rest ∧ ValueWithin (limit + 1) front value := by
  obtain ⟨behind, rfl⟩ := (headD_eq_iff proper).mp starts
  obtain ⟨rfl, rfl⟩ := pure_ok_iff.mp success
  refine ⟨[token], .cons proper .none, derived, ?_⟩
  rw [flat]
  exact Nat.zero_lt_succ limit

theorem valueOf_recognizes {items : Reader (List Value)} {entries : Reader (List Argument)} {limit : Nat}
    (lists : Recognizes items (ItemsWithin limit) [])
    (objects : Recognizes entries (EntriesWithin limit) []) :
    Recognizes (valueOf items entries) (ValueWithin (limit + 1)) [] := by
  refine ⟨?_, ?_⟩
  · intro tokens rest value success
    unfold valueOf at success
    obtain ⟨head, middle, taken, success⟩ := bind_ok_iff.mp success
    obtain ⟨starts, rfl⟩ := advance_ok_iff.mp taken
    split at success
    · rename_i number
      exact single_sound (.int number) rfl (by simp) starts success
    · rename_i number
      exact single_sound (.float number) rfl (by simp) starts success
    · rename_i text
      exact single_sound (.str text) rfl (by simp) starts success
    · rename_i text
      exact single_sound (word_derives text) (word_nesting text) (by simp) starts success
    · obtain ⟨behind, rfl⟩ := (headD_eq_iff (by simp)).mp starts
      simp only [bind_ok_iff, pure_ok_iff] at success
      obtain ⟨found, _, read, rfl, rfl⟩ := success
      obtain ⟨_, takes, ⟨many⟩, shallow⟩ := lists.sound read
      exact ⟨_, takes.cons (by simp), .list many, Nat.succ_lt_succ shallow⟩
    · obtain ⟨behind, rfl⟩ := (headD_eq_iff (by simp)).mp starts
      simp only [bind_ok_iff, pure_ok_iff] at success
      obtain ⟨found, _, read, rfl, rfl⟩ := success
      obtain ⟨_, takes, ⟨many⟩, shallow⟩ := objects.sound read
      exact ⟨_, takes.cons (by simp), .object many, Nat.succ_lt_succ shallow⟩
    · exact (throw_ok_iff.mp success).elim
  · intro front rest value derived clear
    obtain ⟨derived, shallow⟩ := derived
    cases derived with
    | @enum text other =>
      have kept : word text = .enum text := by
        simp only [List.mem_cons, List.not_mem_nil, or_false, not_or] at other
        unfold word
        rw [if_neg other.1, if_neg other.2.1, if_neg other.2.2]
      change EStateM.Result.ok (word text) rest = _
      rw [kept]
    | list many =>
      have read := lists.complete ⟨.mk many, Nat.lt_of_succ_lt_succ shallow⟩ clear
      exact bind_ok_iff.mpr ⟨.openBracket, _, advance_ok_iff.mpr ⟨rfl, rfl⟩, bind_of_ok read⟩
    | object many =>
      have read := objects.complete ⟨.mk many, Nat.lt_of_succ_lt_succ shallow⟩ clear
      exact bind_ok_iff.mpr ⟨.openBrace, _, advance_ok_iff.mpr ⟨rfl, rfl⟩, bind_of_ok read⟩
    | _ => rfl

theorem items_recognizes {value : Reader Value} {limit : Nat}
    (values : Recognizes value (ValueWithin (limit + 1)) []) :
    Recognizes (itemsUntil .closeBracket value) (ItemsWithin (limit + 1)) [] := by
  have starts : Starts (ValueWithin (limit + 1)) [.closeBracket] := fun within =>
    DerivesValue.starts within.1
  refine (itemsUntil_recognizes (by simp) List.not_mem_nil starts values).congr fun tokens items => ?_
  unfold ItemsWithin
  rw [Nat.lt_succ_iff, itemsNesting_le_iff]
  simp only [← Nat.lt_succ_iff]
  exact until_and_iff

theorem entries_recognizes (close : Token) (proper : close ≠ .eof) (closes : ∀ word, .name word ≠ close)
    {value : Reader Value} {limit : Nat} (values : Recognizes value (ValueWithin (limit + 1)) []) :
    Recognizes (itemsUntil close (argumentOf value))
      (fun tokens entries => Until close DerivesArgument tokens entries ∧
        entriesNesting entries < limit + 1) [] := by
  have starts : Starts (ArgumentWithin (limit + 1)) [close] := fun within =>
    DerivesArgument.starts (fun word member => closes word (List.mem_singleton.mp member)) within.1
  refine (itemsUntil_recognizes proper List.not_mem_nil starts
    (argumentOf_recognizes values)).congr fun tokens entries => ?_
  rw [Nat.lt_succ_iff, entriesNesting_le_iff]
  simp only [← Nat.lt_succ_iff]
  exact until_and_iff

/-- By induction on the room, as for types; lists and objects share it. -/
theorem value_recognizes : ∀ room : Nat, Recognizes (value room) (ValueWithin (room + 1)) []
  | 0 => valueOf_recognizes (throw_recognizes fun _ _ within => Nat.not_lt_zero _ within.2)
      (throw_recognizes fun _ _ within => Nat.not_lt_zero _ within.2)
  | room + 1 => valueOf_recognizes (items_recognizes (value_recognizes room))
      (entries_recognizes .closeBrace (by simp) (by simp) (value_recognizes room))

end EntityLayout.Grammar
