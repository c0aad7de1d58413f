import EntityLayout.Proofs.Sdl.Acceptance
import EntityLayout.Proofs.Sdl.Blame

/-!
# Tokens that nest too deep

Where a document has as many lists of a type, or lists and objects of an argument, open as there may be, and the
next token opens another one. `Exceeds` finds these places by the grammar alone. The readers fail at each of them
(`document_overflows`), because they read all that stands in front.
-/
namespace EntityLayout.Grammar
open Reader

/-- The token opens a list of a type in which `depth` lists are open. -/
inductive ExceedsType : Nat → List Token → Token → Prop
  | here : ExceedsType 0 [] .openBracket
  | inList {depth : Nat} {tokens : List Token} {bad : Token} :
      ExceedsType depth tokens bad → ExceedsType (depth + 1) (.openBracket :: tokens) bad

/-- The token opens a list or an object of a value in which `depth` lists and objects are open. -/
inductive ExceedsValue : Nat → List Token → Token → Prop
  | list : ExceedsValue 0 [] .openBracket
  | object : ExceedsValue 0 [] .openBrace
  | inList {depth : Nat} {front behind : List Token} {items : List Value} {bad : Token} :
      Many (ValueWithin (depth + 1)) front items → ExceedsValue depth behind bad →
        ExceedsValue (depth + 1) (.openBracket :: (front ++ behind)) bad
  | inObject (name : String) {depth : Nat} {front behind : List Token} {entries : List Argument} {bad : Token} :
      Many (ArgumentWithin (depth + 1)) front entries → ExceedsValue depth behind bad →
        ExceedsValue (depth + 1) (.openBrace :: (front ++ .name name :: .colon :: behind)) bad

inductive ExceedsArgument (depth : Nat) : List Token → Token → Prop
  | mk (name : String) {tokens : List Token} {bad : Token} :
      ExceedsValue depth tokens bad → ExceedsArgument depth (.name name :: .colon :: tokens) bad

inductive ExceedsDirective : List Token → Token → Prop
  | mk (name : String) {tokens : List Token} {bad : Token} :
      InMany (ArgumentWithin (nestingLimit + 1)) (ExceedsArgument nestingLimit) tokens bad →
        ExceedsDirective (.name name :: .openParen :: tokens) bad

abbrev ExceedsDirectives : List Token → Token → Prop :=
  InMany (Behind .atSign DerivesDirective) (Behind .atSign ExceedsDirective)

inductive ExceedsField : List Token → Token → Prop
  | type (name : String) {tokens : List Token} {bad : Token} :
      ExceedsType nestingLimit tokens bad → ExceedsField (.name name :: .colon :: tokens) bad
  | directives (name : String) {typeTokens tokens : List Token} {type : TypeRef} {bad : Token} :
      DerivesType typeTokens type → type.nesting ≤ nestingLimit → ExceedsDirectives tokens bad →
        ExceedsField (.name name :: .colon :: (typeTokens ++ tokens)) bad

/-- The token is in the directives of what has a name and directives only. -/
inductive ExceedsNamed : List Token → Token → Prop
  | mk (name : String) {tokens : List Token} {bad : Token} :
      ExceedsDirectives tokens bad → ExceedsNamed (.name name :: tokens) bad

abbrev ExceedsBlock {α : Type} (Item : List Token → α → Prop) (Exceeds : List Token → Token → Prop) :
    List Token → Token → Prop :=
  Behind .openBrace (InMany (Described Item) (Described Exceeds))

inductive ExceedsObject : List Token → Token → Prop
  | directives (name : String) {interfaceTokens tokens : List Token} {interfaces : List String} {bad : Token} :
      DerivesInterfaces interfaceTokens interfaces → ExceedsDirectives tokens bad →
        ExceedsObject (.name name :: (interfaceTokens ++ tokens)) bad
  | fields (name : String) {interfaceTokens directiveTokens tokens : List Token} {interfaces : List String}
      {directives : List Directive} {bad : Token} :
      DerivesInterfaces interfaceTokens interfaces → DerivesDirectives directiveTokens directives →
      ExceedsBlock DerivesField ExceedsField tokens bad →
        ExceedsObject (.name name :: (interfaceTokens ++ (directiveTokens ++ tokens))) bad

inductive ExceedsEnum : List Token → Token → Prop
  | directives {tokens : List Token} {bad : Token} : ExceedsNamed tokens bad → ExceedsEnum tokens bad
  | members (name : String) {directiveTokens tokens : List Token} {directives : List Directive} {bad : Token} :
      DerivesDirectives directiveTokens directives → ExceedsBlock DerivesMember ExceedsNamed tokens bad →
        ExceedsEnum (.name name :: (directiveTokens ++ tokens)) bad

inductive ExceedsDefinition : List Token → Token → Prop
  | object {tokens : List Token} {bad : Token} :
      ExceedsObject tokens bad → ExceedsDefinition (.name "type" :: tokens) bad
  | interface {tokens : List Token} {bad : Token} :
      ExceedsObject tokens bad → ExceedsDefinition (.name "interface" :: tokens) bad
  | enum {tokens : List Token} {bad : Token} :
      ExceedsEnum tokens bad → ExceedsDefinition (.name "enum" :: tokens) bad
  | scalar {tokens : List Token} {bad : Token} :
      ExceedsNamed tokens bad → ExceedsDefinition (.name "scalar" :: tokens) bad

/-- Behind the tokens of a document so far, the token opens a list of a type with `nestingLimit` lists open, or a
list or an object of an argument with `nestingLimit` of these open. -/
def Exceeds : List Token → Token → Prop :=
  InMany (Described DerivesDefinition) (Described ExceedsDefinition)

section
variable {α β : Type} {Item : List Token → α → Prop} {Beyond : List Token → Token → Prop} {reader : Reader α}

/-- The reader fails at the tokens that nest too deep. -/
def Overflows (reader : Reader α) (Beyond : List Token → Token → Prop) : Prop :=
  ∀ ⦃front bad⦄, Beyond front bad → ∀ rest, reader (front ++ bad :: rest) = .error .tooDeep rest

/-- What stands in front of the token, or else the token, starts with none of those given. -/
def Clear (Beyond : List Token → Token → Prop) (avoided : List Token) : Prop :=
  ∀ ⦃front bad⦄, Beyond front bad → ∀ rest : List Token, (front ++ bad :: rest).headD .eof ∉ avoided

theorem Starts.clear {avoided : List Token} (starts : Starts Beyond avoided) : Clear Beyond avoided := by
  intro front bad beyond rest
  obtain ⟨head, tail, rfl, allowed⟩ := starts beyond
  exact allowed

theorem InMany.clear {avoided : List Token} (starts : Starts Item avoided) (clear : Clear Beyond avoided) :
    Clear (InMany Item Beyond) avoided := by
  intro front bad beyond rest
  obtain ⟨many, beyond⟩ := beyond
  rw [List.append_assoc]
  exact many.clear starts (clear beyond rest)

/-- A sequence fails where its first reader does. -/
theorem Overflows.bind {next : α → Reader β} (overflows : Overflows reader Beyond) :
    Overflows (reader >>= next) Beyond :=
  fun _ _ beyond rest => bind_of_error (overflows beyond rest)

theorem Overflows.map {change : α → β} (overflows : Overflows reader Beyond) :
    Overflows (change <$> reader) Beyond := by
  rw [map_eq_pure_bind]
  exact overflows.bind

/-- A repetition reads all items in front of the token and fails in the round behind them. -/
theorem collect_overflows {step : Reader (Option α)} {continuing : List Token} (progress : Progress step)
    (starts : Starts Item continuing)
    (complete : ∀ {front item rest}, Item front item → rest.headD .eof ∉ continuing →
      step (front ++ rest) = .ok (some item) rest)
    (clear : Clear Beyond continuing) (overflows : Overflows step Beyond) :
    Overflows (collect step) (InMany Item Beyond) := by
  intro front bad beyond rest
  obtain ⟨many, beyond⟩ := beyond
  rw [List.append_assoc]
  exact collect_error progress starts complete (clear beyond rest) (overflows beyond rest) many

theorem stepUntil_overflows {close : Token} (clear : Clear Beyond [close]) (overflows : Overflows reader Beyond) :
    Overflows (stepUntil close reader) Beyond := by
  intro front bad beyond rest
  have absent : (front ++ bad :: rest).headD .eof ≠ close := fun same =>
    clear beyond rest (List.mem_singleton.mpr same)
  exact (bind_of_ok (eat_absent absent)).trans (overflows.bind beyond rest)

theorem itemsUntil_overflows {close : Token} (proper : close ≠ .eof) (starts : Starts Item [close])
    (recognizes : Recognizes reader Item []) (clear : Clear Beyond [close]) (overflows : Overflows reader Beyond) :
    Overflows (itemsUntil close reader) (InMany Item Beyond) := by
  have nonempty : Starts Item [] := starts.narrow (List.nil_subset _)
  rw [itemsUntil_eq]
  exact collect_overflows (stepUntil_progress proper nonempty recognizes) nonempty
    (stepUntil_complete proper starts recognizes) (fun _ _ _ _ => List.not_mem_nil)
    (stepUntil_overflows clear overflows)

theorem itemsAfter_overflows {mark : Token} {continuing : List Token} (proper : mark ≠ .eof)
    (marks : mark ∉ continuing) (recognizes : Recognizes reader Item continuing)
    (overflows : Overflows reader Beyond) :
    Overflows (itemsAfter mark reader) (InMany (Behind mark Item) (Behind mark Beyond)) := by
  have marked : Starts (Behind mark Beyond) continuing := Behind.starts marks
  rw [itemsAfter_eq]
  refine collect_overflows (stepAfter_progress proper recognizes) (Behind.starts marks)
    (stepAfter_complete proper recognizes) marked.clear ?_
  intro front bad beyond rest
  obtain ⟨beyond⟩ := beyond
  exact (bind_of_ok eat_present).trans (overflows.bind beyond rest)

theorem listing_overflows {step : Reader (Option α)} {continuing : List Token}
    (texts : ∀ text, .str text ∉ continuing) (named : StartsWithName Item continuing)
    (beyondNamed : StartsWithName Beyond continuing)
    (sound : ∀ {tokens item rest}, step tokens = .ok (some item) rest →
      ∃ front, Takes front tokens rest ∧ Item front item)
    (complete : ∀ {front item rest}, Item front item → rest.headD .eof ∉ continuing →
      step (front ++ rest) = .ok (some item) rest)
    (overflows : Overflows step Beyond) :
    Overflows (collect (describedStep step)) (InMany (Described Item) (Described Beyond)) := by
  have unnamed : StartsWithName Item [] := named.narrow (List.nil_subset continuing)
  have starts : Starts (Described Beyond) continuing := Described.starts texts beyondNamed
  refine collect_overflows (describedStep_progress unnamed sound) (Described.starts texts named)
    (describedStep_complete unnamed complete) starts.clear ?_
  intro front bad beyond rest
  obtain ⟨described, beyond⟩ := beyond
  obtain ⟨word, tail, rfl, _⟩ := beyondNamed beyond
  rw [List.append_assoc]
  exact (bind_of_ok (skipDescription_complete described (by simp))).trans (overflows beyond rest)

theorem StartsWithName.starts {close : Token} {avoided : List Token} (other : ∀ word, .name word ≠ close)
    (named : StartsWithName Item avoided) : Starts Item (close :: avoided) := by
  intro front item derived
  obtain ⟨word, tail, same, allowed⟩ := named derived
  exact ⟨.name word, tail, same, List.not_mem_cons_of_ne_of_not_mem (other word) allowed⟩

theorem block_overflows {continuing : List Token} (texts : ∀ text, .str text ∉ continuing)
    (named : StartsWithName Item continuing) (beyondNamed : StartsWithName Beyond continuing)
    (recognizes : Recognizes reader Item continuing) (overflows : Overflows reader Beyond) :
    Overflows (block reader) (ExceedsBlock Item Beyond) := by
  have unnamed : StartsWithName Beyond [] := beyondNamed.narrow (List.nil_subset continuing)
  have starts : Starts Beyond [.closeBrace] := unnamed.starts (by simp)
  have listing : Overflows (collect (describedStep (stepUntil .closeBrace reader)))
      (InMany (Described Item) (Described Beyond)) :=
    listing_overflows texts named beyondNamed (stepUntil_sound (by simp) recognizes)
      (stepUntil_complete (by simp) (named.starts (by simp)) recognizes)
      (stepUntil_overflows starts.clear overflows)
  intro front bad beyond rest
  obtain ⟨beyond⟩ := beyond
  rw [block_eq]
  exact (bind_of_ok eat_present).trans (listing beyond rest)

/-- By induction on the room, of which each bracket in front takes one. -/
theorem type_overflows (depth : Nat) : Overflows (type depth) (ExceedsType depth) := by
  intro front bad beyond rest
  induction beyond with
  | here => rfl
  | inList _ ih =>
    change (type _ >>= _) _ = _
    exact bind_of_error ih

theorem ExceedsValue.clear {depth : Nat} {close : Token} (bracket : close ≠ .openBracket)
    (brace : close ≠ .openBrace) : Clear (ExceedsValue depth) [close] := by
  intro front bad beyond rest member
  have same := List.mem_singleton.mp member
  cases beyond with
  | list | inList => exact bracket same.symm
  | object | inObject => exact brace same.symm

theorem argumentOf_overflows {value : Reader Value} {depth : Nat}
    (overflows : Overflows value (ExceedsValue depth)) : Overflows (argumentOf value) (ExceedsArgument depth) := by
  intro front bad beyond rest
  obtain ⟨name, beyond⟩ := beyond
  exact overflows.bind beyond rest

theorem entries_overflows {close : Token} {depth : Nat} (proper : close ≠ .eof)
    (closes : ∀ word, .name word ≠ close) (overflows : Overflows (value depth) (ExceedsValue depth)) :
    Overflows (itemsUntil close (argumentOf (value depth)))
      (InMany (ArgumentWithin (depth + 1)) (ExceedsArgument depth)) := by
  have names (word : String) : Token.name word ∉ [close] := fun member =>
    closes word (List.mem_singleton.mp member)
  have starts : Starts (ArgumentWithin (depth + 1)) [close] := fun within =>
    DerivesArgument.starts names within.1
  refine itemsUntil_overflows proper starts (argumentOf_recognizes (value_recognizes depth)) ?_
    (argumentOf_overflows overflows)
  intro front bad beyond rest
  obtain ⟨name, _⟩ := beyond
  exact names name

/-- By induction on the room; the items and entries in front are read with one level less. -/
theorem value_overflows (depth : Nat) : Overflows (value depth) (ExceedsValue depth) := by
  induction depth with
  | zero =>
    intro front bad beyond rest
    cases beyond with
    | list => rfl
    | object => rfl
  | succ depth ih =>
    have lists : Overflows (itemsUntil .closeBracket (value depth))
        (InMany (ValueWithin (depth + 1)) (ExceedsValue depth)) :=
      itemsUntil_overflows (by simp) (fun within => DerivesValue.starts within.1) (value_recognizes depth)
        (ExceedsValue.clear (by simp) (by simp)) ih
    have objects := @entries_overflows .closeBrace depth (by simp) (by simp) ih
    intro front bad beyond rest
    cases beyond with
    | inList many beyond => exact lists.bind (.mk many beyond) rest
    | inObject name many beyond => exact objects.bind (.mk many (.mk name beyond)) rest

theorem directive_overflows : Overflows directive ExceedsDirective := by
  intro front bad beyond rest
  obtain ⟨name, beyond⟩ := beyond
  have arguments := @entries_overflows .closeParen maxDepth (by simp) (by simp) (value_overflows maxDepth)
  refine (bind_of_ok name_present).trans ?_
  exact (bind_of_ok eat_present).trans (arguments.bind beyond rest)

theorem directives_overflows : Overflows directives ExceedsDirectives :=
  itemsAfter_overflows (by simp) (by simp) directive_recognizes directive_overflows

theorem ExceedsDirectives.clear {avoided : List Token} (allowed : .atSign ∉ avoided) :
    Clear ExceedsDirectives avoided := by
  have marked : Starts (Behind .atSign ExceedsDirective) avoided := Behind.starts allowed
  exact InMany.clear (Behind.starts allowed) marked.clear

/-- The type of a field has the limit to itself, and so has each of its directives. -/
theorem field_overflows : Overflows field ExceedsField := by
  intro front bad beyond rest
  cases beyond with
  | type name beyond =>
    refine (bind_of_ok name_present).trans ?_
    refine (bind_of_ok expect_present).trans ?_
    exact (type_overflows maxDepth).bind beyond rest
  | @directives name typeTokens tokens type _ derived shallow beyond =>
    have typed : Reader.type maxDepth (typeTokens ++ (tokens ++ bad :: rest)) =
        .ok type (tokens ++ bad :: rest) :=
      (type_recognizes maxDepth).complete ⟨derived, Nat.lt_succ_of_le shallow⟩
        (ExceedsDirectives.clear (by simp) beyond rest)
    rw [← List.append_assoc] at typed
    refine (bind_of_ok name_present).trans ?_
    refine (bind_of_ok expect_present).trans ?_
    exact (bind_of_ok typed).trans (directives_overflows.bind beyond rest)

theorem named_overflows (change : String → List Directive → α) :
    Overflows (do let name ← name; return change name (← directives)) ExceedsNamed := by
  intro front bad beyond rest
  obtain ⟨name, beyond⟩ := beyond
  exact (bind_of_ok name_present).trans (directives_overflows.bind beyond rest)

theorem enumValue_overflows : Overflows enumValue ExceedsNamed :=
  named_overflows fun name _ => name

theorem scalarType_overflows : Overflows scalarType ExceedsNamed :=
  named_overflows ScalarType.mk

theorem ExceedsBlock.clear {avoided : List Token} (opens : .openBrace ∉ avoided) :
    Clear (ExceedsBlock Item Beyond) avoided := by
  have braces : Starts (ExceedsBlock Item Beyond) avoided := Behind.starts opens
  exact braces.clear

theorem fields_overflows : Overflows (block field) (ExceedsBlock DerivesField ExceedsField) := by
  refine @block_overflows _ _ _ _ [.bang, .atSign, .openParen] (by simp) ?_ ?_ field_recognizes field_overflows
  · intro front item derived
    obtain ⟨name⟩ := derived
    exact ⟨name, _, rfl, by simp⟩
  · intro front bad beyond
    cases beyond with
    | type name | directives name => exact ⟨name, _, rfl, by simp⟩

theorem members_overflows : Overflows (block enumValue) (ExceedsBlock DerivesMember ExceedsNamed) := by
  refine @block_overflows _ _ _ _ [.atSign, .openParen] (by simp) ?_ ?_ enumValue_recognizes enumValue_overflows
  · intro front item derived
    obtain ⟨name⟩ := derived
    exact ⟨_, _, rfl, by simp⟩
  · intro front bad beyond
    obtain ⟨name⟩ := beyond
    exact ⟨name, _, rfl, by simp⟩

theorem objectType_overflows : Overflows objectType ExceedsObject := by
  intro front bad beyond rest
  cases beyond with
  | @directives name interfaceTokens tokens interfaces _ implementing beyond =>
    have implemented : implements (interfaceTokens ++ (tokens ++ bad :: rest)) =
        .ok interfaces (tokens ++ bad :: rest) :=
      implements_recognizes.complete implementing (ExceedsDirectives.clear (by simp) beyond rest)
    rw [← List.append_assoc] at implemented
    refine (bind_of_ok name_present).trans ?_
    exact (bind_of_ok implemented).trans (directives_overflows.bind beyond rest)
  | @fields name interfaceTokens directiveTokens tokens interfaces directives _ implementing many beyond =>
    have marked : Reader.directives (directiveTokens ++ (tokens ++ bad :: rest)) =
        .ok directives (tokens ++ bad :: rest) :=
      directives_recognizes.complete many (ExceedsBlock.clear (by simp) beyond rest)
    have implemented : implements (interfaceTokens ++ (directiveTokens ++ (tokens ++ bad :: rest))) =
        .ok interfaces (directiveTokens ++ (tokens ++ bad :: rest)) :=
      implements_recognizes.complete implementing
        (many.clear (Behind.starts (by simp)) (ExceedsBlock.clear (by simp) beyond rest))
    simp only [List.cons_append, List.append_assoc]
    refine (bind_of_ok name_present).trans ?_
    refine (bind_of_ok implemented).trans ?_
    exact (bind_of_ok marked).trans (fields_overflows.bind beyond rest)

theorem interfaceType_eq :
    interfaceType = (fun type => ⟨type.name, type.directives, type.fields⟩) <$> objectType := by
  simp only [interfaceType, objectType, map_bind, map_pure]

theorem interfaceType_overflows : Overflows interfaceType ExceedsObject := by
  rw [interfaceType_eq]
  exact objectType_overflows.map

theorem enumType_overflows : Overflows enumType ExceedsEnum := by
  intro front bad beyond rest
  cases beyond with
  | directives beyond =>
    obtain ⟨name, beyond⟩ := beyond
    exact (bind_of_ok name_present).trans (directives_overflows.bind beyond rest)
  | @members name directiveTokens tokens directives _ many beyond =>
    have marked : Reader.directives (directiveTokens ++ (tokens ++ bad :: rest)) =
        .ok directives (tokens ++ bad :: rest) :=
      directives_recognizes.complete many (ExceedsBlock.clear (by simp) beyond rest)
    simp only [List.cons_append, List.append_assoc]
    refine (bind_of_ok name_present).trans ?_
    exact (bind_of_ok marked).trans (members_overflows.bind beyond rest)

theorem stepDefinition_overflows : Overflows stepDefinition ExceedsDefinition := by
  intro front bad beyond rest
  cases beyond with
  | object beyond => exact objectType_overflows.map.bind beyond rest
  | interface beyond => exact interfaceType_overflows.map.bind beyond rest
  | enum beyond => exact enumType_overflows.map.bind beyond rest
  | scalar beyond => exact scalarType_overflows.map.bind beyond rest

/-- At a place where the depth is exceeded, reading a document fails, whatever follows. -/
theorem document_overflows : Overflows document Exceeds := by
  have named : StartsWithName ExceedsDefinition definitionMarks := by
    intro front bad beyond
    cases beyond with
    | _ => exact ⟨_, _, rfl, by simp [definitionMarks]⟩
  refine Overflows.bind ?_
  rw [definition_eq]
  exact listing_overflows (by simp [definitionMarks]) DerivesDefinition.startsWithName named stepDefinition_sound
    stepDefinition_complete stepDefinition_overflows

end

end EntityLayout.Grammar
