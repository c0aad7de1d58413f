import EntityLayout.Proofs.Sdl.Acceptance
import EntityLayout.Proofs.Sdl.Lexemes

/-!
# Well-formed documents

What every document is like that is read from a text: its names and its integers are of the right form, no type
is required twice over, nothing is nested too deep, and no bare word among the values is a literal. The grammar
derives such documents from well-formed tokens (`Derives.wellFormed`), and reading a text finds no other ones
(`parse_wellFormed`).
-/
namespace EntityLayout
open Grammar

inductive TypeRef.WellFormed : TypeRef → Prop where
  | named {name : String} : IsName name → WellFormed (.named name)
  | list {element : TypeRef} : WellFormed element → WellFormed (.list element)
  | nonNull {type : TypeRef} : type.isRequired = false → WellFormed type → WellFormed (.nonNull type)

inductive Value.WellFormed : Value → Prop where
  | int {number : Int} : InInt64 number → WellFormed (.int number)
  | float (number : Binary64) : WellFormed (.float number)
  | str (text : String) : WellFormed (.str text)
  | bool (value : Bool) : WellFormed (.bool value)
  | null : WellFormed .null
  | enum {word : String} : IsName word → word ∉ ["true", "false", "null"] → WellFormed (.enum word)
  | list {items : List Value} : (∀ item ∈ items, WellFormed item) → WellFormed (.list items)
  | object {entries : List Argument} : (∀ entry ∈ entries, IsName entry.name) →
      (∀ entry ∈ entries, WellFormed entry.value) → WellFormed (.object entries)

structure Directive.WellFormed (directive : Directive) : Prop where
  name : IsName directive.name
  argumentNames : ∀ argument ∈ directive.arguments, IsName argument.name
  values : ∀ argument ∈ directive.arguments, argument.value.WellFormed
  shallow : ∀ argument ∈ directive.arguments, argument.value.nesting ≤ nestingLimit

structure Field.WellFormed (field : Field) : Prop where
  name : IsName field.name
  type : field.type.WellFormed
  shallow : field.type.nesting ≤ nestingLimit
  directives : ∀ directive ∈ field.directives, directive.WellFormed

structure ObjectType.WellFormed (type : ObjectType) : Prop where
  name : IsName type.name
  implements : ∀ interface ∈ type.implements, IsName interface
  directives : ∀ directive ∈ type.directives, directive.WellFormed
  fields : ∀ field ∈ type.fields, field.WellFormed

structure InterfaceType.WellFormed (type : InterfaceType) : Prop where
  name : IsName type.name
  directives : ∀ directive ∈ type.directives, directive.WellFormed
  fields : ∀ field ∈ type.fields, field.WellFormed

structure EnumType.WellFormed (type : EnumType) : Prop where
  name : IsName type.name
  directives : ∀ directive ∈ type.directives, directive.WellFormed
  values : ∀ value ∈ type.values, IsName value

structure ScalarType.WellFormed (type : ScalarType) : Prop where
  name : IsName type.name
  directives : ∀ directive ∈ type.directives, directive.WellFormed

def Definition.WellFormed : Definition → Prop
  | .object type => type.WellFormed
  | .interface type => type.WellFormed
  | .enum type => type.WellFormed
  | .scalar type => type.WellFormed

def Document.WellFormed (document : Document) : Prop :=
  ∀ definition ∈ document.definitions, definition.WellFormed

namespace Grammar

section
variable {α : Type} {Item : List Token → α → Prop} {tokens : List Token} {items : List α} {item : α}

/-- The tokens of an item are among those of all items. -/
theorem Many.tokens_of_mem (many : Many Item tokens items) (member : item ∈ items) :
    ∃ front, front ⊆ tokens ∧ Item front item := by
  induction many with
  | nil => cases member
  | cons first _ ih =>
    rcases List.mem_cons.mp member with rfl | other
    · exact ⟨_, List.subset_append_left _ _, first⟩
    · obtain ⟨front, included, derived⟩ := ih other
      exact ⟨front, List.subset_append_of_subset_right _ included, derived⟩

theorem Many.tokens_behind {mark : Token} (many : Many (Behind mark Item) tokens items)
    (member : item ∈ items) : ∃ front, front ⊆ tokens ∧ Item front item := by
  obtain ⟨_, included, ⟨derived⟩⟩ := many.tokens_of_mem member
  exact ⟨_, List.subset_of_cons_subset included, derived⟩

/-- The tokens of an item are among those of its listing, so what holds of all of these holds of them. -/
theorem Listing.tokens_of_mem (listing : Listing Item tokens items) (member : item ∈ items) :
    ∃ front, front ⊆ tokens ∧ Item front item := by
  obtain ⟨many, _⟩ := listing
  obtain ⟨_, included, ⟨_, derived⟩⟩ := many.tokens_of_mem member
  have behind := List.Subset.trans (List.subset_append_right _ _) included
  exact ⟨_, List.subset_append_of_subset_left _ behind, derived⟩

theorem Block.tokens_of_mem (block : Block Item tokens items) (member : item ∈ items) :
    ∃ front, front ⊆ tokens ∧ Item front item := by
  cases block with
  | absent => cases member
  | braces listing =>
    obtain ⟨front, included, derived⟩ := listing.tokens_of_mem member
    refine ⟨front, fun token given => ?_, derived⟩
    exact List.mem_append_left _ (List.mem_cons_of_mem _ (included given))

end

/-- All tokens have names and integers of the right form. -/
abbrev AllWellFormed (tokens : List Token) : Prop :=
  ∀ token ∈ tokens, token.WellFormed

theorem AllWellFormed.mono {tokens front : List Token} (proper : AllWellFormed tokens)
    (included : front ⊆ tokens) : AllWellFormed front :=
  fun token member => proper token (included member)

/-- A type without a mark is not required, which is why no type is required twice. -/
theorem OptionalType.isRequired {tokens : List Token} {type : TypeRef} (derived : OptionalType tokens type) :
    type.isRequired = false := by
  cases derived <;> rfl

/-- A derived type has a name of the right form and no two marks in a row. -/
theorem DerivesType.wellFormed {type : TypeRef} {tokens : List Token} (derived : DerivesType tokens type)
    (proper : AllWellFormed tokens) : type.WellFormed := by
  induction type generalizing tokens with
  | named name =>
    cases derived with
    | optional derived =>
      cases derived with
      | named => exact .named (proper _ List.mem_cons_self)
  | list element ih =>
    cases derived with
    | optional derived =>
      cases derived with
      | list derived =>
        exact .list (ih derived (List.forall_mem_append.mp (List.forall_mem_cons.mp proper).2).1)
  | nonNull type ih =>
    cases derived with
    | optional derived => cases derived
    | required derived =>
      exact .nonNull derived.isRequired (ih (.optional derived) (List.forall_mem_append.mp proper).1)

/-- By recursion into the value, since the items of a list are derived one by one. -/
theorem DerivesValue.wellFormed {value : Value} {tokens : List Token} (derived : DerivesValue tokens value)
    (proper : AllWellFormed tokens) : value.WellFormed := by
  cases derived with
  | int number => exact .int (proper _ List.mem_cons_self)
  | float number => exact .float number
  | str text => exact .str text
  | true => exact .bool _
  | false => exact .bool _
  | null => exact .null
  | enum other => exact .enum (proper _ List.mem_cons_self) other
  | @list inside items many =>
    have inner : AllWellFormed inside := (List.forall_mem_append.mp (List.forall_mem_cons.mp proper).2).1
    refine .list fun item member => ?_
    obtain ⟨front, included, derived⟩ := many.tokens_of_mem member
    exact derived.wellFormed (inner.mono included)
  | @object inside entries many =>
    have inner : AllWellFormed inside := (List.forall_mem_append.mp (List.forall_mem_cons.mp proper).2).1
    refine .object (fun entry member => ?_) (fun entry member => ?_)
    · obtain ⟨front, included, derived⟩ := many.tokens_of_mem member
      cases derived with
      | mk name _ => exact inner _ (included List.mem_cons_self)
    · obtain ⟨front, included, derived⟩ := many.tokens_of_mem member
      cases derived with
      | mk name derived =>
        have behind := List.forall_mem_cons.mp (List.forall_mem_cons.mp (inner.mono included)).2
        exact derived.wellFormed behind.2
termination_by value
decreasing_by
  · subst_vars
    have smaller := List.sizeOf_lt_of_mem member
    simp only [Value.list.sizeOf_spec] at smaller ⊢
    omega
  · subst_vars
    have smaller := List.sizeOf_lt_of_mem member
    simp only [Value.object.sizeOf_spec, Named.mk.sizeOf_spec] at smaller ⊢
    omega

theorem DerivesDirective.wellFormed {tokens : List Token} {directive : Directive}
    (derived : DerivesDirective tokens directive) (proper : AllWellFormed tokens) : directive.WellFormed := by
  cases derived with
  | bare name => exact ⟨proper _ List.mem_cons_self, by simp, by simp, by simp⟩
  | @applied name inside arguments many shallow =>
    obtain ⟨named, behind⟩ := List.forall_mem_cons.mp proper
    have inner : AllWellFormed inside := (List.forall_mem_append.mp (List.forall_mem_cons.mp behind).2).1
    -- The arguments are written like the entries of an object.
    have object : (Value.object arguments).WellFormed :=
      DerivesValue.wellFormed (.object many) (by
        refine List.forall_mem_cons.mpr ⟨trivial, List.forall_mem_append.mpr ⟨inner, ?_⟩⟩
        exact List.forall_mem_cons.mpr ⟨trivial, by simp⟩)
    cases object with
    | object names values => exact ⟨named, names, values, shallow⟩

theorem DerivesDirectives.wellFormed {tokens : List Token} {directives : List Directive}
    (derived : DerivesDirectives tokens directives) (proper : AllWellFormed tokens) :
    ∀ directive ∈ directives, directive.WellFormed := by
  intro directive member
  obtain ⟨front, included, derived⟩ := derived.tokens_behind member
  exact derived.wellFormed (proper.mono included)

theorem DerivesField.wellFormed {tokens : List Token} {field : Field} (derived : DerivesField tokens field)
    (proper : AllWellFormed tokens) : field.WellFormed := by
  cases derived with
  | mk name type shallow directives =>
    obtain ⟨named, behind⟩ := List.forall_mem_cons.mp proper
    obtain ⟨typeProper, directivesProper⟩ := List.forall_mem_append.mp (List.forall_mem_cons.mp behind).2
    exact ⟨named, type.wellFormed typeProper, shallow,
      DerivesDirectives.wellFormed directives directivesProper⟩

theorem DerivesInterfaces.wellFormed {tokens : List Token} {interfaces : List String}
    (derived : DerivesInterfaces tokens interfaces) (proper : AllWellFormed tokens) :
    ∀ interface ∈ interfaces, IsName interface := by
  have others {tokens : List Token} {others : List String} (proper : AllWellFormed tokens)
      (many : Many (Behind .ampersand DerivesName) tokens others) : ∀ other ∈ others, IsName other := by
    intro other member
    obtain ⟨front, included, ⟨name⟩⟩ := many.tokens_behind member
    exact proper _ (included List.mem_cons_self)
  cases derived with
  | absent => simp
  | plain first many =>
    obtain ⟨named, behind⟩ := List.forall_mem_cons.mp (List.forall_mem_cons.mp proper).2
    exact List.forall_mem_cons.mpr ⟨named, others behind many⟩
  | introduced first many =>
    obtain ⟨named, behind⟩ :=
      List.forall_mem_cons.mp (List.forall_mem_cons.mp (List.forall_mem_cons.mp proper).2).2
    exact List.forall_mem_cons.mpr ⟨named, others behind many⟩

theorem DerivesObject.wellFormed {tokens : List Token} {type : ObjectType}
    (derived : DerivesObject tokens type) (proper : AllWellFormed tokens) : type.WellFormed := by
  cases derived with
  | mk name implementing directives block =>
    obtain ⟨named, behind⟩ := List.forall_mem_cons.mp proper
    obtain ⟨interfacesProper, behind⟩ := List.forall_mem_append.mp behind
    obtain ⟨directivesProper, blockProper⟩ := List.forall_mem_append.mp behind
    refine ⟨named, implementing.wellFormed interfacesProper,
      DerivesDirectives.wellFormed directives directivesProper, fun field member => ?_⟩
    obtain ⟨front, included, derived⟩ := block.tokens_of_mem member
    exact derived.wellFormed (AllWellFormed.mono blockProper included)

theorem DerivesEnum.wellFormed {tokens : List Token} {type : EnumType} (derived : DerivesEnum tokens type)
    (proper : AllWellFormed tokens) : type.WellFormed := by
  cases derived with
  | mk name directives block =>
    obtain ⟨named, behind⟩ := List.forall_mem_cons.mp proper
    obtain ⟨directivesProper, blockProper⟩ := List.forall_mem_append.mp behind
    refine ⟨named, DerivesDirectives.wellFormed directives directivesProper, fun value member => ?_⟩
    obtain ⟨front, included, ⟨_, _⟩⟩ := block.tokens_of_mem member
    exact blockProper _ (included List.mem_cons_self)

/-- A derived definition is well-formed in all of its parts. -/
theorem DerivesDefinition.wellFormed {tokens : List Token} {definition : Definition}
    (derived : DerivesDefinition tokens definition) (proper : AllWellFormed tokens) :
    definition.WellFormed := by
  cases derived with
  | object derived => exact derived.wellFormed (List.forall_mem_cons.mp proper).2
  | interface derived =>
    obtain ⟨derived⟩ := derived
    obtain ⟨name, _, directives, fields⟩ := derived.wellFormed (List.forall_mem_cons.mp proper).2
    exact ⟨name, directives, fields⟩
  | enum derived => exact derived.wellFormed (List.forall_mem_cons.mp proper).2
  | scalar derived =>
    obtain ⟨name, directives⟩ := derived
    obtain ⟨named, behind⟩ := List.forall_mem_cons.mp (List.forall_mem_cons.mp proper).2
    exact ⟨named, DerivesDirectives.wellFormed directives behind⟩

/-- So is a derived document in all of its definitions. -/
theorem Derives.wellFormed {tokens : List Token} {document : Document} (derived : Derives tokens document)
    (proper : AllWellFormed tokens) : document.WellFormed := by
  intro definition member
  obtain ⟨front, included, derived⟩ := Listing.tokens_of_mem derived member
  exact derived.wellFormed (proper.mono included)

/-- What a document is read from is derived from the tokens that are taken, up to the end. -/
theorem document_sound {tokens rest : List Token} {document : Document}
    (success : Reader.document.run tokens = .ok document rest) :
    ∃ front, Takes front tokens rest ∧ Derives front document ∧ rest.headD .eof = .eof := by
  change Reader.document tokens = _ at success
  simp only [Reader.document, Reader.bind_ok_iff, Reader.pure_ok_iff] at success
  obtain ⟨definitions, _, read, rfl, rfl⟩ := success
  rw [definition_eq] at read
  obtain ⟨front, last, takes, listing, stopped⟩ := listing_sound DerivesDefinition.named stepDefinition_sound read
  obtain ⟨rfl, ended⟩ := stepDefinition_none_iff.mp stopped
  exact ⟨front, takes, listing, ended⟩

end Grammar

/-- A text is a document exactly when it has tokens and these are one. -/
theorem parse_ok_iff {source : String} {document : Document} :
    Document.parse source = .ok document ↔
      ∃ tokens rest, tokenize source = .ok tokens ∧ Reader.document.run tokens = .ok document rest := by
  unfold Document.parse tokensOf
  cases tokenize source with
  | error cause => simp [Except.mapError, bind, Except.bind]
  | ok tokens =>
    simp only [Except.mapError, bind, Except.bind]
    cases read : Reader.document.run tokens with
    | ok found rest => simp [read]
    | error cause rest => simp [read]

/-- What is wrong with the tokens is what is wrong with the text. -/
theorem parse_error_of_run {source : String} {tokens rest : List Token} {cause : ParseError}
    (lexed : tokenize source = .ok tokens) (failed : Reader.document.run tokens = .error cause rest) :
    Document.parse source = .error cause := by
  unfold Document.parse tokensOf
  rw [lexed]
  simp only [Except.mapError, bind, Except.bind, failed]

/-- Only well-formed documents are read. -/
theorem parse_wellFormed {source : String} {document : Document}
    (success : Document.parse source = .ok document) : document.WellFormed := by
  obtain ⟨tokens, rest, lexed, read⟩ := parse_ok_iff.mp success
  obtain ⟨front, takes, derived, _⟩ := document_sound read
  refine derived.wellFormed fun token member => tokenize_wellFormed lexed token ?_
  rw [takes.split]
  exact List.mem_append_left rest member

end EntityLayout
