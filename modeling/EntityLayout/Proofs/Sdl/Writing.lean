import EntityLayout.Proofs.Sdl.Spelling
import EntityLayout.Proofs.Sdl.WellFormed

/-!
# Writing documents

The text of a document, with a blank between each two tokens. Empty parentheses and braces may be left out of
it or not. Every well-formed document without floating-point numbers is read from its text again, and there is
nothing else that reading finds (`document_text`).
-/
namespace EntityLayout
open Grammar

def TypeRef.tokens : TypeRef → List Token
  | .named name => [.name name]
  | .list element => .openBracket :: element.tokens ++ [.closeBracket]
  | .nonNull type => type.tokens ++ [.bang]

mutual

def Value.tokens : Value → List Token
  | .int number => [.int number]
  | .float number => [.float number]
  | .str text => [.str text]
  | .bool value => [.name (if value then "true" else "false")]
  | .null => [.name "null"]
  | .enum word => [.name word]
  | .list items => .openBracket :: itemsTokens items ++ [.closeBracket]
  | .object entries => .openBrace :: entriesTokens entries ++ [.closeBrace]

def itemsTokens : List Value → List Token
  | [] => []
  | item :: items => item.tokens ++ itemsTokens items

def entriesTokens : List (Named Value) → List Token
  | [] => []
  | ⟨name, value⟩ :: entries => (.name name :: .colon :: value.tokens) ++ entriesTokens entries

end

def argumentTokens (argument : Argument) : List Token :=
  .name argument.name :: .colon :: argument.value.tokens

/-- Items between two marks. Where there is no item, the marks are only written if `explicit`. -/
def enclosed {α : Type} (explicit : Bool) (opening closing : Token) (write : α → List Token)
    (items : List α) : List Token :=
  if items.isEmpty && !explicit then [] else opening :: items.flatMap write ++ [closing]

def Directive.tokens (explicit : Bool) (directive : Directive) : List Token :=
  .name directive.name :: enclosed explicit .openParen .closeParen argumentTokens directive.arguments

def directivesTokens (explicit : Bool) (directives : List Directive) : List Token :=
  directives.flatMap fun directive => .atSign :: directive.tokens explicit

def Field.tokens (explicit : Bool) (field : Field) : List Token :=
  .name field.name :: .colon :: (field.type.tokens ++ directivesTokens explicit field.directives)

def interfacesTokens : List String → List Token
  | [] => []
  | first :: others =>
    .name "implements" :: .name first :: others.flatMap fun other => [.ampersand, .name other]

def blockTokens {α : Type} (explicit : Bool) : (write : α → List Token) → List α → List Token :=
  enclosed explicit .openBrace .closeBrace

def Definition.tokens (explicit : Bool) : Definition → List Token
  | .object type => .name "type" :: .name type.name :: (interfacesTokens type.implements ++
      (directivesTokens explicit type.directives ++ blockTokens explicit (·.tokens explicit) type.fields))
  | .interface type => .name "interface" :: .name type.name ::
      (directivesTokens explicit type.directives ++ blockTokens explicit (·.tokens explicit) type.fields)
  | .enum type => .name "enum" :: .name type.name ::
      (directivesTokens explicit type.directives ++ blockTokens explicit (fun value => [.name value]) type.values)
  | .scalar type => .name "scalar" :: .name type.name :: directivesTokens explicit type.directives

namespace Document

def tokens (explicit : Bool) (document : Document) : List Token :=
  document.definitions.flatMap (·.tokens explicit)

def text (explicit : Bool) (document : Document) : String :=
  String.ofList (Token.spelled (document.tokens explicit))

end Document

theorem itemsTokens_eq (items : List Value) : itemsTokens items = items.flatMap (·.tokens) := by
  induction items with
  | nil => rfl
  | cons item items ih => rw [itemsTokens, ih, List.flatMap_cons]

theorem entriesTokens_eq (entries : List Argument) : entriesTokens entries = entries.flatMap argumentTokens := by
  induction entries with
  | nil => rfl
  | cons entry entries ih => rw [entriesTokens, ih, List.flatMap_cons, argumentTokens]

section
variable {α : Type} {Item : List Token → α → Prop} {write : α → List Token} {items : List α}

theorem many_flatMap (each : ∀ item ∈ items, Item (write item) item) : Many Item (items.flatMap write) items := by
  induction items with
  | nil => exact .nil
  | cons item items ih =>
    obtain ⟨first, others⟩ := List.forall_mem_cons.mp each
    exact .cons first (ih others)

theorem listing_flatMap (each : ∀ item ∈ items, Item (write item) item) :
    Listing Item (items.flatMap write) items := by
  have many : Many (Described Item) (items.flatMap write) items :=
    many_flatMap fun item member => .mk .absent (each item member)
  have listing := Listing.mk many .absent
  rwa [List.append_nil] at listing

/-- An empty block may be written or left out, and is empty either way. -/
theorem block_tokens (explicit : Bool) (each : ∀ item ∈ items, Item (write item) item) :
    Block Item (blockTokens explicit write items) items := by
  unfold blockTokens enclosed
  split
  · rename_i none
    obtain ⟨empty, _⟩ := Bool.and_eq_true_iff.mp none
    rw [List.isEmpty_iff.mp empty]
    exact .absent
  · exact .braces (listing_flatMap each)

end

theorem optional_of_not_required {tokens : List Token} {type : TypeRef} (derived : DerivesType tokens type)
    (once : type.isRequired = false) : OptionalType tokens type := by
  cases derived with
  | optional derived => exact derived
  | required _ => cases once

/-- The tokens of a type derive it when no mark in it stands behind another. -/
theorem TypeRef.derives {type : TypeRef} (wellFormed : type.WellFormed) : DerivesType type.tokens type := by
  induction wellFormed with
  | named _ => exact .optional (.named _)
  | list _ ih => exact .optional (.list ih)
  | nonNull once _ ih => exact .required (optional_of_not_required ih once)

/-- The tokens of a value derive it when no bare word in it is a literal. -/
theorem Value.derives {value : Value} (wellFormed : value.WellFormed) : DerivesValue value.tokens value := by
  induction wellFormed with
  | int _ => exact .int _
  | float number => exact .float number
  | str text => exact .str text
  | bool value =>
    cases value with
    | true => exact .true
    | false => exact .false
  | null => exact .null
  | enum _ other => exact .enum other
  | list _ ih =>
    rw [tokens, itemsTokens_eq]
    exact .list (many_flatMap ih)
  | object _ _ ih =>
    rw [tokens, entriesTokens_eq]
    exact .object (many_flatMap fun entry member => .mk entry.name (ih entry member))

theorem Directive.derives (explicit : Bool) {directive : Directive} (wellFormed : directive.WellFormed) :
    DerivesDirective (directive.tokens explicit) directive := by
  obtain ⟨name, arguments⟩ := directive
  unfold tokens enclosed
  split
  · rename_i none
    obtain ⟨empty, _⟩ := Bool.and_eq_true_iff.mp none
    obtain rfl : arguments = [] := List.isEmpty_iff.mp empty
    exact .bare name
  · refine .applied name (many_flatMap fun argument member => ?_) wellFormed.shallow
    exact .mk argument.name (Value.derives (wellFormed.values argument member))

theorem directives_derive (explicit : Bool) {directives : List Directive}
    (wellFormed : ∀ directive ∈ directives, directive.WellFormed) :
    DerivesDirectives (directivesTokens explicit directives) directives :=
  many_flatMap fun directive member => .mk (Directive.derives explicit (wellFormed directive member))

theorem Field.derives (explicit : Bool) {field : Field} (wellFormed : field.WellFormed) :
    DerivesField (field.tokens explicit) field :=
  .mk field.name (TypeRef.derives wellFormed.type) wellFormed.shallow
    (directives_derive explicit wellFormed.directives)

theorem interfaces_derive (interfaces : List String) :
    DerivesInterfaces (interfacesTokens interfaces) interfaces := by
  cases interfaces with
  | nil => exact .absent
  | cons first others => exact .plain first (many_flatMap fun other _ => .mk (.mk other))

theorem Definition.derives (explicit : Bool) {definition : Definition} (wellFormed : definition.WellFormed) :
    DerivesDefinition (definition.tokens explicit) definition := by
  cases definition with
  | object type =>
    exact .object (.mk type.name (interfaces_derive type.implements)
      (directives_derive explicit wellFormed.directives)
      (block_tokens explicit fun field member => Field.derives explicit (wellFormed.fields field member)))
  | interface type =>
    -- An interface that implements none itself is written like an object type.
    exact .interface (.mk (.mk type.name .absent (directives_derive explicit wellFormed.directives)
      (block_tokens explicit fun field member => Field.derives explicit (wellFormed.fields field member))))
  | enum type =>
    exact .enum (.mk type.name (directives_derive explicit wellFormed.directives)
      (block_tokens explicit fun value _ => .mk value .nil))
  | scalar type => exact .scalar (.mk type.name (directives_derive explicit wellFormed.directives))

/-- Definition by definition, without descriptions. -/
theorem Document.derives (explicit : Bool) {document : Document} (wellFormed : document.WellFormed) :
    Derives (document.tokens explicit) document :=
  listing_flatMap fun definition member => Definition.derives explicit (wellFormed definition member)

/-- No part of the value is a floating-point number. -/
inductive Value.FloatFree : Value → Prop where
  | int (number : Int) : FloatFree (.int number)
  | str (text : String) : FloatFree (.str text)
  | bool (value : Bool) : FloatFree (.bool value)
  | null : FloatFree .null
  | enum (word : String) : FloatFree (.enum word)
  | list {items : List Value} : (∀ item ∈ items, FloatFree item) → FloatFree (.list items)
  | object {entries : List Argument} : (∀ entry ∈ entries, FloatFree entry.value) → FloatFree (.object entries)

def Directive.FloatFree (directive : Directive) : Prop :=
  ∀ argument ∈ directive.arguments, argument.value.FloatFree

/-- The directives of a definition and of its fields. -/
def Definition.directives : Definition → List Directive
  | .object type => type.directives ++ type.fields.flatMap (·.directives)
  | .interface type => type.directives ++ type.fields.flatMap (·.directives)
  | .enum type => type.directives
  | .scalar type => type.directives

def Document.FloatFree (document : Document) : Prop :=
  ∀ definition ∈ document.definitions, ∀ directive ∈ definition.directives, directive.FloatFree

/-- All tokens are read from their spellings. -/
abbrev AllSpellable (tokens : List Token) : Prop :=
  ∀ token ∈ tokens, token.Spellable

/-- Something between two marks. -/
theorem allSpellable_between {opening closing : Token} {inner : List Token} (opens : opening.Spellable)
    (closes : closing.Spellable) (all : AllSpellable inner) : AllSpellable (opening :: inner ++ [closing]) := by
  refine List.forall_mem_append.mpr ⟨List.forall_mem_cons.mpr ⟨opens, all⟩, ?_⟩
  exact List.forall_mem_cons.mpr ⟨closes, List.forall_mem_nil _⟩

theorem allSpellable_enclosed {α : Type} {explicit : Bool} {opening closing : Token}
    {write : α → List Token} {items : List α} (opens : opening.Spellable) (closes : closing.Spellable)
    (each : ∀ item ∈ items, AllSpellable (write item)) :
    AllSpellable (enclosed explicit opening closing write items) := by
  unfold enclosed
  split
  · exact List.forall_mem_nil _
  · exact allSpellable_between opens closes (List.forall_mem_flatMap.mpr each)

theorem TypeRef.spellable {type : TypeRef} (wellFormed : type.WellFormed) : AllSpellable type.tokens := by
  induction wellFormed with
  | named name => exact List.forall_mem_singleton.mpr name
  | list _ ih => exact allSpellable_between trivial trivial ih
  | nonNull _ _ ih => exact List.forall_mem_append.mpr ⟨ih, List.forall_mem_singleton.mpr trivial⟩

theorem allSpellable_argument {argument : Argument} (name : IsName argument.name)
    (value : AllSpellable argument.value.tokens) : AllSpellable (argumentTokens argument) :=
  List.forall_mem_cons.mpr ⟨name, List.forall_mem_cons.mpr ⟨trivial, value⟩⟩

/-- All tokens of a value can be spelled, floating-point numbers apart. -/
theorem Value.spellable {value : Value} (wellFormed : value.WellFormed) (free : value.FloatFree) :
    AllSpellable value.tokens := by
  induction wellFormed with
  | int range => exact List.forall_mem_singleton.mpr range
  | float number => cases free
  | str text => exact List.forall_mem_singleton.mpr trivial
  | bool value =>
    cases value with
    | true => exact List.forall_mem_singleton.mpr (by decide : IsName "true")
    | false => exact List.forall_mem_singleton.mpr (by decide : IsName "false")
  | null => exact List.forall_mem_singleton.mpr (by decide : IsName "null")
  | enum name _ => exact List.forall_mem_singleton.mpr name
  | list _ ih =>
    cases free with
    | list free =>
      rw [tokens, itemsTokens_eq]
      exact allSpellable_between trivial trivial
        (List.forall_mem_flatMap.mpr fun item member => ih item member (free item member))
  | object names _ ih =>
    cases free with
    | object free =>
      rw [tokens, entriesTokens_eq]
      exact allSpellable_between trivial trivial (List.forall_mem_flatMap.mpr fun entry member =>
        allSpellable_argument (names entry member) (ih entry member (free entry member)))

theorem directives_spellable {explicit : Bool} {directives : List Directive}
    (wellFormed : ∀ directive ∈ directives, directive.WellFormed)
    (free : ∀ directive ∈ directives, directive.FloatFree) :
    AllSpellable (directivesTokens explicit directives) := by
  refine List.forall_mem_flatMap.mpr fun directive member => List.forall_mem_cons.mpr ⟨trivial, ?_⟩
  obtain ⟨name, names, values, _⟩ := wellFormed directive member
  refine List.forall_mem_cons.mpr ⟨name, allSpellable_enclosed trivial trivial fun argument given => ?_⟩
  exact allSpellable_argument (names argument given)
    (Value.spellable (values argument given) (free directive member argument given))

theorem Field.spellable {explicit : Bool} {field : Field} (wellFormed : field.WellFormed)
    (free : ∀ directive ∈ field.directives, directive.FloatFree) : AllSpellable (field.tokens explicit) := by
  refine List.forall_mem_cons.mpr ⟨wellFormed.name, List.forall_mem_cons.mpr ⟨trivial, ?_⟩⟩
  exact List.forall_mem_append.mpr
    ⟨TypeRef.spellable wellFormed.type, directives_spellable wellFormed.directives free⟩

theorem interfaces_spellable {interfaces : List String} (names : ∀ interface ∈ interfaces, IsName interface) :
    AllSpellable (interfacesTokens interfaces) := by
  cases interfaces with
  | nil => exact List.forall_mem_nil _
  | cons first others =>
    obtain ⟨name, names⟩ := List.forall_mem_cons.mp names
    refine List.forall_mem_cons.mpr ⟨(by decide : IsName "implements"), List.forall_mem_cons.mpr ⟨name, ?_⟩⟩
    exact List.forall_mem_flatMap.mpr fun other member =>
      List.forall_mem_cons.mpr ⟨trivial, List.forall_mem_singleton.mpr (names other member)⟩

/-- What types and interfaces have in common. -/
theorem fields_spellable {explicit : Bool} {directives : List Directive} {fields : List Field}
    (marks : ∀ directive ∈ directives, directive.WellFormed) (wellFormed : ∀ field ∈ fields, field.WellFormed)
    (free : ∀ directive ∈ directives ++ fields.flatMap (·.directives), directive.FloatFree) :
    AllSpellable (directivesTokens explicit directives ++ blockTokens explicit (·.tokens explicit) fields) := by
  obtain ⟨own, others⟩ := List.forall_mem_append.mp free
  refine List.forall_mem_append.mpr ⟨directives_spellable marks own, ?_⟩
  refine allSpellable_enclosed trivial trivial fun field member => ?_
  exact Field.spellable (wellFormed field member) fun directive given =>
    others directive (List.mem_flatMap.mpr ⟨field, member, given⟩)

theorem Definition.spellable {explicit : Bool} {definition : Definition} (wellFormed : definition.WellFormed)
    (free : ∀ directive ∈ definition.directives, directive.FloatFree) :
    AllSpellable (definition.tokens explicit) := by
  cases definition with
  | object type =>
    refine List.forall_mem_cons.mpr ⟨(by decide : IsName "type"), List.forall_mem_cons.mpr ⟨wellFormed.name, ?_⟩⟩
    exact List.forall_mem_append.mpr ⟨interfaces_spellable wellFormed.implements,
      fields_spellable wellFormed.directives wellFormed.fields free⟩
  | interface type =>
    refine List.forall_mem_cons.mpr ⟨(by decide : IsName "interface"), List.forall_mem_cons.mpr ⟨wellFormed.name, ?_⟩⟩
    exact fields_spellable wellFormed.directives wellFormed.fields free
  | enum type =>
    refine List.forall_mem_cons.mpr ⟨(by decide : IsName "enum"), List.forall_mem_cons.mpr ⟨wellFormed.name, ?_⟩⟩
    refine List.forall_mem_append.mpr ⟨directives_spellable wellFormed.directives free, ?_⟩
    exact allSpellable_enclosed trivial trivial fun value member =>
      List.forall_mem_singleton.mpr (wellFormed.values value member)
  | scalar type =>
    refine List.forall_mem_cons.mpr ⟨(by decide : IsName "scalar"), List.forall_mem_cons.mpr ⟨wellFormed.name, ?_⟩⟩
    exact directives_spellable wellFormed.directives free

/-- All tokens of a document can be spelled. -/
theorem Document.spellable {explicit : Bool} {document : Document} (wellFormed : document.WellFormed)
    (free : document.FloatFree) : AllSpellable (document.tokens explicit) :=
  List.forall_mem_flatMap.mpr fun definition member =>
    Definition.spellable (wellFormed definition member) (free definition member)

/-- Wherever the grammar derives a document, it is read from the tokens with the end behind them. -/
theorem document_complete {tokens : List Token} {document : Document} (derived : Derives tokens document) :
    Reader.document.run (tokens ++ [.eof]) = .ok document [.eof] := by
  have read : Reader.collect Reader.definition (tokens ++ [.eof]) = .ok document.definitions [.eof] :=
    listing_complete (by simp [definitionMarks]) DerivesDefinition.startsWithName stepDefinition_sound
      stepDefinition_complete (by simp [definitionMarks]) (by simp)
      (stepDefinition_none_iff.mpr ⟨rfl, rfl⟩) derived
  exact Reader.bind_ok_iff.mpr ⟨document.definitions, [.eof], read, rfl⟩

/-- A document is read from every text that its tokens are written in, whatever the gaps. -/
theorem parse_written {tokens : List Token} {document : Document} {source : String}
    (derived : Derives tokens document) (written : Token.Written tokens source.toList) :
    Document.parse source = .ok document :=
  parse_ok_iff.mpr ⟨tokens ++ [.eof], [.eof], tokenize_written written, document_complete derived⟩

/-- Only well-formed documents are read, and each of them that has no floating-point number is read from its
text. -/
theorem document_text :
    (∀ source document, Document.parse source = .ok document → document.WellFormed) ∧
      ∀ (explicit : Bool) (document : Document), document.WellFormed → document.FloatFree →
        Document.parse (document.text explicit) = .ok document := by
  refine ⟨fun _ _ => parse_wellFormed, fun explicit document wellFormed free => ?_⟩
  refine parse_written (Document.derives explicit wellFormed) ?_
  rw [Document.text, String.toList_ofList]
  exact Token.written_spelled (Document.spellable wellFormed free)

/-- An integer at its limit, a string with every escape, and a keyword among the values. -/
def noteDirective : Directive :=
  ⟨"note", [⟨"least", .int (-9223372036854775808)⟩, ⟨"text", .str "\"a\\b\"\nc"⟩,
    ⟨"marks", .list [.enum "enum", .null]⟩]⟩

/-- Keywords as names, and a type without a block in front of another definition. -/
def noteDocument : Document :=
  ⟨[.object ⟨"type", [], [noteDirective], []⟩,
    .object ⟨"Note", ["type", "Node"], [],
      [⟨"implements", .nonNull (.list (.nonNull (.named "scalar"))), []⟩]⟩]⟩

/-- Without and with the empty parentheses and braces. -/
theorem document_text_notes : noteDocument.WellFormed ∧ noteDocument.FloatFree ∧
    Document.parse (noteDocument.text false) = .ok noteDocument ∧
    Document.parse (noteDocument.text true) = .ok noteDocument := by
  have directive : noteDirective.WellFormed := by
    refine ⟨by decide, by decide, ?_, by decide⟩
    simp only [noteDirective, List.forall_mem_cons]
    refine ⟨.int ⟨by decide, by decide⟩, .str _, .list ?_, by simp⟩
    exact List.forall_mem_cons.mpr ⟨.enum (by decide) (by decide), List.forall_mem_singleton.mpr .null⟩
  have field : Field.WellFormed ⟨"implements", .nonNull (.list (.nonNull (.named "scalar"))), []⟩ :=
    ⟨by decide, .nonNull rfl (.list (.nonNull rfl (.named (by decide)))), by decide, by simp⟩
  have wellFormed : noteDocument.WellFormed :=
    List.forall_mem_cons.mpr ⟨⟨by decide, by simp, List.forall_mem_singleton.mpr directive, by simp⟩,
      List.forall_mem_singleton.mpr ⟨by decide, by decide, by simp, List.forall_mem_singleton.mpr field⟩⟩
  have free : noteDocument.FloatFree := by
    have least : noteDirective.FloatFree := by
      simp only [Directive.FloatFree, noteDirective, List.forall_mem_cons]
      exact ⟨.int _, .str _, .list (by simp [Value.FloatFree.enum, Value.FloatFree.null]), by simp⟩
    exact List.forall_mem_cons.mpr ⟨List.forall_mem_singleton.mpr least,
      List.forall_mem_singleton.mpr (by simp [Definition.directives])⟩
  exact ⟨wellFormed, free, document_text.2 false noteDocument wellFormed free,
    document_text.2 true noteDocument wellFormed free⟩

end EntityLayout
