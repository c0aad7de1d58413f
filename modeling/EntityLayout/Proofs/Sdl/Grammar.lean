import EntityLayout.Sdl.Document
import EntityLayout.Sdl.Token

/-!
# The grammar of documents

Which tokens stand for which tree, said without a reader. What a document does not keep (descriptions, the
interfaces of an interface, the directives of an enum member) is in the derivation and not in the tree.
-/
namespace EntityLayout

/-- How many lists of a type are open at once where most are. -/
def TypeRef.nesting : TypeRef → Nat
  | .named _ => 0
  | .list element => element.nesting + 1
  | .nonNull type => type.nesting

mutual

/-- How many lists and objects of a value are open at once where most are. -/
def Value.nesting : Value → Nat
  | .list items => itemsNesting items + 1
  | .object entries => entriesNesting entries + 1
  | _ => 0

def itemsNesting : List Value → Nat
  | [] => 0
  | item :: items => max item.nesting (itemsNesting items)

def entriesNesting : List (Named Value) → Nat
  | [] => 0
  | ⟨_, value⟩ :: entries => max value.nesting (entriesNesting entries)

end

theorem itemsNesting_le_iff {items : List Value} {limit : Nat} :
    itemsNesting items ≤ limit ↔ ∀ item ∈ items, item.nesting ≤ limit := by
  induction items with
  | nil => simp [itemsNesting]
  | cons item items ih => rw [itemsNesting, Nat.max_le, ih, List.forall_mem_cons]

theorem entriesNesting_le_iff {entries : List Argument} {limit : Nat} :
    entriesNesting entries ≤ limit ↔ ∀ entry ∈ entries, entry.value.nesting ≤ limit := by
  induction entries with
  | nil => simp [entriesNesting]
  | cons entry entries ih => rw [entriesNesting, Nat.max_le, ih, List.forall_mem_cons]

namespace Grammar

/-- The depth that a type or an argument may have. -/
def nestingLimit : Nat := 64

section
variable {α : Type}

/-- The tokens of the items, one item behind another. -/
inductive Many (Item : List Token → α → Prop) : List Token → List α → Prop
  | nil : Many Item [] []
  | cons {front behind : List Token} {item : α} {items : List α} :
      Item front item → Many Item behind items → Many Item (front ++ behind) (item :: items)

/-- An item behind a token that marks it. -/
inductive Behind (mark : Token) (Item : List Token → α → Prop) : List Token → α → Prop
  | mk {tokens : List Token} {item : α} : Item tokens item → Behind mark Item (mark :: tokens) item

/-- A description may stand where it is not kept. -/
inductive Description : List Token → Prop
  | absent : Description []
  | text (text : String) : Description [.str text]

/-- An item behind its description. -/
inductive Described (Item : List Token → α → Prop) : List Token → α → Prop
  | mk {description tokens : List Token} {item : α} :
      Description description → Item tokens item → Described Item (description ++ tokens) item

/-- Described items, and a last description behind them. -/
inductive Listing (Item : List Token → α → Prop) : List Token → List α → Prop
  | mk {tokens description : List Token} {items : List α} :
      Many (Described Item) tokens items → Description description →
        Listing Item (tokens ++ description) items

/-- A listing in braces. No braces mean no items. -/
inductive Block (Item : List Token → α → Prop) : List Token → List α → Prop
  | absent : Block Item [] []
  | braces {tokens : List Token} {items : List α} :
      Listing Item tokens items → Block Item (.openBrace :: tokens ++ [.closeBrace]) items

end

mutual

/-- A type without a mark of its own. -/
inductive OptionalType : List Token → TypeRef → Prop
  | named (name : String) : OptionalType [.name name] (.named name)
  | list {tokens : List Token} {element : TypeRef} :
      DerivesType tokens element →
        OptionalType (.openBracket :: tokens ++ [.closeBracket]) (.list element)

inductive DerivesType : List Token → TypeRef → Prop
  | optional {tokens : List Token} {type : TypeRef} : OptionalType tokens type → DerivesType tokens type
  | required {tokens : List Token} {type : TypeRef} :
      OptionalType tokens type → DerivesType (tokens ++ [.bang]) (.nonNull type)

end

mutual

inductive DerivesValue : List Token → Value → Prop
  | int (number : Int) : DerivesValue [.int number] (.int number)
  | float (number : Binary64) : DerivesValue [.float number] (.float number)
  | str (text : String) : DerivesValue [.str text] (.str text)
  | true : DerivesValue [.name "true"] (.bool true)
  | false : DerivesValue [.name "false"] (.bool false)
  | null : DerivesValue [.name "null"] .null
  | enum {word : String} :
      word ∉ ["true", "false", "null"] → DerivesValue [.name word] (.enum word)
  | list {tokens : List Token} {items : List Value} :
      Many DerivesValue tokens items →
        DerivesValue (.openBracket :: tokens ++ [.closeBracket]) (.list items)
  | object {tokens : List Token} {entries : List Argument} :
      Many DerivesArgument tokens entries →
        DerivesValue (.openBrace :: tokens ++ [.closeBrace]) (.object entries)

inductive DerivesArgument : List Token → Argument → Prop
  | mk (name : String) {tokens : List Token} {value : Value} :
      DerivesValue tokens value → DerivesArgument (.name name :: .colon :: tokens) ⟨name, value⟩

end

/-- A directive, behind its mark. -/
inductive DerivesDirective : List Token → Directive → Prop
  | bare (name : String) : DerivesDirective [.name name] ⟨name, []⟩
  | applied (name : String) {tokens : List Token} {arguments : List Argument} :
      Many DerivesArgument tokens arguments →
      (∀ argument ∈ arguments, argument.value.nesting ≤ nestingLimit) →
        DerivesDirective (.name name :: .openParen :: tokens ++ [.closeParen]) ⟨name, arguments⟩

abbrev DerivesDirectives : List Token → List Directive → Prop :=
  Many (Behind .atSign DerivesDirective)

inductive DerivesName : List Token → String → Prop
  | mk (name : String) : DerivesName [.name name] name

inductive DerivesField : List Token → Field → Prop
  | mk (name : String) {typeTokens directiveTokens : List Token} {type : TypeRef}
      {directives : List Directive} :
      DerivesType typeTokens type → type.nesting ≤ nestingLimit →
      DerivesDirectives directiveTokens directives →
        DerivesField (.name name :: .colon :: (typeTokens ++ directiveTokens)) ⟨name, type, directives⟩

/-- A member of an enum, with directives that are not kept. -/
inductive DerivesMember : List Token → String → Prop
  | mk (name : String) {tokens : List Token} {directives : List Directive} :
      DerivesDirectives tokens directives → DerivesMember (.name name :: tokens) name

/-- The interfaces of a type, which an ampersand may introduce. -/
inductive DerivesInterfaces : List Token → List String → Prop
  | absent : DerivesInterfaces [] []
  | plain (first : String) {tokens : List Token} {others : List String} :
      Many (Behind .ampersand DerivesName) tokens others →
        DerivesInterfaces (.name "implements" :: .name first :: tokens) (first :: others)
  | introduced (first : String) {tokens : List Token} {others : List String} :
      Many (Behind .ampersand DerivesName) tokens others →
        DerivesInterfaces (.name "implements" :: .ampersand :: .name first :: tokens) (first :: others)

/-- What stands behind the keyword of an object type. -/
inductive DerivesObject : List Token → ObjectType → Prop
  | mk (name : String) {interfaceTokens directiveTokens blockTokens : List Token}
      {interfaces : List String} {directives : List Directive} {fields : List Field} :
      DerivesInterfaces interfaceTokens interfaces → DerivesDirectives directiveTokens directives →
      Block DerivesField blockTokens fields →
        DerivesObject (.name name :: (interfaceTokens ++ (directiveTokens ++ blockTokens)))
          ⟨name, interfaces, directives, fields⟩

/-- An interface is written like an object type. The interfaces that it implements are not kept. -/
inductive DerivesInterface : List Token → InterfaceType → Prop
  | mk {tokens : List Token} {name : String} {interfaces : List String} {directives : List Directive}
      {fields : List Field} :
      DerivesObject tokens ⟨name, interfaces, directives, fields⟩ →
        DerivesInterface tokens ⟨name, directives, fields⟩

inductive DerivesEnum : List Token → EnumType → Prop
  | mk (name : String) {directiveTokens blockTokens : List Token} {directives : List Directive}
      {members : List String} :
      DerivesDirectives directiveTokens directives → Block DerivesMember blockTokens members →
        DerivesEnum (.name name :: (directiveTokens ++ blockTokens)) ⟨name, directives, members⟩

inductive DerivesScalar : List Token → ScalarType → Prop
  | mk (name : String) {tokens : List Token} {directives : List Directive} :
      DerivesDirectives tokens directives → DerivesScalar (.name name :: tokens) ⟨name, directives⟩

inductive DerivesDefinition : List Token → Definition → Prop
  | object {tokens : List Token} {type : ObjectType} :
      DerivesObject tokens type → DerivesDefinition (.name "type" :: tokens) (.object type)
  | interface {tokens : List Token} {type : InterfaceType} :
      DerivesInterface tokens type → DerivesDefinition (.name "interface" :: tokens) (.interface type)
  | enum {tokens : List Token} {type : EnumType} :
      DerivesEnum tokens type → DerivesDefinition (.name "enum" :: tokens) (.enum type)
  | scalar {tokens : List Token} {type : ScalarType} :
      DerivesScalar tokens type → DerivesDefinition (.name "scalar" :: tokens) (.scalar type)

/-- The tokens of a document, without the end that follows them. -/
def Derives (tokens : List Token) (document : Document) : Prop :=
  Listing DerivesDefinition tokens document.definitions

end Grammar

end EntityLayout
