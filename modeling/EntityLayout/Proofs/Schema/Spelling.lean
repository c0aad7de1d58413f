import EntityLayout.Proofs.Schema.Correspondence

/-!
# Documents that are spelled differently

Some names of a document count only by their store names: those of fields other than the identifier, and the
texts with which directives name fields, entities and searches. Documents that differ in nothing but the
spelling of such names correspond (`Document.Alike.corresponds`).
-/
namespace EntityLayout
open List (Forall₂)

/-- In what a value may be spelled differently: in nothing, as a text that has a store name, in the items
of a list, or in the entries of an object. -/
inductive Leeway where
  | none
  | spelling
  | items (each : Leeway)
  | entries (under : String → Leeway)

namespace Leeway

/-- Values that differ at most in what the leeway allows. -/
def Alike : Leeway → Value → Value → Prop
  | .none, value, other => value = other
  | .spelling, .str text, .str other => storeName text = storeName other
  | .spelling, value, other => value = other
  | .items each, .list members, .list others => Forall₂ each.Alike members others
  | .items _, value, other => value = other
  | .entries under, .object members, .object others =>
    Forall₂ (fun entry other => entry.name = other.name ∧ (under entry.name).Alike entry.value other.value)
      members others
  | .entries _, value, other => value = other

variable {leeway : Leeway} {value other : Value}

/-- Values that are spelled differently are of one kind, so that errors, which name the kind, are the same. -/
theorem Alike.kind (alike : leeway.Alike value other) : value.kind = other.kind := by
  unfold Alike at alike
  split at alike <;> first | rfl | rw [alike]

theorem Alike.text (alike : Leeway.spelling.Alike value other) :
    storeName value.text = storeName other.text := by
  unfold Alike at alike
  split at alike
  all_goals first | contradiction | exact alike | rw [alike]

theorem Alike.listed {each : Leeway} (alike : (Leeway.items each).Alike value other) :
    Forall₂ each.Alike value.items other.items := by
  cases value with
  | list items =>
    cases other with
    | list others => exact alike
    | _ => cases alike.kind
  | _ => cases other <;> first | exact .nil | cases alike.kind

end Leeway

/-- Arguments under the same names, with values that differ at most in what is allowed under each. -/
def ArgumentsAlike (leeway : String → Leeway) : List Argument → List Argument → Prop :=
  Forall₂ fun entry other => entry.name = other.name ∧ (leeway entry.name).Alike entry.value other.value

/-- An object of arguments stays one, with arguments that are alike under the same names. -/
theorem Leeway.Alike.entries {under : String → Leeway} {value other : Value}
    (alike : (Leeway.entries under).Alike value other) :
    ArgumentsAlike under value.entries other.entries := by
  cases value with
  | object entries =>
    cases other with
    | object others => exact alike
    | _ => cases alike.kind
  | _ => cases other <;> first | exact .nil | cases alike.kind

namespace ArgumentsAlike

variable {leeway : String → Leeway} {entries others : List Argument}

/-- Arguments without leeway are equal. -/
theorem eq_of_none (alike : ArgumentsAlike (fun _ => .none) entries others) : entries = others := by
  rw [← List.forall₂_eq_eq_eq]
  refine alike.imp fun entry other same => ?_
  obtain ⟨name, value⟩ := same
  cases entry
  cases other
  exact congr (congrArg Named.mk name) value

variable (alike : ArgumentsAlike leeway entries others)
include alike

/-- Under a name, both have a value, alike within the leeway of that name, or neither has one. -/
theorem lookup (name : String) :
    (valueUnder? entries name = none ∧ valueUnder? others name = none) ∨
      ∃ value value', valueUnder? entries name = some value ∧
        valueUnder? others name = some value' ∧ (leeway name).Alike value value' := by
  have searched := find?_forall₂ (p := (·.name == name)) (q := (·.name == name))
    (fun _ _ same => by rw [same.1]) alike
  rcases searched with ⟨left, right⟩ | ⟨entry, other, left, right, _, values⟩
  · left
    simp [valueUnder?, left, right]
  · right
    have named := List.find?_some left
    rw [beq_iff_eq.mp named] at values
    exact ⟨entry.value, other.value, by simp [valueUnder?, left],
      by simp [valueUnder?, right], values⟩

theorem text {name : String} (free : leeway name = .spelling) :
    storeName (textUnder entries name) = storeName (textUnder others name) := by
  unfold textUnder
  rcases alike.lookup name with ⟨left, right⟩ | ⟨value, value', left, right, same⟩
  · rw [left, right]
  · rw [free] at same
    rw [left, right]
    exact same.text

theorem text_eq {name : String} (fixed : leeway name = .none) :
    textUnder entries name = textUnder others name := by
  unfold textUnder
  rcases alike.lookup name with ⟨left, right⟩ | ⟨value, value', left, right, same⟩
  · rw [left, right]
  · rw [fixed] at same
    rw [left, right, show value = value' from same]

theorem listed {name : String} {each : Leeway} (free : leeway name = .items each) :
    Forall₂ each.Alike (itemsUnder entries name) (itemsUnder others name) := by
  unfold itemsUnder
  rcases alike.lookup name with ⟨left, right⟩ | ⟨value, value', left, right, same⟩
  · rw [left, right]
    exact .nil
  · rw [free] at same
    rw [left, right]
    exact same.listed

end ArgumentsAlike

namespace Leeway

/-- The arguments of a derivation. -/
def derivedFrom : String → Leeway
  | "field" => .spelling
  | _ => .none

/-- The entries of a field in a text search. -/
def searchField : String → Leeway
  | "name" => .spelling
  | _ => .none

/-- The entries of an entity in a text search. -/
def searchInclude : String → Leeway
  | "entity" => .spelling
  | "fields" => .items (.entries searchField)
  | _ => .none

/-- The arguments of a text search. -/
def fulltext : String → Leeway
  | "name" => .spelling
  | "include" => .items (.entries searchInclude)
  | _ => .none

/-- The arguments of a directive. -/
def ofDirective (name : String) : String → Leeway :=
  match KnownDirective.ofName? name with
  | some .derivedFrom => derivedFrom
  | some .fulltext => fulltext
  | _ => fun _ => .none

end Leeway

structure Directive.Alike (directive other : Directive) : Prop where
  name : directive.name = other.name
  arguments : ArgumentsAlike (.ofDirective directive.name) directive.arguments other.arguments

namespace Directive.Alike

variable {directive other : Directive} (alike : directive.Alike other)
include alike

theorem is (known : KnownDirective) : directive.is known = other.is known := by
  rw [Directive.is, Directive.is, alike.name]

/-- Nothing in the arguments of an entity directive may be spelled differently. -/
theorem ofEntity (entity : KnownDirective.ofName? directive.name = some .entity) :
    directive.arguments = other.arguments := by
  have same := alike.arguments
  rw [Leeway.ofDirective, entity] at same
  exact same.eq_of_none

/-- In a derivation only the spelling of the field is free. -/
theorem ofDerivedFrom (derived : KnownDirective.ofName? directive.name = some .derivedFrom) :
    ArgumentsAlike .derivedFrom directive.arguments other.arguments := by
  have same := alike.arguments
  rwa [Leeway.ofDirective, derived] at same

/-- In a search, its name and those of its entities and of their fields are free, but not the language or the
algorithm. -/
theorem ofFulltext (search : KnownDirective.ofName? directive.name = some .fulltext) :
    ArgumentsAlike .fulltext directive.arguments other.arguments := by
  have same := alike.arguments
  rwa [Leeway.ofDirective, search] at same

end Directive.Alike

variable {directives others : List Directive}

theorem SearchInclude.declared_corresponds {item other : Value}
    (alike : (Leeway.entries .searchInclude).Alike item other) :
    (SearchInclude.declared item).Corresponds .stored (.declared other) where
  entity := alike.entries.text rfl
  fields := by
    have fields : Forall₂ (Leeway.entries .searchField).Alike (itemsUnder item.entries "fields")
        (itemsUnder other.entries "fields") := alike.entries.listed rfl
    simp only [SearchInclude.declared, List.map_map]
    exact map_eq_of_forall₂ (fun _ _ same => same.entries.text rfl) fields

theorem TextSearch.declared_corresponds {directive other : Directive}
    (alike : ArgumentsAlike .fulltext directive.arguments other.arguments) :
    (TextSearch.declared directive).Corresponds .stored (.declared other) where
  name := alike.text rfl
  language := alike.text_eq rfl
  algorithm := alike.text_eq rfl
  includes := List.rel_map (fun _ _ same => SearchInclude.declared_corresponds same) (alike.listed rfl)

theorem searches_correspond (alike : Forall₂ Directive.Alike directives others) :
    Forall₂ (TextSearch.Corresponds .stored) (TypeDirectives.declared directives).searches
      (TypeDirectives.declared others).searches := by
  have searches := filter_forall₂ (fun _ _ same => same.is .fulltext) alike
  have known : ∀ directive ∈ directives.filter (·.is .fulltext),
      KnownDirective.ofName? directive.name = some .fulltext := by
    intro directive member
    exact KnownDirective.ofName?_eq_some_iff.mpr (beq_iff_eq.mp (List.mem_filter.mp member).2)
  have searches := (List.forall₂_and_left _ _).mpr ⟨known, searches⟩
  exact List.rel_map (fun _ _ same => TextSearch.declared_corresponds (same.2.ofFulltext same.1)) searches

/-- The flags of an entity have no leeway. -/
theorem options_alike (alike : Forall₂ Directive.Alike directives others) :
    EntityOptions.declared directives = .declared others := by
  have set (flag : String) : directives.any (fun directive =>
      directive.is .entity && trueUnder directive.arguments flag) =
      others.any (fun directive => directive.is .entity && trueUnder directive.arguments flag) := by
    refine any_forall₂ (fun directive other same => ?_) alike
    rw [← same.is]
    cases entity : directive.is .entity with
    | false => rfl
    | true =>
      have known := KnownDirective.ofName?_eq_some_iff.mpr (beq_iff_eq.mp entity)
      rw [same.ofEntity known]
  simp only [EntityOptions.declared, set]

/-- A field is derived from fields of one store name. -/
theorem derivation_alike (alike : Forall₂ Directive.Alike directives others) :
    (declaredDerivation directives).map storeName = (declaredDerivation others).map storeName := by
  rcases find?_forall₂ (fun _ _ same => same.is .derivedFrom) alike with
    ⟨left, right⟩ | ⟨directive, other, left, right, same⟩
  · simp [declaredDerivation, left, right]
  · have named := List.find?_some left
    have known := KnownDirective.ofName?_eq_some_iff.mpr (beq_iff_eq.mp named)
    have text : storeName (textUnder directive.arguments "field") =
        storeName (textUnder other.arguments "field") := (same.ofDerivedFrom known).text rfl
    simp [declaredDerivation, left, right, text]

/-- Arguments of the same directive that differ at most in what is allowed. -/
structure Arguments.Alike (leeway : String → Leeway) (arguments other : Arguments) : Prop where
  directive : arguments.directive = other.directive
  entries : ArgumentsAlike leeway arguments.entries other.entries

namespace Arguments

variable {leeway : String → Leeway}

/-- The names of arguments are the same on both sides, and so is the first that is refused. -/
theorem checkNames_alike {entries others : List Argument} (alike : ArgumentsAlike leeway entries others)
    (directive : KnownDirective) (allowed seen : List String) :
    checkNames directive allowed seen entries = checkNames directive allowed seen others := by
  induction alike generalizing seen with
  | nil => rfl
  | cons head _ ih => rw [checkNames, checkNames, head.1, ih]

theorem checked_alike {entries others : List Argument} (alike : ArgumentsAlike leeway entries others)
    (directive : KnownDirective) (allowed : List String) :
    SameOutcome (Alike leeway) (checked directive allowed entries) (checked directive allowed others) := by
  unfold checked
  rw [checkNames_alike alike]
  cases checkNames directive allowed [] others with
  | error cause => exact .error cause
  | ok _ => exact .ok ⟨rfl, alike⟩

theorem ofItem_alike {item other : Value} (alike : (Leeway.entries leeway).Alike item other)
    (directive : KnownDirective) (name : String) (allowed : List String) :
    SameOutcome (Alike leeway) (ofItem directive name allowed item)
      (ofItem directive name allowed other) := by
  cases item with
  | object entries =>
    cases other with
    | object others => exact checked_alike alike.entries directive allowed
    | _ => cases alike.kind
  | _ => cases other <;> first | exact .error _ | cases alike.kind

variable {arguments other : Arguments} (alike : arguments.Alike leeway other)
include alike

/-- A missing argument is missing on both sides. -/
theorem get_alike (name : String) :
    SameOutcome (leeway name).Alike (arguments.get name) (other.get name) := by
  have lookup (arguments : Arguments) : arguments.get? name = valueUnder? arguments.entries name := rfl
  unfold get
  rcases alike.entries.lookup name with ⟨left, right⟩ | ⟨value, value', left, right, same⟩
  · simp only [lookup, left, right, alike.directive]
    exact .error _
  · simp only [lookup, left, right]
    exact .ok same

/-- An argument of the wrong kind is refused for the same reason on both sides. -/
theorem invalid_alike {α β : Type} {R : α → β → Prop} (name : String) (wanted : ArgumentShape)
    {found found' : Value} (kind : found.kind = found'.kind) :
    SameOutcome R (arguments.invalid name wanted found) (other.invalid name wanted found') := by
  rw [invalid, invalid, alike.directive, kind]
  exact .error _

theorem string_alike (name : String) :
    SameOutcome (fun _ _ => True) (arguments.string name) (other.string name) := by
  refine (get_alike alike name).bind fun value value' same => ?_
  have refused := invalid_alike (R := fun (_ _ : String) => True) alike name .string same.kind
  cases value <;> cases value' <;> first | exact .ok trivial | exact refused | cases same.kind

theorem word_alike (name : String) :
    SameOutcome (fun _ _ => True) (arguments.word name) (other.word name) := by
  refine (get_alike alike name).bind fun value value' same => ?_
  have refused := invalid_alike (R := fun (_ _ : String) => True) alike name .word same.kind
  cases value <;> cases value' <;> first | exact .ok trivial | exact refused | cases same.kind

theorem list_alike {name : String} {each : Leeway} (free : leeway name = .items each) :
    SameOutcome (Forall₂ each.Alike) (arguments.list name) (other.list name) := by
  refine (get_alike alike name).bind fun value value' same => ?_
  have refused := invalid_alike (R := Forall₂ each.Alike) alike name .list same.kind
  rw [free] at same
  cases value <;> cases value' <;> first | exact .ok same.listed | exact refused | cases same.kind

end Arguments

namespace TextSearch

theorem readField_alike {item other : Value} (alike : (Leeway.entries .searchField).Alike item other) :
    SameOutcome (fun _ _ => True) (readField item) (readField other) :=
  (Arguments.ofItem_alike alike _ _ _).bind fun _ _ entries => Arguments.string_alike entries _

theorem readInclude_alike {item other : Value} (alike : (Leeway.entries .searchInclude).Alike item other) :
    SameOutcome (fun _ _ => True) (readInclude item) (readInclude other) := by
  -- What was read is only needed to go on; it is compared where it is declared.
  refine (Arguments.ofItem_alike alike _ _ _).bind fun _ _ entries => ?_
  refine (Arguments.list_alike entries rfl).bind fun _ _ fields => ?_
  refine (SameOutcome.mapM fields fun _ _ => readField_alike).bind fun _ _ _ => ?_
  exact (Arguments.string_alike entries _).bind fun _ _ _ => .ok trivial

/-- A search is read on both sides or refused for the same reason. -/
theorem read_alike {arguments others : List Argument} (alike : ArgumentsAlike .fulltext arguments others) :
    SameOutcome (fun _ _ => True) (read arguments) (read others) := by
  refine (Arguments.checked_alike alike _ _).bind fun _ _ entries => ?_
  refine (Arguments.list_alike entries rfl).bind fun _ _ includes => ?_
  refine (SameOutcome.mapM includes fun _ _ => readInclude_alike).bind fun _ _ _ => ?_
  refine (Arguments.string_alike entries _).bind fun _ _ _ => ?_
  refine (Arguments.word_alike entries _).bind fun _ _ _ => ?_
  exact (Arguments.word_alike entries _).bind fun _ _ _ => .ok trivial

end TextSearch

/-- Whether a type is known to be an entity decides whether one more directive is refused. -/
theorem TypeDirectives.add_alike {known known' : TypeDirectives}
    (entity : known.entity.isSome = known'.entity.isSome) {directive other : Directive}
    (alike : directive.Alike other) :
    SameOutcome (fun known known' => known.entity.isSome = known'.entity.isSome) (known.add directive)
      (known'.add other) := by
  unfold add
  rw [← alike.name, ← entity]
  split
  · rename_i given
    rw [alike.ofEntity given]
    split
    · exact .error _
    · cases EntityOptions.read other.arguments with
      | error cause => exact .error cause
      | ok options => exact .ok rfl
  · rename_i given
    exact (TextSearch.read_alike (alike.ofFulltext given)).map fun _ _ _ => entity
  · exact .error _
  · exact .ok entity

theorem addFieldDirective_alike {known known' : Option String} (derived : known.isSome = known'.isSome)
    {directive other : Directive} (alike : directive.Alike other) :
    SameOutcome (fun known known' => known.isSome = known'.isSome) (addFieldDirective known directive)
      (addFieldDirective known' other) := by
  unfold addFieldDirective
  rw [← alike.name, ← derived]
  split
  · rename_i given
    split
    · exact .error _
    · have read : SameOutcome (fun _ _ => True) (readDerivedFrom directive.arguments)
          (readDerivedFrom other.arguments) :=
        (Arguments.checked_alike (alike.ofDerivedFrom given) _ _).bind fun _ _ entries =>
          Arguments.string_alike entries _
      exact read.map fun _ _ _ => rfl
  · exact .error _
  · exact .ok derived

/-- The directives of a type are accepted on both sides or refused for the same reason. -/
theorem typeDirectives_alike (alike : Forall₂ Directive.Alike directives others) :
    errorOf (typeDirectives directives) = errorOf (typeDirectives others) :=
  (SameOutcome.foldlM alike (fun _ _ _ _ entity same => TypeDirectives.add_alike entity same) rfl).errorOf_eq

theorem fieldDirectives_alike (alike : Forall₂ Directive.Alike directives others) :
    errorOf (fieldDirectives directives) = errorOf (fieldDirectives others) :=
  (SameOutcome.foldlM alike (fun _ _ _ _ derived same => addFieldDirective_alike derived same) rfl).errorOf_eq

/-- The same name, or two names of fields that are no identifiers and have one store name. -/
def FieldNamesAlike (name other : String) : Prop :=
  name = other ∨ name ≠ idField ∧ other ≠ idField ∧ storeName name = storeName other

structure Field.Alike (field other : Field) : Prop where
  name : FieldNamesAlike field.name other.name
  type : field.type = other.type
  directives : Forall₂ Directive.Alike field.directives other.directives

structure ObjectType.Alike (type other : ObjectType) : Prop where
  name : type.name = other.name
  implements : type.implements = other.implements
  directives : Forall₂ Directive.Alike type.directives other.directives
  fields : Forall₂ Field.Alike type.fields other.fields

structure InterfaceType.Alike (type other : InterfaceType) : Prop where
  name : type.name = other.name
  directives : Forall₂ Directive.Alike type.directives other.directives
  fields : Forall₂ Field.Alike type.fields other.fields

structure EnumType.Alike (type other : EnumType) : Prop where
  name : type.name = other.name
  directives : Forall₂ Directive.Alike type.directives other.directives
  values : type.values = other.values

structure ScalarType.Alike (type other : ScalarType) : Prop where
  name : type.name = other.name
  directives : Forall₂ Directive.Alike type.directives other.directives

inductive Definition.Alike : Definition → Definition → Prop where
  | object {type other : ObjectType} (alike : type.Alike other) : Alike (.object type) (.object other)
  | interface {type other : InterfaceType} (alike : type.Alike other) :
    Alike (.interface type) (.interface other)
  | enum {type other : EnumType} (alike : type.Alike other) : Alike (.enum type) (.enum other)
  | scalar {type other : ScalarType} (alike : type.Alike other) : Alike (.scalar type) (.scalar other)

/-- Documents that are equal apart from the spelling of names that count only by their store names. -/
def Document.Alike (document other : Document) : Prop :=
  Forall₂ Definition.Alike document.definitions other.definitions

theorem FieldNamesAlike.storeName_eq {name other : String} (alike : FieldNamesAlike name other) :
    storeName name = storeName other := by
  rcases alike with rfl | ⟨_, _, same⟩
  · rfl
  · exact same

/-- A name that may be spelled differently is no identifier, so identifiers stay what they are. -/
theorem FieldNamesAlike.identifier {name other : String} (alike : FieldNamesAlike name other) :
    name = idField ↔ other = idField := by
  rcases alike with rfl | ⟨left, right, _⟩
  · exact Iff.rfl
  · exact iff_of_false left right

theorem TypeRef.corresponds_refl (type : TypeRef) : type.Corresponds type :=
  ⟨fun _ => rfl, rfl, rfl, rfl⟩

/-- Fields that differ in nothing but such spelling correspond, with store names as keys. -/
theorem Field.Alike.corresponds {field other : Field} (alike : field.Alike other) :
    field.Corresponds .stored other where
  name := alike.name.storeName_eq
  identifier := alike.name.identifier
  type := alike.type ▸ field.type.corresponds_refl
  directives := fieldDirectives_alike alike.directives
  derivedFrom := derivation_alike alike.directives

theorem ObjectType.Alike.corresponds {type other : ObjectType} (alike : type.Alike other) :
    type.Corresponds .stored other where
  name := alike.name
  implements := alike.implements
  isEntity := any_forall₂ (fun _ _ same => same.is .entity) alike.directives
  options := options_alike alike.directives
  directives := typeDirectives_alike alike.directives
  searches := searches_correspond alike.directives
  fields _ := alike.fields.imp fun _ _ same => same.corresponds

/-- Definitions that are alike are of the same kind, so that those of a kind are alike in both documents. -/
theorem Document.Alike.corresponds {document other : Document} (alike : document.Alike other) :
    document.Corresponds .stored other where
  objects := by
    have objects : Forall₂ ObjectType.Alike document.objects other.objects := by
      refine List.rel_filterMap (fun _ _ same => ?_) alike
      cases same with
      | object same => exact .some same
      | _ => exact .none
    refine filter_forall₂ (fun _ _ same => same.isStored) ?_
    exact objects.imp fun _ _ same => same.corresponds
  enums := by
    have enums : Forall₂ EnumType.Alike document.enums other.enums := by
      refine List.rel_filterMap (fun _ _ same => ?_) alike
      cases same with
      | enum same => exact .some same
      | _ => exact .none
    exact map_eq_of_forall₂ (fun _ _ same => Prod.ext same.name same.values) enums
  interfaces := by
    have interfaces : Forall₂ InterfaceType.Alike document.interfaces other.interfaces := by
      refine List.rel_filterMap (fun _ _ same => ?_) alike
      cases same with
      | interface same => exact .some same
      | _ => exact .none
    exact map_eq_of_forall₂ (fun _ _ same => same.name) interfaces

end EntityLayout
