import EntityLayout.Proofs.Layout.Correspondence

/-!
# What a layout does not read

Erasing a document drops what no layout depends on: scalars, object types that are not stored, directives
without a meaning, what stands inside interfaces and enums apart from the enum's values, the fields of a
schema type that is no entity, and required marks inside of lists. What is left is regrouped by kind. The
erased document has the same layout, or is refused for the same reason (`ofDocument_erased`).
-/
namespace EntityLayout

namespace TypeRef

/-- The type without the required marks that stand inside of a list. -/
def erased : TypeRef → TypeRef
  | .named name => .named name
  | .list element => .list element.unmarked
  | .nonNull type => .nonNull type.erased

/-- Required marks inside of a list change nothing that a layout says of a type. -/
theorem erased_corresponds (type : TypeRef) : type.erased.Corresponds type where
  resolve registry := by
    induction type with
    | named name => rfl
    | list element => simp only [erased, Registry.resolve, resolve_unmarked]
    | nonNull type ih => exact ih
  baseName := by
    induction type with
    | named name => rfl
    | list element => exact element.baseName_unmarked
    | nonNull type ih => exact ih
  isRequired := by cases type <;> rfl
  isList := by
    cases type with
    | nonNull type => cases type <;> rfl
    | _ => rfl

end TypeRef

/-- Whether the directive is one of those with a meaning. -/
def Directive.isKnown (directive : Directive) : Bool :=
  (KnownDirective.ofName? directive.name).isSome

theorem Directive.isKnown_of_is {directive : Directive} {known : KnownDirective}
    (is : directive.is known = true) : directive.isKnown = true := by
  rw [isKnown, KnownDirective.ofName?_eq_some_iff.mpr (beq_iff_eq.mp is)]
  rfl

theorem ofName?_of_not_isKnown {directive : Directive} (unknown : ¬directive.isKnown = true) :
    KnownDirective.ofName? directive.name = none := by
  rwa [Directive.isKnown, Option.not_isSome_iff_eq_none] at unknown

/-- Unknown directives change neither what those of a type say nor which of them is at fault. -/
theorem typeDirectives_erased (directives : List Directive) :
    typeDirectives (directives.filter (·.isKnown)) = typeDirectives directives := by
  unfold typeDirectives
  rw [List.foldlM_filter]
  congr 1
  funext known directive
  split
  · rfl
  · rename_i unknown
    rw [TypeDirectives.add, ofName?_of_not_isKnown unknown]
    rfl

theorem fieldDirectives_erased (directives : List Directive) :
    fieldDirectives (directives.filter (·.isKnown)) = fieldDirectives directives := by
  unfold fieldDirectives
  rw [List.foldlM_filter]
  congr 1
  funext known directive
  split
  · rfl
  · rename_i unknown
    rw [addFieldDirective, ofName?_of_not_isKnown unknown]
    rfl

section
variable {test : Directive → Bool} (knows : ∀ directive, test directive = true → directive.isKnown = true)
include knows

theorem and_isKnown (directive : Directive) : (directive.isKnown && test directive) = test directive := by
  cases given : test directive with
  | true => rw [knows directive given, Bool.and_self]
  | false => rw [Bool.and_false]

theorem any_erased (directives : List Directive) :
    (directives.filter (·.isKnown)).any test = directives.any test := by
  rw [List.any_filter]
  exact congrArg directives.any (funext fun directive => and_isKnown knows directive)

/-- A test that only known directives pass chooses the same ones from what is left. -/
theorem filter_erased (directives : List Directive) :
    (directives.filter (·.isKnown)).filter test = directives.filter test := by
  rw [List.filter_filter]
  exact List.filter_congr fun directive _ => (Bool.and_comm _ _).trans (and_isKnown knows directive)

theorem find?_erased (directives : List Directive) :
    (directives.filter (·.isKnown)).find? test = directives.find? test := by
  rw [List.find?_filter]
  congr 1
  funext directive
  simp [and_isKnown knows]

end

def Field.erased (field : Field) : Field where
  name := field.name
  type := field.type.erased
  directives := field.directives.filter (·.isKnown)

theorem Field.erased_corresponds (field : Field) : field.erased.Corresponds .exact field where
  name := rfl
  identifier := Iff.rfl
  type := field.type.erased_corresponds
  directives := congrArg errorOf (fieldDirectives_erased field.directives)
  derivedFrom := by
    simp only [derivedFrom?, erased]
    rw [find?_erased fun _ is => Directive.isKnown_of_is is]

namespace ObjectType

def erased (type : ObjectType) : ObjectType where
  name := type.name
  implements := type.implements
  directives := type.directives.filter (·.isKnown)
  fields := if type.isEntity then type.fields.map (·.erased) else []

/-- An entity stays one, for its directive is known. -/
theorem isEntity_erased (type : ObjectType) : type.erased.isEntity = type.isEntity :=
  any_erased (fun _ is => Directive.isKnown_of_is is) type.directives

theorem isStored_erased (type : ObjectType) : type.erased.isStored = type.isStored := by
  rw [isStored, isEntity_erased]
  rfl

/-- An erased type declares what the type does, without the fields of a schema type that is no entity. -/
theorem erased_corresponds (type : ObjectType) : type.erased.Corresponds .exact type where
  name := rfl
  implements := rfl
  isEntity := type.isEntity_erased
  options := by
    have set (flag : String) (directive : Directive)
        (given : (directive.is .entity && trueUnder directive.arguments flag) = true) :
        directive.isKnown = true :=
      Directive.isKnown_of_is (Bool.and_eq_true_iff.mp given).1
    simp only [options, EntityOptions.declared, erased, any_erased (set _)]
  directives := congrArg errorOf (typeDirectives_erased type.directives)
  searches := by
    simp only [searches, TypeDirectives.declared, erased]
    rw [filter_erased fun _ is => Directive.isKnown_of_is is]
    exact List.forall₂_same.mpr fun _ _ => ⟨rfl, rfl, rfl, List.forall₂_same.mpr fun _ _ => ⟨rfl, rfl⟩⟩
  fields entity := by
    rw [isEntity_erased] at entity
    simp only [erased, if_pos entity, List.forall₂_map_left_iff]
    exact List.forall₂_same.mpr fun field _ => field.erased_corresponds

end ObjectType

def EnumType.erased (type : EnumType) : EnumType where
  name := type.name
  directives := []
  values := type.values

def InterfaceType.erased (type : InterfaceType) : InterfaceType where
  name := type.name
  directives := []
  fields := []

namespace Document

/-- What a layout reads of a document. -/
def erased (document : Document) : Document where
  definitions :=
    (document.objects.filter (·.isStored)).map (fun type => .object type.erased) ++
      (document.enums.map (fun type => .enum type.erased) ++
        document.interfaces.map fun type => .interface type.erased)

theorem objects_erased (document : Document) :
    document.erased.objects = (document.objects.filter (·.isStored)).map (·.erased) := by
  simp [objects, erased, List.filterMap_append, List.filterMap_map]

theorem enums_erased (document : Document) : document.erased.enums = document.enums.map (·.erased) := by
  simp [enums, erased, List.filterMap_append, List.filterMap_map]

theorem interfaces_erased (document : Document) :
    document.erased.interfaces = document.interfaces.map (·.erased) := by
  simp [interfaces, erased, List.filterMap_append, List.filterMap_map]

/-- Kind by kind, an erased document declares what the document does, in the order of the document. -/
theorem erased_corresponds (document : Document) : document.erased.Corresponds .exact document where
  objects := by
    rw [objects_erased, List.filter_map, List.forall₂_map_left_iff]
    simp only [Function.comp_def, ObjectType.isStored_erased, List.filter_filter, Bool.and_self]
    exact List.forall₂_same.mpr fun type _ => type.erased_corresponds
  enums := by
    rw [enums_erased, List.map_map]
    rfl
  interfaces := by
    rw [interfaces_erased, List.map_map]
    rfl

end Document

/-- Nothing that erasing drops has a part in the layout or in the error. -/
theorem ofDocument_erased (document : Document) :
    Layout.ofDocument document.erased = Layout.ofDocument document := by
  have same := ofDocument_corresponds document.erased_corresponds
  have unchanged (outcome : Except SchemaError Layout) :
      outcome.mapError NameKey.exact.ofError = outcome := by
    cases outcome with
    | error cause => exact congrArg Except.error (NameKey.ofError_exact cause)
    | ok layout => rfl
  rwa [unchanged, unchanged] at same

end EntityLayout
