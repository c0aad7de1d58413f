import EntityLayout.Proofs.Layout.Erasure
import EntityLayout.Proofs.Schema.DirectiveReading
import EntityLayout.Proofs.UniqueKeys

/-!
# The shapes of directives

Which directives are accepted, and what is read from them: each kind of directive has a shape of its own, down to the
entries of the objects in its arguments, and it does not matter in which order arguments and entries are given
(`typeDirectives_ok_iff` for types, `fieldDirectives_ok_iff` for fields). Whatever has another shape is refused; for
which reason is not said here. Directives of other names are passed over, in what is accepted as well as in the errors.
-/
namespace EntityLayout
open List (Forall₂)

/-- A word is given as a string or bare. -/
def IsWord (value : Value) (text : String) : Prop :=
  value = .str text ∨ value = .enum text

/-- Flags, each given once at most, and which of them are set. -/
structure EntityOptions.Shape (arguments : List Argument) (options : EntityOptions) : Prop where
  once : (arguments.map (·.name)).Nodup
  flags : ∀ argument ∈ arguments, (argument.name = "immutable" ∨ argument.name = "timeseries") ∧
    ∃ value, argument.value = .bool value
  immutable : options.immutable = true ↔ ⟨"immutable", .bool true⟩ ∈ arguments
  timeseries : options.timeseries = true ↔ ⟨"timeseries", .bool true⟩ ∈ arguments

/-- The one argument of a derivation. -/
def IsDerivation (arguments : List Argument) (field : String) : Prop :=
  arguments = [⟨"field", .str field⟩]

namespace TextSearch

/-- A field of an entity that a text search includes. -/
def IsField (item : Value) (field : String) : Prop :=
  item = .object [⟨"name", .str field⟩]

/-- An entity that a text search includes, and which of its fields. -/
def IsInclude (item : Value) (included : SearchInclude) : Prop :=
  ∃ entries items, item = .object entries ∧
    entries.Perm [⟨"entity", .str included.entity⟩, ⟨"fields", .list items⟩] ∧ Forall₂ IsField items included.fields

/-- The four arguments of a text search, in any order. -/
def Shape (arguments : List Argument) (search : TextSearch) : Prop :=
  ∃ language algorithm items, arguments.Perm [⟨"name", .str search.name⟩, ⟨"language", language⟩,
      ⟨"algorithm", algorithm⟩, ⟨"include", .list items⟩] ∧
    IsWord language search.language ∧ IsWord algorithm search.algorithm ∧ Forall₂ IsInclude items search.includes

end TextSearch

/-- What the directives of a type are like, and what they say: at most one is for an entity. -/
structure TypeDirectives.Shape (directives : List Directive) (known : TypeDirectives) : Prop where
  placed : ∀ directive ∈ directives, directive.is .derivedFrom = false
  entity : Forall₂ (fun directive options => EntityOptions.Shape directive.arguments options)
    (directives.filter (·.is .entity)) known.entity.toList
  searches : Forall₂ (fun directive search => TextSearch.Shape directive.arguments search)
    (directives.filter (·.is .fulltext)) known.searches

/-- What the directives of a field are like, and what they say: at most one is a derivation. -/
structure DerivationShape (directives : List Directive) (derivedFrom : Option String) : Prop where
  placed : ∀ directive ∈ directives, directive.is .entity = false ∧ directive.is .fulltext = false
  derivation : Forall₂ (fun directive field => IsDerivation directive.arguments field)
    (directives.filter (·.is .derivedFrom)) derivedFrom.toList

theorem valueUnder?_eq_some_iff {arguments : List Argument} {name : String} {value : Value} :
    valueUnder? arguments name = some value ↔ arguments.find? (·.name == name) = some ⟨name, value⟩ := by
  unfold valueUnder?
  rw [Option.map_eq_some_iff]
  constructor
  · rintro ⟨⟨other, _⟩, found, rfl⟩
    have named : other = name := by simpa using List.find?_some found
    rw [found, named]
  · intro found
    exact ⟨_, found, rfl⟩

/-- The arguments are the given ones in some order, if their names are checked and each value is found. -/
theorem arguments_perm_iff {arguments template : List Argument} (unique : (template.map (·.name)).Nodup) :
    arguments.Perm template ↔ ((∀ argument ∈ arguments, argument.name ∈ template.map (·.name)) ∧
      (arguments.map (·.name)).Nodup) ∧
      ∀ argument ∈ template, valueUnder? arguments argument.name = some argument.value := by
  rw [perm_iff_find?_key unique, and_assoc]
  simp only [valueUnder?_eq_some_iff]

/-- Where no name is given twice, what is found under a name is what is given under it. -/
theorem valueUnder?_eq_some_iff_mem {arguments : List Argument} {name : String} {value : Value}
    (once : (arguments.map (·.name)).Nodup) : valueUnder? arguments name = some value ↔ ⟨name, value⟩ ∈ arguments := by
  rw [valueUnder?_eq_some_iff]
  exact ⟨List.mem_of_find?_eq_some, find?_key once⟩

theorem valueUnder?_eq_none_iff {arguments : List Argument} {name : String} :
    valueUnder? arguments name = none ↔ ∀ argument ∈ arguments, argument.name ≠ name := by
  simp [valueUnder?]

namespace Arguments

variable {directive : KnownDirective} {allowed : List String} {entries : List Argument} {α : Type}
  {next : Arguments → Except DirectiveError α} {result : α}

/-- A reader of checked arguments succeeds exactly when the names pass and the reader does. -/
theorem checked_bind_ok_iff : (checked directive allowed entries >>= next) = .ok result ↔
    ((∀ entry ∈ entries, entry.name ∈ allowed) ∧ (entries.map (·.name)).Nodup) ∧
      next ⟨directive, entries⟩ = .ok result := by
  rw [bind_eq_ok_iff]
  constructor
  · rintro ⟨_, success, rest⟩
    obtain ⟨known, once, rfl⟩ := checked_ok_iff.mp success
    exact ⟨⟨known, once⟩, rest⟩
  · rintro ⟨⟨known, once⟩, rest⟩
    exact ⟨_, checked_ok_iff.mpr ⟨known, once, rfl⟩, rest⟩

/-- A reader of an item succeeds exactly when the item is an object and the reader does on its entries. -/
theorem ofItem_bind_ok_iff {name : String} {item : Value} :
    (ofItem directive name allowed item >>= next) = .ok result ↔
      ∃ entries, item = .object entries ∧ (checked directive allowed entries >>= next) = .ok result := by
  cases item with
  | object entries =>
    constructor
    · exact fun success => ⟨entries, rfl, success⟩
    · rintro ⟨_, ⟨⟩, success⟩
      exact success
  | _ => exact ⟨nofun, nofun⟩

/-- One string, and nothing else. -/
theorem only_string_ok_iff {name text : String} :
    (checked directive [name] entries >>= fun arguments => arguments.string name) = .ok text ↔
      entries = [⟨name, .str text⟩] := by
  rw [checked_bind_ok_iff, string_ok_iff, ← List.perm_singleton, arguments_perm_iff (by simp)]
  simp

theorem word_ok_iff_isWord {arguments : Arguments} {name text : String} : arguments.word name = .ok text ↔
    ∃ value, valueUnder? arguments.entries name = some value ∧ IsWord value text := by
  rw [word_ok_iff]
  constructor
  · rintro (given | given)
    · exact ⟨_, given, Or.inl rfl⟩
    · exact ⟨_, given, Or.inr rfl⟩
  · rintro ⟨_, given, rfl | rfl⟩
    · exact Or.inl given
    · exact Or.inr given

/-- Where no name is given twice, a flag is read from whatever is given under its name. -/
theorem flag_ok_iff_mem {name : String} {value : Bool} (once : (entries.map (·.name)).Nodup) :
    flag ⟨directive, entries⟩ name = .ok value ↔
      (∀ entry ∈ entries, entry.name = name → ∃ flag, entry.value = .bool flag) ∧
        (value = true ↔ ⟨name, .bool true⟩ ∈ entries) := by
  rw [flag_ok_iff, ← valueUnder?_eq_some_iff_mem once]
  constructor
  · rintro (⟨absent, rfl⟩ | given)
    · refine ⟨fun entry member named => ?_, by simp [absent]⟩
      exact absurd named (valueUnder?_eq_none_iff.mp absent entry member)
    · refine ⟨?_, by simp [given]⟩
      rintro ⟨_, other⟩ member rfl
      have same := given.symm.trans ((valueUnder?_eq_some_iff_mem once).mpr member)
      exact ⟨value, (Option.some.inj same).symm⟩
  · rintro ⟨flags, set⟩
    cases found : valueUnder? entries name with
    | none =>
      refine Or.inl ⟨rfl, Bool.eq_false_iff.mpr fun on => ?_⟩
      exact absurd (set.mp on) (by simp [found])
    | some given =>
      obtain ⟨flag, same⟩ := flags _ ((valueUnder?_eq_some_iff_mem once).mp found) rfl
      cases same
      right
      cases flag <;> simp_all

end Arguments

namespace EntityOptions

/-- Soundness and completeness of the flags: unknown names, repeated ones and values that are no Booleans are refused.
-/
theorem read_ok_iff {arguments : List Argument} {options : EntityOptions} :
    EntityOptions.read arguments = .ok options ↔ Shape arguments options := by
  unfold EntityOptions.read
  rw [Arguments.checked_bind_ok_iff]
  simp only [bind_eq_ok_iff]
  constructor
  · rintro ⟨⟨known, once⟩, immutable, first, timeseries, second, success⟩
    obtain ⟨immutableFlags, immutable⟩ := (Arguments.flag_ok_iff_mem once).mp first
    obtain ⟨timeseriesFlags, timeseries⟩ := (Arguments.flag_ok_iff_mem once).mp second
    cases success
    refine ⟨once, fun argument member => ?_, immutable, timeseries⟩
    have named : argument.name = "immutable" ∨ argument.name = "timeseries" := by simpa using known argument member
    exact ⟨named, named.elim (immutableFlags argument member) (timeseriesFlags argument member)⟩
  · rintro ⟨once, flags, immutable, timeseries⟩
    have given : ∀ name, ∀ argument ∈ arguments, argument.name = name → ∃ flag, argument.value = .bool flag :=
      fun _ argument member _ => (flags argument member).2
    refine ⟨⟨fun argument member => ?_, once⟩, options.immutable, ?_, options.timeseries, ?_, rfl⟩
    · simpa using (flags argument member).1
    · exact (Arguments.flag_ok_iff_mem once).mpr ⟨given _, immutable⟩
    · exact (Arguments.flag_ok_iff_mem once).mpr ⟨given _, timeseries⟩

end EntityOptions

namespace TextSearch

/-- A field of a search is an object with a string under `name` and nothing else. -/
theorem readField_ok_iff {item : Value} {field : String} : readField item = .ok field ↔ IsField item field := by
  unfold readField IsField
  rw [Arguments.ofItem_bind_ok_iff]
  simp [Arguments.only_string_ok_iff]

/-- An entity of a search is an object with its two entries in either order and nothing else. -/
theorem readInclude_ok_iff {item : Value} {included : SearchInclude} :
    readInclude item = .ok included ↔ IsInclude item included := by
  unfold readInclude IsInclude
  rw [Arguments.ofItem_bind_ok_iff]
  refine exists_congr fun entries => ?_
  rw [Arguments.checked_bind_ok_iff]
  simp only [bind_eq_ok_iff, Arguments.list_ok_iff, Arguments.string_ok_iff, mapM_eq_ok_iff, readField_ok_iff]
  constructor
  · rintro ⟨rfl, named, items, fields, texts, each, entity, text, success⟩
    cases success
    refine ⟨items, rfl, (arguments_perm_iff (by simp)).mpr ⟨named, ?_⟩, each⟩
    simp [text, fields]
  · rintro ⟨items, rfl, permuted, each⟩
    obtain ⟨named, values⟩ := (arguments_perm_iff (by simp)).mp permuted
    refine ⟨rfl, named, items, ?_, included.fields, each, included.entity, ?_, rfl⟩
    · exact values ⟨"fields", _⟩ (by simp)
    · exact values ⟨"entity", _⟩ (by simp)

/-- A search has its four arguments in any order and nothing else. -/
theorem read_ok_iff {arguments : List Argument} {search : TextSearch} :
    read arguments = .ok search ↔ Shape arguments search := by
  unfold read Shape
  rw [Arguments.checked_bind_ok_iff]
  simp only [bind_eq_ok_iff, Arguments.list_ok_iff, Arguments.string_ok_iff, Arguments.word_ok_iff_isWord,
    mapM_eq_ok_iff, readInclude_ok_iff]
  constructor
  · rintro ⟨named, items, listed, includes, each, name, text, _, ⟨language, first, word⟩, _,
      ⟨algorithm, second, word'⟩, success⟩
    cases success
    refine ⟨language, algorithm, items, (arguments_perm_iff (by simp)).mpr ⟨named, ?_⟩, word, word', each⟩
    simp [text, first, second, listed]
  · rintro ⟨language, algorithm, items, permuted, word, word', each⟩
    obtain ⟨named, values⟩ := (arguments_perm_iff (by simp)).mp permuted
    refine ⟨named, items, ?_, search.includes, each, search.name, ?_, search.language, ⟨language, ?_, word⟩,
      search.algorithm, ⟨algorithm, ?_, word'⟩, rfl⟩
    · exact values ⟨"include", _⟩ (by simp)
    · exact values ⟨"name", _⟩ (by simp)
    · exact values ⟨"language", _⟩ (by simp)
    · exact values ⟨"algorithm", _⟩ (by simp)

end TextSearch

/-- A derivation has a string under `field` and nothing else. -/
theorem readDerivedFrom_ok_iff {arguments : List Argument} {field : String} :
    readDerivedFrom arguments = .ok field ↔ IsDerivation arguments field :=
  Arguments.only_string_ok_iff

namespace TypeDirectives

theorem shape_nil_iff {known : TypeDirectives} : Shape [] known ↔ known = ⟨none, []⟩ := by
  obtain ⟨entity, searches⟩ := known
  rw [mk.injEq]
  constructor
  · rintro ⟨_, noEntity, noSearches⟩
    rw [List.filter_nil, List.forall₂_nil_left_iff] at noEntity noSearches
    exact ⟨Option.toList_eq_nil_iff.mp noEntity, noSearches⟩
  · rintro ⟨rfl, rfl⟩
    exact ⟨nofun, .nil, .nil⟩

section
variable {earlier : List Directive} {directive : Directive} {next : TypeDirectives}

/-- An entity is declared once. -/
theorem shape_concat_entity_iff (is : ∀ known, directive.is known = decide (.entity = known)) :
    Shape (earlier ++ [directive]) next ↔ ∃ known, Shape earlier known ∧ known.entity = none ∧
      ∃ options, EntityOptions.Shape directive.arguments options ∧ { known with entity := some options } = next := by
  have entities : (earlier ++ [directive]).filter (·.is .entity) = earlier.filter (·.is .entity) ++ [directive] := by
    simp [is]
  constructor
  · rintro ⟨placed, entity, searches⟩
    rw [entities, forall₂_concat_toList_iff] at entity
    obtain ⟨first, options, given, shape⟩ := entity
    refine ⟨{ next with entity := none }, ⟨(forall_mem_concat_iff.mp placed).1, ?_, by simpa [is] using searches⟩, rfl,
      options, shape, by rw [← given]⟩
    rw [first]
    exact .nil
  · rintro ⟨known, ⟨placed, entity, searches⟩, fresh, options, shape, rfl⟩
    rw [fresh, Option.toList_none, List.forall₂_nil_right_iff] at entity
    refine ⟨forall_mem_concat_iff.mpr ⟨placed, by simp [is]⟩, ?_, by simpa [is] using searches⟩
    rw [entities, forall₂_concat_toList_iff]
    exact ⟨entity, options, rfl, shape⟩

/-- A text search comes behind those in front of it. -/
theorem shape_concat_search_iff (is : ∀ known, directive.is known = decide (.fulltext = known)) :
    Shape (earlier ++ [directive]) next ↔ ∃ known, Shape earlier known ∧
      ∃ search, TextSearch.Shape directive.arguments search ∧
        { known with searches := known.searches ++ [search] } = next := by
  have found : (earlier ++ [directive]).filter (·.is .fulltext) = earlier.filter (·.is .fulltext) ++ [directive] := by
    simp [is]
  constructor
  · rintro ⟨placed, entity, searches⟩
    rw [found, forall₂_concat_iff] at searches
    obtain ⟨front, search, same, others, shape⟩ := searches
    exact ⟨{ next with searches := front }, ⟨(forall_mem_concat_iff.mp placed).1, by simpa [is] using entity, others⟩,
      search, shape, by rw [← same]⟩
  · rintro ⟨known, ⟨placed, entity, searches⟩, search, shape, rfl⟩
    refine ⟨forall_mem_concat_iff.mpr ⟨placed, by simp [is]⟩, by simpa [is] using entity, ?_⟩
    rw [found, forall₂_concat_iff]
    exact ⟨known.searches, search, rfl, searches, shape⟩

/-- A directive of another name does not change the shape. -/
theorem shape_concat_other_iff (is : ∀ known, directive.is known = false) :
    Shape (earlier ++ [directive]) next ↔ Shape earlier next := by
  constructor
  · rintro ⟨placed, entity, searches⟩
    exact ⟨(forall_mem_concat_iff.mp placed).1, by simpa [is] using entity, by simpa [is] using searches⟩
  · rintro ⟨placed, entity, searches⟩
    exact ⟨forall_mem_concat_iff.mpr ⟨placed, is _⟩, by simpa [is] using entity, by simpa [is] using searches⟩

end

/-- What one more directive leads to is what its kind leads to. -/
theorem shape_concat_iff (earlier : List Directive) (directive : Directive) (next : TypeDirectives) :
    Shape (earlier ++ [directive]) next ↔ ∃ known, Shape earlier known ∧ known.add directive = .ok next := by
  unfold add
  split
  · rename_i named
    rw [shape_concat_entity_iff (Directive.is_of_name (KnownDirective.ofName?_eq_some_iff.mp named))]
    refine exists_congr fun known => and_congr_right fun _ => ?_
    simp only [← EntityOptions.read_ok_iff, ← map_eq_ok_iff]
    cases known.entity <;> simp
  · rename_i named
    rw [shape_concat_search_iff (Directive.is_of_name (KnownDirective.ofName?_eq_some_iff.mp named))]
    simp only [← TextSearch.read_ok_iff, ← map_eq_ok_iff]
  · rename_i named
    constructor
    · intro shape
      have placed := (forall_mem_concat_iff.mp shape.placed).2
      rw [Directive.is_of_name (KnownDirective.ofName?_eq_some_iff.mp named)] at placed
      cases placed
    · rintro ⟨_, _, ⟨⟩⟩
  · rename_i unknown
    rw [shape_concat_other_iff (Directive.is_of_unknown (KnownDirective.ofName?_eq_none_iff.mp unknown))]
    simp

end TypeDirectives

theorem derivationShape_nil_iff {derivedFrom : Option String} :
    DerivationShape [] derivedFrom ↔ derivedFrom = none := by
  constructor
  · rintro ⟨_, derivation⟩
    rw [List.filter_nil, List.forall₂_nil_left_iff] at derivation
    exact Option.toList_eq_nil_iff.mp derivation
  · rintro rfl
    exact ⟨nofun, .nil⟩

section
variable {earlier : List Directive} {directive : Directive} {next : Option String}

/-- A derivation is given once. -/
theorem derivationShape_concat_derivation_iff (is : ∀ known, directive.is known = decide (.derivedFrom = known)) :
    DerivationShape (earlier ++ [directive]) next ↔ DerivationShape earlier none ∧
      ∃ field, IsDerivation directive.arguments field ∧ some field = next := by
  have derivations : (earlier ++ [directive]).filter (·.is .derivedFrom) =
      earlier.filter (·.is .derivedFrom) ++ [directive] := by
    simp [is]
  constructor
  · rintro ⟨placed, derivation⟩
    rw [derivations, forall₂_concat_toList_iff] at derivation
    obtain ⟨first, field, given, shape⟩ := derivation
    refine ⟨⟨(forall_mem_concat_iff.mp placed).1, ?_⟩, field, shape, given.symm⟩
    rw [first]
    exact .nil
  · rintro ⟨⟨placed, derivation⟩, field, shape, rfl⟩
    rw [Option.toList_none, List.forall₂_nil_right_iff] at derivation
    refine ⟨forall_mem_concat_iff.mpr ⟨placed, by simp [is]⟩, ?_⟩
    rw [derivations, forall₂_concat_toList_iff]
    exact ⟨derivation, field, rfl, shape⟩

theorem derivationShape_concat_other_iff (is : ∀ known, directive.is known = false) :
    DerivationShape (earlier ++ [directive]) next ↔ DerivationShape earlier next := by
  constructor
  · rintro ⟨placed, derivation⟩
    exact ⟨(forall_mem_concat_iff.mp placed).1, by simpa [is] using derivation⟩
  · rintro ⟨placed, derivation⟩
    exact ⟨forall_mem_concat_iff.mpr ⟨placed, is _, is _⟩, by simpa [is] using derivation⟩

end

/-- The shape of a field's directives, one directive after the other, as the reader takes them. -/
theorem derivationShape_concat_iff (earlier : List Directive) (directive : Directive) (next : Option String) :
    DerivationShape (earlier ++ [directive]) next ↔
      ∃ known, DerivationShape earlier known ∧ addFieldDirective known directive = .ok next := by
  unfold addFieldDirective
  split
  · rename_i named
    rw [derivationShape_concat_derivation_iff (Directive.is_of_name (KnownDirective.ofName?_eq_some_iff.mp named))]
    simp only [← readDerivedFrom_ok_iff, ← map_eq_ok_iff]
    constructor
    · rintro ⟨shape, success⟩
      exact ⟨none, shape, success⟩
    · rintro ⟨known, shape, success⟩
      cases known with
      | none => exact ⟨shape, success⟩
      | some _ => cases success
  · rename_i other derives named
    constructor
    · intro shape
      have placed := (forall_mem_concat_iff.mp shape.placed).2
      simp only [Directive.is_of_name (KnownDirective.ofName?_eq_some_iff.mp named)] at placed
      cases other with
      | derivedFrom => exact absurd rfl derives
      | entity => cases placed.1
      | fulltext => cases placed.2
    · rintro ⟨_, _, ⟨⟩⟩
  · rename_i unknown
    rw [derivationShape_concat_other_iff (Directive.is_of_unknown (KnownDirective.ofName?_eq_none_iff.mp unknown))]
    simp

/-- The directives of a type are accepted exactly in their shape, and read as what it says. -/
theorem typeDirectives_ok_iff {directives : List Directive} {known : TypeDirectives} :
    typeDirectives directives = .ok known ↔ TypeDirectives.Shape directives known := by
  rw [← List.nil_append directives, ← foldlM_ok_iff TypeDirectives.shape_concat_iff []]
  simp [TypeDirectives.shape_nil_iff, typeDirectives]

/-- The directives of a field are accepted exactly in their shape, and read as what it says. -/
theorem fieldDirectives_ok_iff {directives : List Directive} {derivedFrom : Option String} :
    fieldDirectives directives = .ok derivedFrom ↔ DerivationShape directives derivedFrom := by
  rw [← List.nil_append directives, ← foldlM_ok_iff derivationShape_concat_iff []]
  simp [derivationShape_nil_iff, fieldDirectives]

/-- The names of the directives that are read. -/
def directiveNames : List String :=
  ["entity", "derivedFrom", "fulltext"]

theorem Directive.isKnown_eq_decide (directive : Directive) :
    directive.isKnown = decide (directive.name ∈ directiveNames) := by
  rw [Bool.eq_iff_iff, isKnown, Option.isSome_iff_exists, decide_eq_true_iff]
  simp only [KnownDirective.ofName?_eq_some_iff]
  constructor
  · rintro ⟨known, same⟩
    rw [same]
    cases known <;> decide
  · intro member
    simp only [directiveNames, List.mem_cons, List.not_mem_nil, or_false] at member
    rcases member with same | same | same
    · exact ⟨.entity, same⟩
    · exact ⟨.derivedFrom, same⟩
    · exact ⟨.fulltext, same⟩

/-- Directives are read from the shapes above and from no others, and those of other names do not matter. -/
theorem directives_shaped (directives : List Directive) :
    (∀ known, typeDirectives directives = .ok known ↔ TypeDirectives.Shape directives known) ∧
    (∀ derivedFrom, fieldDirectives directives = .ok derivedFrom ↔ DerivationShape directives derivedFrom) ∧
    typeDirectives (directives.filter (·.name ∈ directiveNames)) = typeDirectives directives ∧
    fieldDirectives (directives.filter (·.name ∈ directiveNames)) = fieldDirectives directives := by
  have named : (fun directive : Directive => decide (directive.name ∈ directiveNames)) = (·.isKnown) :=
    funext fun directive => directive.isKnown_eq_decide.symm
  refine ⟨fun _ => typeDirectives_ok_iff, fun _ => fieldDirectives_ok_iff, ?_, ?_⟩
  · rw [named, typeDirectives_erased]
  · rw [named, fieldDirectives_erased]

/-- Neither the order of arguments nor that of entries matters, and a word may stand without quotes. -/
example : typeDirectives [⟨"fulltext", [
      ⟨"include", .list [.object [⟨"fields", .list [.object [⟨"name", .str "title"⟩]]⟩, ⟨"entity", .str "Post"⟩]]⟩,
      ⟨"algorithm", .str "rank"⟩, ⟨"name", .str "search"⟩, ⟨"language", .enum "en"⟩]⟩] =
    .ok ⟨none, [⟨"search", "en", "rank", [⟨"Post", ["title"]⟩]⟩]⟩ := by
  rfl

end EntityLayout
