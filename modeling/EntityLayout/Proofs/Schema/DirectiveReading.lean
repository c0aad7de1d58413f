import EntityLayout.Proofs.FirstViolation
import EntityLayout.Proofs.Schema.Declared

/-!
# Reading directives

When the directives of a type or of a field are accepted, what is read from them is what they declare:
`typeDirectives_declared` for types and `fieldDirectives_declared` for fields. Nothing is said here about
which directives are accepted.
-/
namespace EntityLayout

namespace Arguments

variable {arguments : Arguments} {name : String}

/-- An argument is found exactly when it is given; the first one of the name counts. -/
theorem get_ok_iff {value : Value} :
    arguments.get name = .ok value ↔ valueUnder? arguments.entries name = some value := by
  have lookup : arguments.get? name = valueUnder? arguments.entries name := rfl
  unfold get
  rw [← lookup]
  cases arguments.get? name <;> simp

/-- Only a string is taken for a string. -/
theorem string_ok_iff {text : String} :
    arguments.string name = .ok text ↔ valueUnder? arguments.entries name = some (.str text) := by
  unfold string
  rw [bind_eq_ok_iff]
  simp only [get_ok_iff]
  constructor
  · rintro ⟨value, given, success⟩
    split at success
    · cases success
      exact given
    · cases success
  · intro given
    exact ⟨_, given, rfl⟩

/-- A word may also be given bare, as an enum value. -/
theorem word_ok_iff {text : String} :
    arguments.word name = .ok text ↔ valueUnder? arguments.entries name = some (.str text) ∨
      valueUnder? arguments.entries name = some (.enum text) := by
  unfold word
  rw [bind_eq_ok_iff]
  simp only [get_ok_iff]
  constructor
  · rintro ⟨value, given, success⟩
    split at success
    · cases success
      exact Or.inl given
    · cases success
      exact Or.inr given
    · cases success
  · rintro (given | given)
    · exact ⟨_, given, rfl⟩
    · exact ⟨_, given, rfl⟩

theorem list_ok_iff {items : List Value} :
    arguments.list name = .ok items ↔ valueUnder? arguments.entries name = some (.list items) := by
  unfold list
  rw [bind_eq_ok_iff]
  simp only [get_ok_iff]
  constructor
  · rintro ⟨value, given, success⟩
    split at success
    · cases success
      exact given
    · cases success
  · intro given
    exact ⟨_, given, rfl⟩

/-- A flag that is not given is off. -/
theorem flag_ok_iff {value : Bool} :
    arguments.flag name = .ok value ↔ valueUnder? arguments.entries name = none ∧ value = false ∨
      valueUnder? arguments.entries name = some (.bool value) := by
  have lookup : arguments.get? name = valueUnder? arguments.entries name := rfl
  unfold flag
  rw [← lookup]
  split
  · rename_i absent
    simp [absent, eq_comm]
  · rename_i given
    simp [given]
  · rename_i found other given
    refine ⟨nofun, ?_⟩
    rintro (⟨absent, _⟩ | same)
    · cases given.symm.trans absent
    · exact absurd (Option.some.inj (given.symm.trans same)) (other value)

/-- Names pass exactly when all are allowed and none is given twice. -/
theorem checkNames_ok_iff {directive : KnownDirective} {allowed seen : List String} {entries : List Argument} :
    checkNames directive allowed seen entries = .ok () ↔
      (∀ entry ∈ entries, entry.name ∈ allowed ∧ entry.name ∉ seen) ∧ (entries.map (·.name)).Nodup := by
  induction entries generalizing seen with
  | nil => simp [checkNames]
  | cons entry rest ih =>
    rw [checkNames]
    split
    · rename_i unknown
      simp [unknown]
    · rename_i known
      split
      · rename_i repeated
        simp [repeated]
      · rename_i fresh
        rw [ih, List.map_cons, List.nodup_cons, List.forall_mem_cons]
        constructor
        · rintro ⟨others, unique⟩
          refine ⟨⟨⟨Decidable.not_not.mp known, fresh⟩, fun other member => ?_⟩, ?_, unique⟩
          · obtain ⟨allowed, unseen⟩ := others other member
            exact ⟨allowed, fun before => unseen (List.mem_cons_of_mem _ before)⟩
          · intro repeated
            obtain ⟨other, member, same⟩ := List.mem_map.mp repeated
            exact (others other member).2 (same ▸ List.mem_cons_self)
        · rintro ⟨⟨_, others⟩, first, unique⟩
          refine ⟨fun other member => ⟨(others other member).1, ?_⟩, unique⟩
          rw [List.mem_cons, not_or]
          exact ⟨fun same => first (List.mem_map.mpr ⟨other, member, same⟩), (others other member).2⟩

/-- Names that are allowed and given once each are all that is checked. -/
theorem checked_ok_iff {directive : KnownDirective} {allowed : List String} {entries : List Argument} :
    checked directive allowed entries = .ok arguments ↔
      (∀ entry ∈ entries, entry.name ∈ allowed) ∧ (entries.map (·.name)).Nodup ∧ arguments = ⟨directive, entries⟩ := by
  unfold checked
  rw [bind_eq_ok_iff]
  constructor
  · rintro ⟨_, named, success⟩
    obtain ⟨allowed, unique⟩ := checkNames_ok_iff.mp named
    cases success
    exact ⟨fun entry member => (allowed entry member).1, unique, rfl⟩
  · rintro ⟨allowed, unique, rfl⟩
    exact ⟨(), checkNames_ok_iff.mpr ⟨fun entry member => ⟨allowed entry member, List.not_mem_nil⟩, unique⟩, rfl⟩

theorem string_ok {text : String} (success : arguments.string name = .ok text) :
    text = textUnder arguments.entries name := by
  simp [textUnder, string_ok_iff.mp success, Value.text]

theorem word_ok {text : String} (success : arguments.word name = .ok text) :
    text = textUnder arguments.entries name := by
  rcases word_ok_iff.mp success with given | given <;> simp [textUnder, given, Value.text]

theorem list_ok {items : List Value} (success : arguments.list name = .ok items) :
    items = itemsUnder arguments.entries name := by
  simp [itemsUnder, list_ok_iff.mp success, Value.items]

theorem flag_ok {value : Bool} (success : arguments.flag name = .ok value) :
    value = trueUnder arguments.entries name := by
  rcases flag_ok_iff.mp success with ⟨absent, rfl⟩ | given
  · simp [trueUnder, absent]
  · simp [trueUnder, given, Value.isTrue]

theorem checked_ok {directive : KnownDirective} {allowed : List String} {entries : List Argument}
    (success : checked directive allowed entries = .ok arguments) : arguments.entries = entries := by
  rw [(checked_ok_iff.mp success).2.2]

theorem ofItem_ok {directive : KnownDirective} {allowed : List String} {item : Value}
    (success : ofItem directive name allowed item = .ok arguments) : arguments.entries = item.entries := by
  unfold ofItem at success
  split at success
  · exact checked_ok success
  · cases success

end Arguments

/-- The flags of an entity are set exactly where `true` is given. -/
theorem EntityOptions.read_ok {arguments : List Argument} {options : EntityOptions}
    (success : EntityOptions.read arguments = .ok options) :
    options = ⟨trueUnder arguments "immutable", trueUnder arguments "timeseries"⟩ := by
  obtain ⟨checked, named, success⟩ := bind_eq_ok_iff.mp success
  obtain ⟨immutable, first, success⟩ := bind_eq_ok_iff.mp success
  obtain ⟨timeseries, second, success⟩ := bind_eq_ok_iff.mp success
  cases success
  rw [Arguments.flag_ok first, Arguments.flag_ok second, Arguments.checked_ok named]

namespace TextSearch

theorem readField_ok (item : Value) (field : String) (success : readField item = .ok field) :
    field = textUnder item.entries "name" := by
  obtain ⟨entries, shaped, success⟩ := bind_eq_ok_iff.mp success
  rw [Arguments.string_ok success, Arguments.ofItem_ok shaped]

theorem readInclude_ok (item : Value) (included : SearchInclude)
    (success : readInclude item = .ok included) : included = .declared item := by
  obtain ⟨entries, shaped, success⟩ := bind_eq_ok_iff.mp success
  obtain ⟨items, listed, success⟩ := bind_eq_ok_iff.mp success
  obtain ⟨fields, each, success⟩ := bind_eq_ok_iff.mp success
  obtain ⟨entity, named, success⟩ := bind_eq_ok_iff.mp success
  cases success
  rw [Arguments.string_ok named, mapM_values readField_ok each, Arguments.list_ok listed,
    Arguments.ofItem_ok shaped]
  rfl

/-- A search is read with its name, its language, its algorithm and all of its entities. -/
theorem read_ok {directive : Directive} {search : TextSearch}
    (success : read directive.arguments = .ok search) : search = .declared directive := by
  obtain ⟨arguments, checked, success⟩ := bind_eq_ok_iff.mp success
  obtain ⟨items, listed, success⟩ := bind_eq_ok_iff.mp success
  obtain ⟨includes, each, success⟩ := bind_eq_ok_iff.mp success
  obtain ⟨name, first, success⟩ := bind_eq_ok_iff.mp success
  obtain ⟨language, second, success⟩ := bind_eq_ok_iff.mp success
  obtain ⟨algorithm, third, success⟩ := bind_eq_ok_iff.mp success
  cases success
  rw [Arguments.string_ok first, Arguments.word_ok second, Arguments.word_ok third,
    mapM_values readInclude_ok each, Arguments.list_ok listed, Arguments.checked_ok checked]
  rfl

end TextSearch

/-- A directive is told by its name alone. -/
theorem KnownDirective.ofName?_eq_some_iff {name : String} {known : KnownDirective} :
    ofName? name = some known ↔ name = known.name := by
  constructor
  · intro found
    have same := List.find?_some found
    exact (beq_iff_eq.mp same).symm
  · intro same
    subst same
    cases known <;> decide

theorem KnownDirective.ofName?_eq_none_iff {name : String} :
    ofName? name = none ↔ ∀ known : KnownDirective, name ≠ known.name := by
  constructor
  · intro absent known same
    rw [ofName?_eq_some_iff.mpr same] at absent
    cases absent
  · intro different
    cases found : ofName? name with
    | none => rfl
    | some known => exact absurd (ofName?_eq_some_iff.mp found) (different known)

theorem Directive.is_of_name {directive : Directive} {known : KnownDirective}
    (same : directive.name = known.name) (other : KnownDirective) :
    directive.is other = decide (known = other) := by
  rw [Directive.is, same]
  cases known <;> cases other <;> decide

theorem Directive.is_of_unknown {directive : Directive}
    (different : ∀ known : KnownDirective, directive.name ≠ known.name) (other : KnownDirective) :
    directive.is other = false :=
  beq_eq_false_iff_ne.mpr (different other)

/-- A flag that is read behind directives of which none is for entities. -/
theorem EntityOptions.declared_append {earlier : List Directive} {directive : Directive}
    (first : earlier.any (·.is .entity) = false) (entity : directive.is .entity = true) :
    declared (earlier ++ [directive]) =
      ⟨trueUnder directive.arguments "immutable", trueUnder directive.arguments "timeseries"⟩ := by
  have unset : ∀ flag, (earlier.any fun other => other.is .entity && trueUnder other.arguments flag) = false := by
    intro flag
    rw [List.any_eq_false] at first ⊢
    intro other member
    simp [first other member]
  simp [declared, unset, entity]

/-- One more directive changes what has been read in the way that it changes what is declared. -/
theorem TypeDirectives.add_ok (earlier : List Directive) (directive : Directive) (next : TypeDirectives)
    (success : (declared earlier).add directive = .ok next) : next = declared (earlier ++ [directive]) := by
  unfold add at success
  split at success
  · rename_i known
    have is := Directive.is_of_name (KnownDirective.ofName?_eq_some_iff.mp known)
    split at success
    · cases success
    · rename_i fresh
      obtain ⟨options, read, success⟩ := map_eq_ok_iff.mp success
      have first : earlier.any (·.is .entity) = false := by
        cases found : earlier.any (·.is .entity) with
        | false => rfl
        | true => simp [declared, found] at fresh
      rw [← success, EntityOptions.read_ok read]
      simp [declared, is, EntityOptions.declared_append first]
  · rename_i known
    have is := Directive.is_of_name (KnownDirective.ofName?_eq_some_iff.mp known)
    obtain ⟨search, read, success⟩ := map_eq_ok_iff.mp success
    rw [← success, TextSearch.read_ok read]
    simp [declared, is, EntityOptions.declared]
  · cases success
  · rename_i unknown
    have is := Directive.is_of_unknown (KnownDirective.ofName?_eq_none_iff.mp unknown)
    cases success
    simp [declared, is, EntityOptions.declared]

/-- What is read from the directives of a type is what they declare, by induction over them. -/
theorem typeDirectives_declared {directives : List Directive} {known : TypeDirectives}
    (success : typeDirectives directives = .ok known) : known = .declared directives :=
  foldlM_state TypeDirectives.declared TypeDirectives.add_ok [] success

theorem readDerivedFrom_ok {arguments : List Argument} {field : String}
    (success : readDerivedFrom arguments = .ok field) : field = textUnder arguments "field" := by
  obtain ⟨checked, named, success⟩ := bind_eq_ok_iff.mp success
  rw [Arguments.string_ok success, Arguments.checked_ok named]

/-- The field that the directives of a field say it is derived from. -/
def declaredDerivation (directives : List Directive) : Option String :=
  (directives.find? (·.is .derivedFrom)).map (textUnder ·.arguments "field")

/-- One more directive of a field adds its derivation, or nothing when it has another name. -/
theorem addFieldDirective_ok (earlier : List Directive) (directive : Directive) (next : Option String)
    (success : addFieldDirective (declaredDerivation earlier) directive = .ok next) :
    next = declaredDerivation (earlier ++ [directive]) := by
  unfold addFieldDirective at success
  split at success
  · rename_i known
    have is := Directive.is_of_name (KnownDirective.ofName?_eq_some_iff.mp known)
    split at success
    · cases success
    · rename_i fresh
      obtain ⟨field, read, success⟩ := map_eq_ok_iff.mp success
      have first : earlier.find? (·.is .derivedFrom) = none := by
        simpa [declaredDerivation] using fresh
      rw [← success, readDerivedFrom_ok read, declaredDerivation, List.find?_append, first]
      simp [is]
  · cases success
  · rename_i unknown
    have is := Directive.is_of_unknown (KnownDirective.ofName?_eq_none_iff.mp unknown)
    cases success
    simp [declaredDerivation, List.find?_append, is]

/-- What is read from the directives of a field is the derivation that it declares. -/
theorem fieldDirectives_declared {field : Field} {derivedFrom : Option String}
    (success : fieldDirectives field.directives = .ok derivedFrom) : derivedFrom = field.derivedFrom? :=
  foldlM_state declaredDerivation addFieldDirective_ok [] success

end EntityLayout
