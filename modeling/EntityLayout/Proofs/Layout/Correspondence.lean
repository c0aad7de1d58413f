import EntityLayout.Proofs.Layout.Outcome
import EntityLayout.Proofs.Schema.Correspondence

/-!
# Layouts of corresponding documents

Corresponding documents have the same layout or are refused for the same reason, up to the key of the names
in it (`ofDocument_corresponds`). Both the declared layout and the violations are compared part by part.
-/
namespace EntityLayout
open List (Forall₂)

variable {key : NameKey}

theorem sameErrors_refl (causes : List SchemaError) : Forall₂ key.SameError causes causes :=
  List.forall₂_same.mpr fun _ _ => rfl

/-- What is wrong with a stored type in itself is wrong with a corresponding one, behind corresponding types. -/
theorem ObjectType.Corresponds.violations {earlier earlier' : List ObjectType} {type other : ObjectType}
    (before : Forall₂ (ObjectType.Corresponds key) earlier earlier') (related : type.Corresponds key other) :
    Forall₂ key.SameError (type.violations earlier) (other.violations earlier') := by
  have repeated : repeatedTable earlier type = repeatedTable earlier' other := by
    have tables : (earlier.filter (·.isEntity)).map (·.table) = (earlier'.filter (·.isEntity)).map (·.table) :=
      map_eq_of_forall₂ (fun _ _ same => same.table) (filter_forall₂ (fun _ _ same => same.isEntity) before)
    simp only [repeatedTable, related.table, tables]
  have directives : type.directiveViolations = other.directiveViolations := by
    simp only [directiveViolations, related.directives, related.name]
  unfold ObjectType.violations
  rw [← related.isStored, ← related.isEntity]
  split
  · rw [directives, related.misplacedSearch]
    refine List.rel_append (sameErrors_refl _) ?_
    split
    · rename_i entity
      rw [repeated, related.name]
      refine List.rel_append ?_ (sameErrors_refl _)
      exact List.rel_flatMap (related.fields entity) fun _ _ same => same.directiveViolations _
    · exact .nil
  · exact .nil

namespace Document.Corresponds

variable {document other : Document} (related : document.Corresponds key other)
include related

/-- The declarations of corresponding documents are at fault in the same places, up to the key of the names. -/
theorem declarationViolations :
    Forall₂ key.SameError document.declarationViolations other.declarationViolations := by
  -- Object types that are not stored have no violations and are not looked at by later ones.
  have stored (document : Document) :
      withEarlier ObjectType.violations [] (document.objects.filter (·.isStored)) =
        withEarlier ObjectType.violations [] document.objects := by
    refine withEarlier_filter (fun earlier type unstored => ?_) (fun earlier type => ?_) [] document.objects
    · rw [ObjectType.violations, if_neg (by simp [unstored])]
    · simp only [ObjectType.violations, ObjectType.repeatedTable,
        filter_isStored ObjectType.isStored_of_isEntity]
  unfold Document.declarationViolations
  rw [← stored document, ← stored other]
  refine List.rel_append ?_ ?_
  · exact withEarlier_forall₂ (fun _ _ _ _ before same => same.violations before) .nil related.objects
  · refine withEarlier_forall₂ (fun earlier earlier' type partner before same => ?_) .nil related.enumNames
    have repeated : type.repeatedName earlier = partner.repeatedName earlier' := by
      have names : earlier.map (storeName ·.name) = earlier'.map (storeName ·.name) :=
        map_eq_of_forall₂ (fun _ _ same => congrArg storeName same) before
      simp only [EnumType.repeatedName, names, same]
    rw [repeated]
    exact sameErrors_refl _

/-- A field and its partner have the same column type, since the registries of the documents are the same. -/
theorem fieldType {field partner : Field} (same : field.Corresponds key partner) :
    document.fieldType field = other.fieldType partner := by
  simp only [Document.fieldType, same.identifier, same.type.resolve, related.registry]

theorem fieldColumn {field partner : Field} (same : field.Corresponds key partner) :
    document.fieldColumn field = other.fieldColumn partner := by
  simp only [Document.fieldColumn, key.storeName_eq same.name, related.fieldType same, same.type.isRequired]

/-- The columns of an entity, with their names and their order, are those of its partner. -/
theorem entityColumns {type partner : ObjectType} (same : type.Corresponds key partner)
    (entity : type.isEntity = true) : document.entityColumns type = other.entityColumns partner := by
  have fields : type.storedFields.map document.fieldColumn = partner.storedFields.map other.fieldColumn :=
    map_eq_of_forall₂ (fun _ _ same => related.fieldColumn same) (same.storedFields entity)
  rw [Document.entityColumns, fields, Document.entityColumns]

/-- Corresponding documents declare the very same layout, with no key between them. -/
theorem declaredLayout : document.declaredLayout = other.declaredLayout := by
  have tables : document.entityTypes.map document.declaredTable = other.entityTypes.map other.declaredTable := by
    refine map_eq_of_forall₂ (fun type partner same => ?_) related.entityTypes
    obtain ⟨entity, same⟩ := same
    simp only [Document.declaredTable, same.table, same.options, same.relations entity,
      related.entityColumns same entity, searchColumns_corresponds related.searchIncludes]
  have enums : document.enums.map (fun type => (storeName type.name, type.values)) =
      other.enums.map (fun type => (storeName type.name, type.values)) := by
    have stored := congrArg (List.map fun entry => (storeName entry.1, entry.2)) related.enums
    rwa [List.map_map, List.map_map] at stored
  simp only [Document.declaredLayout, Document.catalog, tables, enums]

/-- What stands in the way of a table does so on both sides, up to the key of the names that it reports. -/
theorem tableViolations {type partner : ObjectType} (same : type.Corresponds key partner)
    (entity : type.isEntity = true) :
    Forall₂ key.SameError (document.tableViolations type) (other.tableViolations partner) := by
  have given : type.fields.any (·.name == idField) = partner.fields.any (·.name == idField) := by
    refine any_forall₂ (fun field partner alike => ?_) (same.fields entity)
    rw [Bool.eq_iff_iff, beq_iff_eq, beq_iff_eq]
    exact alike.identifier
  unfold Document.tableViolations
  refine List.rel_append ?_ ?_
  · rw [ObjectType.missingId, ObjectType.missingId, given, same.name]
    exact sameErrors_refl _
  · refine withEarlier_forall₂ (fun earlier earlier' field partner before alike => ?_) .nil
      (same.storedFields entity)
    have names : earlier.map (storeName ·.name) = earlier'.map (storeName ·.name) :=
      map_eq_of_forall₂ (fun _ _ alike => key.storeName_eq alike.name) before
    refine List.rel_append ?_ ?_
    · rw [related.fieldType alike, List.forall₂_map_left_iff, List.forall₂_map_right_iff, List.forall₂_same]
      intro cause _
      cases cause <;> simp only [NameKey.SameError, NameKey.ofError, NameKey.ofLocation,
        ObjectType.unresolvedType, same.name, alike.name]
    · simp only [ObjectType.repeatedColumn, key.storeName_eq alike.name, names, same.table]
      exact sameErrors_refl _

/-- One violation at most is found in a derived field, and both find the same. -/
theorem relationViolations {type partner : ObjectType} (same : type.Corresponds key partner)
    {field derived : Field} (alike : field.Corresponds key derived) :
    Forall₂ key.SameError (document.relationViolations type field)
      (other.relationViolations partner derived) := by
  have single {cause cause' : SchemaError} (equal : key.ofError cause = key.ofError cause') :
      Forall₂ key.SameError [cause] [cause'] := .cons equal .nil
  unfold Document.relationViolations
  simp only [alike.type.baseName, same.name, same.table, related.isInterface,
    key.storeName_eq alike.backField]
  rcases related.entity? derived.type.baseName with
    ⟨left, right⟩ | ⟨listed, listed', left, right, entity, given⟩
  · rw [left, right]
    simp only
    split
    · exact single (by simp [NameKey.ofError, NameKey.ofLocation, NameKey.ofUnresolved, alike.name])
    · exact single (by simp [NameKey.ofError, NameKey.ofLocation, NameKey.ofUnresolved, alike.name])
  · rw [left, right]
    simp only [related.entityColumns given entity]
    split
    · exact single (by
        simp [NameKey.ofError, NameKey.ofLocation, NameKey.ofUnresolved, alike.name, alike.backField])
    · split
      · exact .nil
      · exact single (by
          simp [NameKey.ofError, NameKey.ofLocation, NameKey.ofUnresolved, alike.name, alike.backField])

theorem includeViolations {search search' : TextSearch} {included included' : SearchInclude}
    (same : IncludesCorrespond key (search, included) (search', included')) :
    Forall₂ key.SameError (document.includeViolations search included)
      (other.includeViolations search' included') := by
  obtain ⟨named, listed⟩ := same
  unfold Document.includeViolations
  simp only [listed.table]
  rcases related.storedIn? included'.table with ⟨left, right⟩ | ⟨type, partner, left, right, entity, given⟩
  · rw [left, right]
    refine .cons ?_ .nil
    simp [NameKey.SameError, NameKey.ofError, NameKey.ofLocation, NameKey.ofUnresolved, named.name,
      listed.entity]
  · rw [left, right]
    refine List.rel_flatMap (forall₂_of_map_eq listed.fields) fun field field' alike => ?_
    simp only [related.entityColumns given entity, key.storeName_eq alike]
    split
    · exact .nil
    · refine .cons ?_ .nil
      simp [NameKey.SameError, NameKey.ofError, NameKey.ofLocation, NameKey.ofUnresolved, named.name,
        listed.entity, alike]

theorem repeatedSearch {earlier earlier' : List (TextSearch × SearchInclude)}
    (before : Forall₂ (IncludesCorrespond key) earlier earlier') {item partner : TextSearch × SearchInclude}
    (same : IncludesCorrespond key item partner) :
    document.repeatedSearch earlier item = other.repeatedSearch earlier' partner := by
  obtain ⟨search, included⟩ := item
  obtain ⟨search', included'⟩ := partner
  obtain ⟨named, listed⟩ := same
  unfold Document.repeatedSearch
  simp only [listed.table]
  rcases related.storedIn? included'.table with ⟨left, right⟩ | ⟨type, partner, left, right, entity, given⟩
  · rw [left, right]
  · rw [left, right]
    simp only [related.entityColumns given entity, searchColumns_corresponds before,
      key.storeName_eq named.name]

/-- Part by part, the violations of corresponding documents are the same up to the key, in the same order. -/
theorem violations : Forall₂ key.SameError document.violations other.violations := by
  unfold Document.violations Document.linkViolations
  refine List.rel_append related.declarationViolations (List.rel_append ?_ (List.rel_append
    (List.rel_append ?_ ?_) ?_))
  · exact List.rel_flatMap related.entityTypes fun _ _ same => related.tableViolations same.2 same.1
  · refine List.rel_flatMap related.entityTypes fun _ _ same => ?_
    exact List.rel_flatMap (same.2.derivedFields same.1) fun _ _ alike => related.relationViolations same.2 alike
  · exact List.rel_flatMap related.searchIncludes fun _ _ same => related.includeViolations same
  · refine withEarlier_forall₂ (fun _ _ _ _ before same => ?_) .nil related.searchIncludes
    rw [related.repeatedSearch before same]
    exact sameErrors_refl _

end Document.Corresponds

/-- Corresponding documents have the same outcome, up to the keys of names in an error. -/
theorem ofDocument_corresponds {document other : Document} (related : document.Corresponds key other) :
    (Layout.ofDocument document).mapError key.ofError = (Layout.ofDocument other).mapError key.ofError := by
  have violated := related.violations
  rw [ofDocument_eq, ofDocument_eq, related.declaredLayout]
  generalize document.violations = violations at violated
  generalize other.violations = others at violated
  cases violated with
  | nil => rfl
  | cons first _ => exact congrArg Except.error first

end EntityLayout
