import EntityLayout.Proofs.Sdl.Members

/-!
# The readers accept exactly the grammar

Each kind of definition is recognised by its reader, and the keyword in front decides between them.
`document_accepts_grammar` is the result for whole documents.
-/
namespace EntityLayout.Grammar
open Reader

/-- What could continue a definition whose last parts are missing. -/
def definitionMarks : List Token :=
  [.name "implements", .ampersand, .atSign, .openParen, .openBrace]

theorem not_mem_of_marks {token : Token} {marks : List Token} (included : marks ⊆ definitionMarks)
    (clear : token ∉ definitionMarks) : token ∉ marks :=
  fun member => clear (included member)

/-- An object type is a name, its interfaces, its directives and a block, each of which ends where the next one
starts. -/
theorem objectType_recognizes : Recognizes objectType DerivesObject definitionMarks := by
  refine ⟨?_, ?_⟩
  · intro tokens rest found success
    simp only [objectType, bind_ok_iff, name_ok_iff, pure_ok_iff] at success
    obtain ⟨name, _, rfl, interfaces, _, implemented, marks, _, marked, fields, _, listed, rfl, rfl⟩ :=
      success
    obtain ⟨_, first, implementing⟩ := implements_recognizes.sound implemented
    obtain ⟨_, second, many⟩ := directives_recognizes.sound marked
    obtain ⟨_, third, listing⟩ := fields_recognizes.sound listed
    exact ⟨_, (first.append (second.append third)).cons (by simp), .mk name implementing many listing⟩
  · intro front rest found derived clear
    cases derived with
    | @mk name interfaceTokens directiveTokens blockTokens interfaces marks fields implementing many
        listing =>
      -- Each part ends where the next one starts, so that the parts are found from the last one on.
      have listed : block field (blockTokens ++ rest) = .ok fields rest :=
        fields_recognizes.complete listing (not_mem_of_marks (by simp [definitionMarks]) clear)
      have marked : directives (directiveTokens ++ (blockTokens ++ rest)) =
          .ok marks (blockTokens ++ rest) :=
        directives_recognizes.complete many
          (listing.clear (by simp) (not_mem_of_marks (by simp [definitionMarks]) clear))
      have behind :
          (directiveTokens ++ (blockTokens ++ rest)).headD .eof ∉ [.name "implements", .ampersand] :=
        many.clear (Behind.starts (by simp))
          (listing.clear (by simp) (not_mem_of_marks (by simp [definitionMarks]) clear))
      have implemented := implements_recognizes.complete implementing behind
      rw [← List.append_assoc directiveTokens, ← List.append_assoc] at implemented
      refine bind_ok_iff.mpr ⟨name, _, name_ok_iff.mpr rfl, ?_⟩
      refine bind_ok_iff.mpr ⟨interfaces, _, implemented, ?_⟩
      rw [List.append_assoc]
      refine bind_ok_iff.mpr ⟨marks, _, marked, ?_⟩
      exact bind_ok_iff.mpr ⟨fields, rest, listed, rfl⟩

/-- An interface is read as an object type is, and without its interfaces. -/
theorem interfaceType_ok_iff {tokens rest : List Token} {interface : InterfaceType} :
    interfaceType tokens = .ok interface rest ↔
      ∃ interfaces,
        objectType tokens = .ok ⟨interface.name, interfaces, interface.directives, interface.fields⟩ rest := by
  simp only [interfaceType, objectType, bind_ok_iff, pure_ok_iff]
  constructor
  · intro given
    rcases given with ⟨name, _, named, interfaces, _, implemented, marks, _, marked, fields, _, listed,
      rfl, rfl⟩
    exact ⟨interfaces, name, _, named, interfaces, _, implemented, marks, _, marked, fields, _, listed,
      rfl, rfl⟩
  · intro given
    rcases given with ⟨_, name, _, named, interfaces, _, implemented, marks, _, marked, fields, _, listed,
      same, rfl⟩
    obtain ⟨rfl, rfl, rfl, rfl⟩ := ObjectType.mk.inj same
    exact ⟨_, _, named, interfaces, _, implemented, _, _, marked, _, _, listed, rfl, rfl⟩

theorem interfaceType_recognizes : Recognizes interfaceType DerivesInterface definitionMarks := by
  refine ⟨?_, ?_⟩
  · intro tokens rest found success
    obtain ⟨interfaces, read⟩ := interfaceType_ok_iff.mp success
    obtain ⟨front, takes, derived⟩ := objectType_recognizes.sound read
    exact ⟨front, takes, .mk derived⟩
  · intro front rest found derived clear
    obtain ⟨derived⟩ := derived
    exact interfaceType_ok_iff.mpr ⟨_, objectType_recognizes.complete derived clear⟩

theorem enumType_recognizes : Recognizes enumType DerivesEnum definitionMarks := by
  refine ⟨?_, ?_⟩
  · intro tokens rest found success
    simp only [enumType, bind_ok_iff, name_ok_iff, pure_ok_iff] at success
    obtain ⟨name, _, rfl, marks, _, marked, members, _, listed, rfl, rfl⟩ := success
    obtain ⟨_, first, many⟩ := directives_recognizes.sound marked
    obtain ⟨_, second, listing⟩ := members_recognizes.sound listed
    exact ⟨_, (first.append second).cons (by simp), .mk name many listing⟩
  · intro front rest found derived clear
    cases derived with
    | @mk name directiveTokens blockTokens marks members many listing =>
      have listed : block enumValue (blockTokens ++ rest) = .ok members rest :=
        members_recognizes.complete listing (not_mem_of_marks (by simp [definitionMarks]) clear)
      have marked :
          directives (directiveTokens ++ blockTokens ++ rest) = .ok marks (blockTokens ++ rest) := by
        rw [List.append_assoc]
        exact directives_recognizes.complete many
          (listing.clear (by simp) (not_mem_of_marks (by simp [definitionMarks]) clear))
      refine bind_ok_iff.mpr ⟨name, _, name_ok_iff.mpr rfl, ?_⟩
      refine bind_ok_iff.mpr ⟨marks, _, marked, ?_⟩
      exact bind_ok_iff.mpr ⟨members, rest, listed, rfl⟩

theorem scalarType_recognizes : Recognizes scalarType DerivesScalar definitionMarks := by
  refine ⟨?_, ?_⟩
  · intro tokens rest found success
    simp only [scalarType, bind_ok_iff, name_ok_iff, pure_ok_iff] at success
    obtain ⟨name, _, rfl, marks, _, marked, rfl, rfl⟩ := success
    obtain ⟨_, takes, many⟩ := directives_recognizes.sound marked
    exact ⟨_, takes.cons (by simp), .mk name many⟩
  · intro front rest found derived clear
    obtain ⟨name, many⟩ := derived
    refine bind_ok_iff.mpr ⟨name, _, name_ok_iff.mpr rfl, ?_⟩
    exact bind_ok_iff.mpr ⟨_, rest,
      directives_recognizes.complete many (not_mem_of_marks (by simp [definitionMarks]) clear), rfl⟩

/-- Whatever the keyword leads to is a definition that starts with it. -/
theorem definitionOf_sound {keyword : String} {tokens rest : List Token} {found : Definition}
    (success : definitionOf keyword tokens = .ok found rest) :
    ∃ front, Takes front tokens rest ∧ DerivesDefinition (.name keyword :: front) found := by
  unfold definitionOf at success
  split at success
  · rename_i same
    subst same
    obtain ⟨type, read, rfl⟩ := map_ok_iff.mp success
    obtain ⟨front, takes, derived⟩ := objectType_recognizes.sound read
    exact ⟨front, takes, .object derived⟩
  · split at success
    · rename_i same
      subst same
      obtain ⟨type, read, rfl⟩ := map_ok_iff.mp success
      obtain ⟨front, takes, derived⟩ := interfaceType_recognizes.sound read
      exact ⟨front, takes, .interface derived⟩
    · split at success
      · rename_i same
        subst same
        obtain ⟨type, read, rfl⟩ := map_ok_iff.mp success
        obtain ⟨front, takes, derived⟩ := enumType_recognizes.sound read
        exact ⟨front, takes, .enum derived⟩
      · split at success
        · rename_i same
          subst same
          obtain ⟨type, read, rfl⟩ := map_ok_iff.mp success
          obtain ⟨front, takes, derived⟩ := scalarType_recognizes.sound read
          exact ⟨front, takes, .scalar derived⟩
        · split at success
          · exact (throw_ok_iff.mp success).elim
          · exact (throw_ok_iff.mp success).elim

/-- Conversely, a definition is read behind its keyword, unless more of it could follow. -/
theorem definitionOf_complete {keyword : String} {front rest : List Token} {found : Definition}
    (derived : DerivesDefinition (.name keyword :: front) found)
    (clear : rest.headD .eof ∉ definitionMarks) :
    definitionOf keyword (front ++ rest) = .ok found rest := by
  cases derived with
  | object derived => exact map_ok_iff.mpr ⟨_, objectType_recognizes.complete derived clear, rfl⟩
  | interface derived => exact map_ok_iff.mpr ⟨_, interfaceType_recognizes.complete derived clear, rfl⟩
  | enum derived => exact map_ok_iff.mpr ⟨_, enumType_recognizes.complete derived clear, rfl⟩
  | scalar derived => exact map_ok_iff.mpr ⟨_, scalarType_recognizes.complete derived clear, rfl⟩

/-- Finds the next definition, unless the end comes first. -/
def stepDefinition : Reader (Option Definition) := do
  match ← peek with
  | .eof => return none
  | .name keyword =>
    let _ ← advance
    return some (← definitionOf keyword)
  | found => throw (.unexpected found .definition)

theorem definition_eq : definition = describedStep stepDefinition :=
  rfl

/-- Only the end of the tokens ends a document, and it is left where it is. -/
theorem stepDefinition_none_iff {tokens rest : List Token} :
    stepDefinition tokens = .ok none rest ↔ tokens = rest ∧ rest.headD .eof = .eof := by
  rw [stepDefinition, bind_ok_iff]
  constructor
  · intro given
    rcases given with ⟨head, middle, seen, success⟩
    obtain ⟨starts, rfl⟩ := peek_ok_iff.mp seen
    split at success
    · obtain ⟨_, rfl⟩ := pure_ok_iff.mp success
      exact ⟨rfl, starts⟩
    · simp only [bind_ok_iff, pure_ok_iff] at success
      obtain ⟨_, _, _, _, _, _, contradictory, _⟩ := success
      cases contradictory
    · exact (throw_ok_iff.mp success).elim
  · intro given
    rcases given with ⟨rfl, ended⟩
    exact ⟨.eof, tokens, peek_ok_iff.mpr ⟨ended, rfl⟩, rfl⟩

theorem stepDefinition_sound {tokens rest : List Token} {found : Definition}
    (success : stepDefinition tokens = .ok (some found) rest) :
    ∃ front, Takes front tokens rest ∧ DerivesDefinition front found := by
  rw [stepDefinition, bind_ok_iff] at success
  obtain ⟨head, middle, seen, success⟩ := success
  obtain ⟨starts, rfl⟩ := peek_ok_iff.mp seen
  split at success
  · cases (pure_ok_iff.mp success).1
  · rename_i keyword
    obtain ⟨behind, rfl⟩ := (headD_eq_iff (by simp)).mp starts
    simp only [bind_ok_iff, advance_ok_iff, pure_ok_iff] at success
    obtain ⟨_, _, ⟨_, rfl⟩, _, _, read, same, rfl⟩ := success
    cases same
    obtain ⟨front, takes, derived⟩ := definitionOf_sound read
    exact ⟨.name keyword :: front, takes.cons (by simp), derived⟩
  · exact (throw_ok_iff.mp success).elim

theorem DerivesDefinition.startsWithName : StartsWithName DerivesDefinition definitionMarks := by
  intro front found derived
  cases derived with
  | _ => exact ⟨_, _, rfl, by simp [definitionMarks]⟩

/-- A definition starts with a name, so that a text in front of it is always a description. -/
theorem DerivesDefinition.named : StartsWithName DerivesDefinition [] :=
  DerivesDefinition.startsWithName.narrow (List.nil_subset definitionMarks)

theorem definition_progress : Progress definition :=
  describedStep_progress DerivesDefinition.named stepDefinition_sound

theorem stepDefinition_complete {front rest : List Token} {found : Definition}
    (derived : DerivesDefinition front found) (clear : rest.headD .eof ∉ definitionMarks) :
    stepDefinition (front ++ rest) = .ok (some found) rest := by
  obtain ⟨keyword, tail, rfl, _⟩ := DerivesDefinition.startsWithName derived
  refine bind_ok_iff.mpr ⟨.name keyword, _, peek_ok_iff.mpr ⟨rfl, rfl⟩, ?_⟩
  refine bind_ok_iff.mpr ⟨.name keyword, _, advance_ok_iff.mpr ⟨rfl, rfl⟩, ?_⟩
  exact bind_ok_iff.mpr ⟨found, rest, definitionOf_complete derived clear, rfl⟩

/-- What is read in front of the first end is all that stands there. -/
theorem eq_of_takes {tokens front rest : List Token} (proper : .eof ∉ tokens)
    (takes : Takes front (tokens ++ [.eof]) rest) (ended : rest.headD .eof = .eof) : front = tokens := by
  rcases List.append_eq_append_iff.mp takes.split with ⟨more, rfl, short⟩ | ⟨more, rfl, rfl⟩
  · cases more with
    | nil => exact List.append_nil tokens
    | cons token more =>
      have same : .eof = token := (List.cons.inj short).1
      have member : token ∈ tokens ++ token :: more := by simp
      exact absurd (same ▸ member) takes.proper
  · cases more with
    | nil => exact (List.append_nil front).symm
    | cons token more =>
      have same : token = .eof := ended
      have member : token ∈ front ++ token :: more := by simp
      exact absurd (same ▸ member) proper

/-- Reading the tokens of a document and the end behind them succeeds with exactly the document that the
grammar derives from them, and fails where it derives none. -/
theorem document_accepts_grammar (tokens : List Token) (proper : .eof ∉ tokens) (document : Document) :
    (∃ rest, Reader.document.run (tokens ++ [.eof]) = .ok document rest) ↔ Derives tokens document := by
  constructor
  · intro given
    rcases given with ⟨rest, success⟩
    change Reader.document (tokens ++ [.eof]) = _ at success
    simp only [Reader.document, bind_ok_iff, pure_ok_iff] at success
    obtain ⟨definitions, _, read, rfl, rfl⟩ := success
    rw [definition_eq] at read
    have unnamed : StartsWithName DerivesDefinition [] :=
      DerivesDefinition.startsWithName.narrow (List.nil_subset definitionMarks)
    obtain ⟨front, last, takes, listing, stopped⟩ := listing_sound unnamed stepDefinition_sound read
    obtain ⟨rfl, ended⟩ := stepDefinition_none_iff.mp stopped
    obtain rfl := eq_of_takes proper takes ended
    exact listing
  · intro derived
    have read : collect definition (tokens ++ [.eof]) = .ok document.definitions [.eof] :=
      listing_complete (by simp [definitionMarks]) DerivesDefinition.startsWithName stepDefinition_sound
        stepDefinition_complete (by simp [definitionMarks]) (by simp)
        (stepDefinition_none_iff.mpr ⟨rfl, rfl⟩) derived
    exact ⟨[.eof], bind_ok_iff.mpr ⟨document.definitions, [.eof], read, rfl⟩⟩

/-- A described type, an interface whose interfaces are dropped, and an enum whose member is called as a
keyword is and has a directive that is dropped. -/
def accountTokens : List Token :=
  [.str "Who owns tokens.", .name "type", .name "Account", .name "implements", .ampersand, .name "Node",
    .atSign, .name "entity", .openParen, .name "immutable", .colon, .name "true", .closeParen,
    .openBrace, .name "implements", .colon, .openBracket, .name "Int", .bang, .closeBracket, .closeBrace,
    .name "interface", .name "Node", .name "implements", .name "Entity",
    .name "enum", .name "Kind", .openBrace, .name "type", .atSign, .name "deprecated", .str "last",
    .closeBrace]

def accountDocument : Document :=
  ⟨[.object ⟨"Account", ["Node"], [⟨"entity", [⟨"immutable", .bool true⟩]⟩],
      [⟨"implements", .list (.nonNull (.named "Int")), []⟩]⟩,
    .interface ⟨"Node", [], []⟩,
    .enum ⟨"Kind", [], ["type"]⟩]⟩

/-- Keywords as names, an interface that has no block, and descriptions, the last of them without an item. -/
theorem account_derived : .eof ∉ accountTokens ∧ Derives accountTokens accountDocument :=
  ⟨by decide, (document_accepts_grammar accountTokens (by decide) accountDocument).mp ⟨[.eof], rfl⟩⟩

end EntityLayout.Grammar
