import EntityLayout.Proofs.Sdl.Exceeding
import EntityLayout.Proofs.Sdl.Writing

/-!
# The token that a document fails at

Each reader of a part of a document fails at the first token that no such part has in its place, or at the end
where some tokens are missing. So does the reader of documents (`document_blames`): what stands in front of the
token begins a document, nothing that starts with these tokens and the token is one, and the failure is by depth
just where `Exceeds` finds the token.
-/
namespace EntityLayout.Grammar
open Reader

section
variable {α : Type} {Item : List Token → α → Prop} {Beyond : List Token → Token → Prop} {reader : Reader α}

theorem name_diagnoses : Diagnoses name DerivesName Beyond := by
  refine .of_advance ⟨[.name ""], "", .mk ""⟩ (fun _ => rfl) fun token proper => ?_
  cases token with
  | name word => exact .goesOn (fun _ => rfl) (.pure (.mk word))
  | eof => exact absurd rfl proper
  | _ => exact .unexpected proper (by simp) fun _ => rfl

/-- A reader that starts with a name. -/
theorem Diagnoses.name {next : String → Reader α}
    (goesOn : ∀ word, Diagnoses (next word) (After [.name word] Item) (After [.name word] Beyond)) :
    Diagnoses (name >>= next) Item Beyond := by
  refine .bind name_diagnoses fun {_ word} named => ?_
  obtain ⟨⟩ := named
  exact goesOn word

/-- The wanted token alone. -/
inductive Exactly (wanted : Token) : List Token → Unit → Prop
  | mk : Exactly wanted [wanted] ()

/-- No tokens. -/
inductive Nothing : List Token → Unit → Prop
  | mk : Nothing [] ()

/-- Any token but the wanted one is at fault where it is wanted. -/
theorem expect_diagnoses {wanted : Token} (proper : wanted ≠ .eof) :
    Diagnoses (expect wanted) (Exactly wanted) Beyond := by
  refine .of_advance ⟨[wanted], (), .mk⟩ (fun _ => ?_) fun token other => ?_
  · rw [if_neg proper.symm, if_pos rfl]
    rfl
  · by_cases same : token = wanted
    · subst same
      exact .goesOn (fun _ => expect_present) (.pure .mk)
    · refine .fails (.expected wanted token) (fun tokens => ?_) (by simp) (by simp)
      refine (bind_of_ok (advance_ok_iff.mpr ⟨rfl, rfl⟩)).trans ?_
      rw [List.headD_cons, if_neg same, if_neg other]
      rfl

/-- A reader that starts with a token of its own. -/
theorem Diagnoses.expect {wanted : Token} (proper : wanted ≠ .eof) {next : Unit → Reader α}
    (goesOn : Diagnoses (next ()) (After [wanted] Item) (After [wanted] Beyond)) :
    Diagnoses (expect wanted >>= next) Item Beyond := by
  refine .bind (expect_diagnoses proper) fun {_ _} found => ?_
  obtain ⟨⟩ := found
  exact goesOn

theorem stepUntil_diagnoses {close : Token} (proper : close ≠ .eof)
    (items : Diagnoses reader Item Beyond) :
    Diagnoses (stepUntil close reader) (Step Item (Exactly close)) Beyond :=
  .eat proper (.pure (.stop .mk)) (items.map .item id)

/-- Until the closing token comes, the first token that fits no item is at fault. -/
theorem itemsUntil_diagnoses {close : Token} (proper : close ≠ .eof)
    (nonempty : Starts Item []) (items : Diagnoses reader Item Beyond) :
    Diagnoses (itemsUntil close reader) (Until close Item) (InMany Item Beyond) := by
  refine ((stepUntil_diagnoses proper items).collect nonempty ⟨[close], .mk⟩).mono ?_ id
  rintro _ _ ⟨many, ⟨⟩⟩
  exact .mk many

/-- Without a further mark the repetition has ended, so only items behind a mark can be at fault. -/
theorem itemsAfter_diagnoses {mark : Token} (proper : mark ≠ .eof)
    (items : Diagnoses reader Item Beyond) :
    Diagnoses (itemsAfter mark reader) (Many (Behind mark Item))
      (InMany (Behind mark Item) (Behind mark Beyond)) := by
  have steps : Diagnoses (stepAfter mark reader) (Step (Behind mark Item) Nothing) (Behind mark Beyond) :=
    .eat proper (items.map (fun derived => .item (.mk derived)) .mk) (.pure (.stop .mk))
  refine (steps.collect (Behind.starts List.not_mem_nil) ⟨[], .mk⟩).mono ?_ id
  rintro _ _ ⟨many, ⟨⟩⟩
  exact (List.append_nil _).symm ▸ many

theorem marked_diagnoses {front : List Token} {type : TypeRef} {limit : Nat} (optional : OptionalType front type)
    (shallow : type.nesting < limit) : Diagnoses (marked type) (After front (TypeWithin limit)) Beyond := by
  refine .eat (by simp) (.pure ?_) (.pure ?_)
  · exact ⟨.required optional, shallow⟩
  · exact ⟨(List.append_nil front).symm ▸ .optional optional, shallow⟩

/-- A type starts with a name or a bracket, and what a bracket does depends on the room. -/
theorem typeOf_diagnoses {element : Reader TypeRef} {limit : Nat}
    (lists : Verdict (typeOf element) (TypeWithin (limit + 1)) Beyond .openBracket) :
    Diagnoses (typeOf element) (TypeWithin (limit + 1)) Beyond := by
  refine .of_advance ⟨[.name ""], .named "", .optional (.named ""), Nat.zero_lt_succ limit⟩ (fun _ => rfl)
    fun token proper => ?_
  cases token with
  | name word => exact .goesOn (fun _ => rfl) (marked_diagnoses (.named word) (Nat.zero_lt_succ limit))
  | openBracket => exact lists
  | eof => exact absurd rfl proper
  | _ => exact .unexpected proper (by simp) fun _ => rfl

/-- With no room left a bracket is itself at fault; otherwise the elements are diagnosed with one level less. -/
theorem type_diagnoses (depth : Nat) : Diagnoses (type depth) (TypeWithin (depth + 1)) (ExceedsType depth) := by
  induction depth with
  | zero => exact typeOf_diagnoses (.fails .tooDeep (fun _ => rfl) (by simp) fun _ => .here)
  | succ depth ih =>
    have inner : Diagnoses (do
        let element ← type depth
        expect .closeBracket
        marked (.list element))
        (After [.openBracket] (TypeWithin (depth + 2))) (After [.openBracket] (ExceedsType (depth + 1))) := by
      refine .bind (ih.mono id .inList) fun within => .expect (by simp) ?_
      simp only [← after_append]
      exact marked_diagnoses (.list within.1) (Nat.succ_lt_succ within.2)
    exact typeOf_diagnoses (.goesOn (fun _ => rfl) inner)

theorem argumentOf_diagnoses {value : Reader Value} {limit depth : Nat}
    (values : Diagnoses value (ValueWithin limit) (ExceedsValue depth)) :
    Diagnoses (argumentOf value) (ArgumentWithin limit) (ExceedsArgument depth) := by
  refine .name fun name => .expect (by simp) ?_
  exact values.map (fun within => ⟨.mk name within.1, within.2⟩) (.mk name)

/-- Items of a list, none of them nested deeper than `depth`. -/
theorem items_diagnoses {depth : Nat}
    (values : Diagnoses (value depth) (ValueWithin (depth + 1)) (ExceedsValue depth)) :
    Diagnoses (itemsUntil .closeBracket (value depth)) (ItemsWithin (depth + 1))
      (InMany (ValueWithin (depth + 1)) (ExceedsValue depth)) := by
  have nonempty : Starts (ValueWithin (depth + 1)) [] := fun within =>
    DerivesValue.starts.narrow (List.nil_subset _) within.1
  refine (itemsUntil_diagnoses (by simp) nonempty values).mono (fun {tokens items} within => ?_) id
  obtain ⟨items, shallow⟩ := until_and_iff.mp within
  refine ⟨items, Nat.lt_succ_iff.mpr (itemsNesting_le_iff.mpr fun item member => ?_)⟩
  exact Nat.le_of_lt_succ (shallow item member)

/-- Entries of an object or arguments of a directive, none of them nested deeper than `depth`. -/
theorem entries_diagnoses {close : Token} (proper : close ≠ .eof) {depth : Nat}
    (values : Diagnoses (value depth) (ValueWithin (depth + 1)) (ExceedsValue depth)) :
    Diagnoses (itemsUntil close (argumentOf (value depth)))
      (fun tokens entries => Until close DerivesArgument tokens entries ∧ entriesNesting entries < depth + 1)
      (InMany (ArgumentWithin (depth + 1)) (ExceedsArgument depth)) := by
  have nonempty : Starts (ArgumentWithin (depth + 1)) [] := fun within =>
    DerivesArgument.starts (by simp) within.1
  refine (itemsUntil_diagnoses proper nonempty (argumentOf_diagnoses values)).mono
    (fun {tokens entries} within => ?_) id
  obtain ⟨entries, shallow⟩ := until_and_iff.mp within
  refine ⟨entries, Nat.lt_succ_iff.mpr (entriesNesting_le_iff.mpr fun entry member => ?_)⟩
  exact Nat.le_of_lt_succ (shallow entry member)

theorem valueOf_diagnoses {items : Reader (List Value)} {entries : Reader (List Argument)} {limit : Nat}
    (lists : Verdict (valueOf items entries) (ValueWithin (limit + 1)) Beyond .openBracket)
    (objects : Verdict (valueOf items entries) (ValueWithin (limit + 1)) Beyond .openBrace) :
    Diagnoses (valueOf items entries) (ValueWithin (limit + 1)) Beyond := by
  refine .of_advance ⟨[.str ""], .str "", .str "", Nat.zero_lt_succ limit⟩ (fun _ => rfl) fun token proper => ?_
  cases token with
  | int number => exact .goesOn (fun _ => rfl) (.pure ⟨.int number, Nat.zero_lt_succ limit⟩)
  | float number => exact .goesOn (fun _ => rfl) (.pure ⟨.float number, Nat.zero_lt_succ limit⟩)
  | str text => exact .goesOn (fun _ => rfl) (.pure ⟨.str text, Nat.zero_lt_succ limit⟩)
  | name text =>
    have flat : (word text).nesting < limit + 1 := word_nesting text ▸ Nat.zero_lt_succ limit
    exact .goesOn (fun _ => rfl) (.pure ⟨word_derives text, flat⟩)
  | openBracket => exact lists
  | openBrace => exact objects
  | eof => exact absurd rfl proper
  | _ => exact .unexpected proper (by simp) fun _ => rfl

/-- With no room left a bracket or a brace is itself at fault; otherwise the parts are diagnosed with one level less. -/
theorem value_diagnoses (depth : Nat) :
    Diagnoses (value depth) (ValueWithin (depth + 1)) (ExceedsValue depth) := by
  induction depth with
  | zero =>
    exact valueOf_diagnoses (.fails .tooDeep (fun _ => rfl) (by simp) fun _ => .list)
      (.fails .tooDeep (fun _ => rfl) (by simp) fun _ => .object)
  | succ depth ih =>
    refine valueOf_diagnoses (.goesOn (fun _ => rfl) ((items_diagnoses ih).map ?_ ?_))
      (.goesOn (fun _ => rfl) ((entries_diagnoses (by simp) ih).map ?_ ?_))
    · rintro _ _ ⟨⟨many⟩, shallow⟩
      exact ⟨.list many, Nat.succ_lt_succ shallow⟩
    · rintro _ _ ⟨many, beyond⟩
      exact (ExceedsValue.inList many beyond :)
    · rintro _ _ ⟨⟨many⟩, shallow⟩
      exact ⟨.object many, Nat.succ_lt_succ shallow⟩
    · rintro _ _ ⟨many, ⟨name, beyond⟩⟩
      exact .inObject name many beyond

theorem directive_diagnoses : Diagnoses directive DerivesDirective ExceedsDirective := by
  have arguments := @entries_diagnoses .closeParen (by simp) maxDepth (value_diagnoses maxDepth)
  refine .name fun name => .eat (by simp) (arguments.map ?_ (.mk name)) (.pure (.bare name))
  rintro _ _ ⟨⟨many⟩, shallow⟩
  exact .applied name many (entriesNesting_le_iff.mp (Nat.le_of_lt_succ shallow))

theorem directives_diagnoses : Diagnoses directives DerivesDirectives ExceedsDirectives :=
  itemsAfter_diagnoses (by simp) directive_diagnoses

theorem field_diagnoses : Diagnoses field DerivesField ExceedsField := by
  refine .name fun name => .expect (by simp) (.bind ((type_diagnoses maxDepth).mono id (.type name)) ?_)
  rintro _ _ ⟨derived, shallow⟩
  have within := Nat.le_of_lt_succ shallow
  exact directives_diagnoses.map (.mk name derived within) (.directives name derived within)

theorem enumValue_diagnoses : Diagnoses enumValue DerivesMember ExceedsNamed :=
  .name fun name => directives_diagnoses.map (.mk name) (.mk name)

theorem scalarType_diagnoses : Diagnoses scalarType DerivesScalar ExceedsNamed :=
  .name fun name => directives_diagnoses.map (.mk name) (.mk name)

theorem interfaceNames_diagnoses :
    Diagnoses (itemsAfter .ampersand name) (Many (Behind .ampersand DerivesName)) Beyond := by
  have shallow : Diagnoses name DerivesName fun _ _ => False := name_diagnoses
  refine (itemsAfter_diagnoses (by simp) shallow).mono id ?_
  rintro _ _ ⟨_, ⟨⟨⟩⟩⟩

theorem implements_diagnoses : Diagnoses implements DerivesInterfaces Beyond := by
  refine .eat (by simp) (.eat (by simp) (.name fun first => ?_) (.name fun first => ?_)) (.pure .absent)
  · exact interfaceNames_diagnoses.map (.introduced first) id
  · exact interfaceNames_diagnoses.map (.plain first) id

/-- A description is read over, and a text behind one is at fault. -/
theorem describedStep_diagnoses {step : Reader (Option α)} {Stop : List Token → Unit → Prop}
    (steps : Diagnoses step (Step Item Stop) Beyond) :
    Diagnoses (describedStep step) (Step (Described Item) (Described Stop)) (Described Beyond) := by
  have behind (description : List Token) (described : Description description) :
      Diagnoses step (After description (Step (Described Item) (Described Stop)))
        (After description (Described Beyond)) := by
    refine steps.mono ?_ (.mk described)
    rintro _ _ (derived | stop)
    · exact .item (.mk described derived)
    · exact .stop (.mk described stop)
  refine ⟨(behind [] .absent).possible, fun tokens => ?_⟩
  -- A string is always taken as the description, so that the cases are told apart by the next token alone.
  by_cases described : ∃ text, tokens.headD .eof = .str text
  · obtain ⟨text, head⟩ := described
    obtain ⟨tokens, rfl⟩ := (headD_eq_iff (by simp)).mp head
    exact ((behind [.str text] (.text text)).everywhere tokens).behind (by simp) fun _ => rfl
  · refine ((behind [] .absent).everywhere tokens).of_head fun again head => ?_
    exact bind_of_ok (skipDescription_complete .absent fun text same => described ⟨text, head ▸ same⟩)

theorem block_diagnoses (named : StartsWithName Item []) (items : Diagnoses reader Item Beyond) :
    Diagnoses (block reader) (Block Item) (ExceedsBlock Item Beyond) := by
  have listing := (describedStep_diagnoses (stepUntil_diagnoses (by simp : Token.closeBrace ≠ .eof) items)).collect
    (Described.starts (by simp) named) ⟨_, .mk .absent .mk⟩
  refine .eat (by simp) (listing.mono ?_ .mk) (.pure .absent)
  rintro _ _ ⟨many, ⟨described, ⟨⟩⟩⟩
  have braces := Block.braces (.mk many described)
  rwa [List.cons_append, List.append_assoc] at braces

theorem objectType_diagnoses : Diagnoses objectType DerivesObject ExceedsObject := by
  have named : StartsWithName DerivesField [] := DerivesField.startsWithName fun _ => List.not_mem_nil
  refine .name fun name => .bind implements_diagnoses fun implementing => ?_
  have deep {tokens : List Token} {bad : Token} (beyond : ExceedsDirectives tokens bad) :=
    ExceedsObject.directives name implementing beyond
  refine .bind (directives_diagnoses.mono id deep) fun many => ?_
  exact (block_diagnoses named field_diagnoses).map (.mk name implementing many) (.fields name implementing many)

theorem interfaceType_diagnoses : Diagnoses interfaceType DerivesInterface ExceedsObject := by
  rw [interfaceType_eq]
  exact objectType_diagnoses.fmap .mk id

theorem enumType_diagnoses : Diagnoses enumType DerivesEnum ExceedsEnum := by
  have named : StartsWithName DerivesMember [] := DerivesMember.startsWithName fun _ => List.not_mem_nil
  refine .name fun name => ?_
  refine .bind (directives_diagnoses.mono id fun beyond => .directives (.mk name beyond)) fun many => ?_
  exact (block_diagnoses named enumValue_diagnoses).map (.mk name many) (.members name many)

/-- The keyword of a definition decides which one is read. Other words are taken before they fail. -/
theorem keyword_verdict (keyword : String) :
    Verdict stepDefinition (Step DerivesDefinition Nothing) ExceedsDefinition (.name keyword) := by
  have failed {cause : ParseError} (thrown : definitionOf keyword = throw cause) (tokens : List Token) :
      stepDefinition (.name keyword :: tokens) = .error cause tokens := by
    change (definitionOf keyword >>= fun found => pure (some found)) tokens = _
    rw [thrown]
    rfl
  by_cases object : keyword = "type"
  · subst object
    exact .goesOn (fun _ => rfl) ((objectType_diagnoses.fmap .object .object).map .item id)
  by_cases interface : keyword = "interface"
  · subst interface
    exact .goesOn (fun _ => rfl) ((interfaceType_diagnoses.fmap .interface .interface).map .item id)
  by_cases enum : keyword = "enum"
  · subst enum
    exact .goesOn (fun _ => rfl) ((enumType_diagnoses.fmap .enum .enum).map .item id)
  by_cases scalar : keyword = "scalar"
  · subst scalar
    exact .goesOn (fun _ => rfl) ((scalarType_diagnoses.fmap .scalar .scalar).map .item id)
  by_cases unsupported : isUnsupported keyword = true
  · have thrown : definitionOf keyword = throw (.unsupported keyword) := by
      rw [definitionOf, if_neg object, if_neg interface, if_neg enum, if_neg scalar, if_pos unsupported]
    exact .fails _ (failed thrown) (by simp) (by simp)
  · have thrown : definitionOf keyword = throw (.unexpected (.name keyword) .definition) := by
      rw [definitionOf, if_neg object, if_neg interface, if_neg enum, if_neg scalar, if_neg unsupported]
    exact .fails _ (failed thrown) (by simp) (by simp)

theorem stepDefinition_diagnoses :
    Diagnoses stepDefinition (Step DerivesDefinition Nothing) ExceedsDefinition := by
  refine .of_verdict ⟨[], none, .stop .mk⟩ (fun tokens empty => ?_) fun token proper => ?_
  · have none : Diagnoses (pure none) (Step DerivesDefinition Nothing) ExceedsDefinition := .pure (.stop .mk)
    refine (none.everywhere tokens).of_head fun again head => ?_
    exact bind_of_ok (peek_ok_iff.mpr ⟨head.trans empty, rfl⟩)
  · cases token with
    | name keyword => exact keyword_verdict keyword
    | eof => exact absurd rfl proper
    | _ => exact .fails (.unexpected _ .definition) (fun _ => rfl) (by simp) (by simp)

/-- Definitions come one after the other, up to the end of the tokens. -/
theorem document_diagnoses : Diagnoses document Derives Exceeds := by
  have listing := (describedStep_diagnoses stepDefinition_diagnoses).collect
    (Described.starts (by simp) DerivesDefinition.named) ⟨_, .mk .absent .mk⟩
  refine listing.map ?_ id
  rintro _ _ ⟨many, ⟨described, ⟨⟩⟩⟩
  rw [List.append_nil]
  exact .mk many described

end

/-- Whether a document is read from the tokens with the end behind them. -/
def Accepted (tokens : List Token) : Prop :=
  ∃ document rest, Reader.document.run (tokens ++ [.eof]) = .ok document rest

/-- Whether the tokens begin others that are accepted. -/
def Completable (tokens : List Token) : Prop :=
  ∃ more, .eof ∉ more ∧ Accepted (tokens ++ more)

theorem Derives.proper {tokens : List Token} {document : Document} (derived : Derives tokens document) :
    .eof ∉ tokens := by
  obtain ⟨front, takes, _⟩ := (document_diagnoses.everywhere _).success (document_complete derived)
  obtain rfl := List.append_cancel_right takes.split
  exact takes.proper

theorem Viable.completable {front : List Token} (viable : Viable Derives front) : Completable front := by
  obtain ⟨more, document, derived⟩ := viable
  have proper := derived.proper
  refine ⟨more, fun member => proper (List.mem_append_right front member), document, [.eof], ?_⟩
  exact document_complete derived

/-- The end behind the tokens is not among those that are split off in front of it. -/
theorem split_front {tokens front behind : List Token} {bad : Token} (proper : bad ≠ .eof)
    (split : tokens ++ [.eof] = front ++ bad :: behind) :
    ∃ others, tokens = front ++ bad :: others ∧ behind = others ++ [.eof] := by
  rcases List.eq_nil_or_concat behind with rfl | ⟨others, last, rfl⟩
  · have same := (List.append_inj' split rfl).2
    exact absurd (List.cons.inj same).1.symm proper
  · rw [List.concat_eq_append, ← List.cons_append, ← List.append_assoc] at split
    obtain ⟨same, ended⟩ := List.append_inj' split rfl
    exact ⟨others, same, by rw [List.concat_eq_append, ended]⟩

/-- Where no document is read, the failure is the end just where tokens behind it could complete a document.
Otherwise it blames the first token that no document has in its place: the tokens in front of it begin a document,
and whatever stands behind it, the failure stays. It is by depth just where the token opens a list or an object
more than may be open. -/
theorem document_blames (tokens : List Token) (proper : .eof ∉ tokens) (cause : ParseError) (rest : List Token)
    (failed : Reader.document.run (tokens ++ [.eof]) = .error cause rest) :
    (cause = .unexpectedEnd ↔ ¬Accepted tokens ∧ Completable tokens) ∧
      (cause ≠ .unexpectedEnd → ∃ front bad behind, tokens = front ++ bad :: behind ∧
        rest = cause.unread bad (behind ++ [.eof]) ∧ Completable front ∧
        (∀ other, Reader.document.run (front ++ bad :: other) = .error cause (cause.unread bad other)) ∧
        (cause = .tooDeep ↔ Exceeds front bad)) := by
  have refused : ¬Accepted tokens := by
    rintro ⟨document, behind, read⟩
    cases failed.symm.trans read
  cases (document_diagnoses.everywhere _).failure failed with
  | atEnd ended takes empty viable =>
    obtain rfl := eq_of_takes proper takes empty
    exact ⟨⟨fun _ => ⟨refused, viable.completable⟩, fun _ => ended⟩, fun other => absurd ended other⟩
  | @atToken front behind bad other fits takes viable deep final =>
    obtain ⟨behind, rfl, rfl⟩ := split_front fits takes.split
    have fails (again : List Token) :
        Reader.document.run (front ++ bad :: again) = .error cause (cause.unread bad again) := final again
    refine ⟨⟨fun ended => absurd ended other, ?_⟩,
      fun _ => ⟨front, bad, behind, rfl, ?_, viable.completable, fails, deep, fun exceeds => ?_⟩⟩
    · -- What would complete the tokens stands behind the bad one, where nothing changes the failure.
      rintro ⟨_, more, _, document, rest, read⟩
      rw [List.append_assoc, List.append_assoc, List.cons_append, fails] at read
      cases read
    · rw [List.append_assoc, List.cons_append, fails] at failed
      cases failed
      rfl
    · cases (fails []).symm.trans (document_overflows exceeds [])
      rfl

/-- The type of a described field opens 65 lists. -/
def deepTokens : List Token :=
  [.name "interface", .name "Node", .openBrace, .str "Too deep.", .name "kinds", .colon] ++
    List.replicate 65 .openBracket ++ [.name "Kind"]

set_option maxRecDepth 4000 in
/-- The first 64 lists are within the limit, and the bracket of the next one is at fault, not the name behind it. -/
theorem document_blames_bracket :
    .eof ∉ deepTokens ∧ Reader.document.run (deepTokens ++ [.eof]) = .error .tooDeep [.name "Kind", .eof] ∧
      ∃ front bad behind, deepTokens = front ++ bad :: behind ∧ behind = [.name "Kind"] ∧ Completable front ∧
        Exceeds front bad := by
  have failed : Reader.document.run (deepTokens ++ [.eof]) = .error .tooDeep [.name "Kind", .eof] := rfl
  have proper : .eof ∉ deepTokens := by decide
  obtain ⟨front, bad, behind, split, left, begins, _, deep⟩ :=
    (document_blames deepTokens proper .tooDeep _ failed).2 (by simp)
  have same : [Token.name "Kind"] ++ [.eof] = behind ++ [.eof] := left
  exact ⟨proper, failed, front, bad, behind, split, (List.append_cancel_right same).symm, begins, deep.mp rfl⟩

end EntityLayout.Grammar
