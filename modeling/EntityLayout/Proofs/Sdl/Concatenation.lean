import EntityLayout.Proofs.Sdl.Locality
import EntityLayout.Proofs.Sdl.Writing

/-!
# Texts behind each other

A line end between two texts ends what the first one may leave open: a name, a number or a comment. So the tokens of
both are read one behind the other, and where each text is a document, so are the two, with the definitions of both
(`parse_lines`). This is so whatever is left out at the end of the first one, as nothing that a definition may go on
with starts a document. Only a description that no definition follows may not stand in front of another one.
-/
namespace EntityLayout
namespace Token

variable {text other rest more : List Char} {token : Token} {first second : List Token}

/-- A token is also read where its text goes on with what ends a token. -/
theorem scan_append (read : scan text = .ok token rest) (proper : token ≠ .eof) (ends : EndsToken more) :
    scan (text ++ more) = .ok token (rest ++ more) := by
  rcases parts text with trail | ⟨gap, _, rfl, ignored, c, _, rfl, separates, comment⟩
  · rw [scan, dropIgnored_trail trail] at read
    cases read
    exact absurd rfl proper
  · rw [scan_gap ignored] at read
    obtain ⟨_, taken, rfl, others⟩ := local_scan separates comment read
    rw [List.append_assoc, scan_gap ignored, List.cons_append, List.append_assoc]
    exact others _ (ends.stops_append rest)

/-- The end of the line ends the last comment, if the end of the text did. -/
theorem Trail.line (trail : Trail text) : Gap (text ++ ['\n']) := by
  cases trail with
  | gap ignored => exact ignored.append (.separator (by decide) .nil)
  | comment ignored inLine =>
    rw [List.append_assoc]
    exact ignored.append (.comment inLine (Or.inl rfl) .nil)

theorem Reads.behind {gap : List Char} (ignored : Gap gap) (reads : Reads text first) : Reads (gap ++ text) first := by
  cases reads with
  | ended read => exact .ended ((scan_gap ignored _).trans read)
  | token read proper shorter others =>
    refine .token ((scan_gap ignored _).trans read) proper ?_ others
    rw [List.length_append]
    omega

/-- By induction on the tokens of the first text. Behind the last of them stands a gap, the end of the line included. -/
theorem Reads.append_line (reads : Reads text first) (others : Reads other second) :
    Reads (text ++ '\n' :: other) (first ++ second) := by
  induction reads with
  | ended read =>
    rw [List.append_cons]
    exact others.behind (scan_eof_iff.mp read).1.line
  | token read proper shorter _ ih =>
    have ends : EndsToken ('\n' :: other) := endsToken_separator (by decide) other
    refine .token (scan_append read proper ends) proper ?_ ih
    rw [List.length_append, List.length_append]
    omega

/-- The tokens of two lines are those of both, and the end comes once. -/
theorem tokenize_lines {a b : String} (reads : Reads a.toList first) (others : Reads b.toList second) :
    tokenize (a ++ "\n" ++ b) = .ok (first ++ second ++ [.eof]) := by
  apply tokenize_reads
  rw [String.toList_append, String.toList_append, List.append_assoc]
  exact reads.append_line others

end Token

namespace Grammar

def StartsWithText (tokens : List Token) : Prop :=
  ∃ text, tokens.head? = some (.str text)

def EndsWithText (tokens : List Token) : Prop :=
  ∃ text, tokens.getLast? = some (.str text)

/-- Which token comes last is a matter of the last part that has any. -/
theorem endsWithText_append_iff {front behind : List Token} :
    EndsWithText (front ++ behind) ↔ EndsWithText behind ∨ behind = [] ∧ EndsWithText front := by
  unfold EndsWithText
  rw [List.getLast?_append]
  cases behind with
  | nil => simp
  | cons token behind => simp [List.getLast?_cons]

section
variable {α : Type} {Item : List Token → α → Prop} {tokens : List Token} {items : List α} {item : α}

theorem not_endsWithText_append {front behind : List Token} (first : ¬EndsWithText front)
    (second : ¬EndsWithText behind) : ¬EndsWithText (front ++ behind) := by
  rw [endsWithText_append_iff, not_or]
  exact ⟨second, fun given => first given.2⟩

theorem not_endsWithText_behind {behind : List Token} (front : List Token) (nonempty : behind ≠ [])
    (plain : ¬EndsWithText behind) : ¬EndsWithText (front ++ behind) := by
  rw [endsWithText_append_iff, not_or]
  exact ⟨plain, fun given => nonempty given.1⟩

theorem not_endsWithText_nil : ¬EndsWithText [] :=
  nofun

theorem not_endsWithText_token {token : Token} (other : ∀ text, token ≠ .str text) : ¬EndsWithText [token] := by
  rintro ⟨text, ended⟩
  exact other text (Option.some.inj ended)

theorem not_endsWithText_cons {token : Token} (other : ∀ text, token ≠ .str text) (plain : ¬EndsWithText tokens) :
    ¬EndsWithText (token :: tokens) :=
  not_endsWithText_append (not_endsWithText_token other) plain

theorem Many.not_endsWithText (each : ∀ {front item}, Item front item → ¬EndsWithText front)
    (many : Many Item tokens items) : ¬EndsWithText tokens := by
  induction many with
  | nil => exact not_endsWithText_nil
  | cons first _ ih => exact not_endsWithText_append (each first) ih

theorem Many.behind_not_endsWithText {mark : Token} (other : ∀ text, mark ≠ .str text)
    (each : ∀ {front item}, Item front item → ¬EndsWithText front) (many : Many (Behind mark Item) tokens items) :
    ¬EndsWithText tokens := by
  refine many.not_endsWithText fun derived => ?_
  obtain ⟨derived⟩ := derived
  exact not_endsWithText_cons other (each derived)

/-- A description does not stand at the end of what it describes. -/
theorem Described.not_endsWithText (starts : StartsWithName Item [])
    (each : ∀ {front item}, Item front item → ¬EndsWithText front) (derived : Described Item tokens item) :
    ¬EndsWithText tokens := by
  obtain ⟨_, derived⟩ := derived
  obtain ⟨word, tail, rfl, _⟩ := starts derived
  exact not_endsWithText_behind _ (List.cons_ne_nil _ _) (each derived)

/-- A block ends with its brace. -/
theorem Block.not_endsWithText (derived : Block Item tokens items) : ¬EndsWithText tokens := by
  cases derived with
  | absent => exact not_endsWithText_nil
  | braces _ => exact not_endsWithText_behind _ (List.cons_ne_nil _ _) (not_endsWithText_token (by simp))

end

/-- A directive ends with its name or with the closing parenthesis, never with one of its texts. -/
theorem DerivesDirective.not_endsWithText {tokens : List Token} {directive : Directive}
    (derived : DerivesDirective tokens directive) : ¬EndsWithText tokens := by
  cases derived with
  | bare _ => exact not_endsWithText_token (by simp)
  | applied _ _ _ => exact not_endsWithText_behind _ (List.cons_ne_nil _ _) (not_endsWithText_token (by simp))

theorem DerivesDirectives.not_endsWithText {tokens : List Token} {directives : List Directive}
    (derived : DerivesDirectives tokens directives) : ¬EndsWithText tokens :=
  Many.behind_not_endsWithText (by simp) DerivesDirective.not_endsWithText derived

theorem DerivesInterfaces.not_endsWithText {tokens : List Token} {interfaces : List String}
    (derived : DerivesInterfaces tokens interfaces) : ¬EndsWithText tokens := by
  have named {front : List Token} {name : String} (derived : DerivesName front name) : ¬EndsWithText front := by
    obtain ⟨name⟩ := derived
    exact not_endsWithText_token (by simp)
  cases derived with
  | absent => exact not_endsWithText_nil
  | plain _ many =>
    have others := many.behind_not_endsWithText (by simp) named
    exact not_endsWithText_cons (by simp) (not_endsWithText_cons (by simp) others)
  | introduced _ many =>
    have others := many.behind_not_endsWithText (by simp) named
    exact not_endsWithText_cons (by simp)
      (not_endsWithText_cons (by simp) (not_endsWithText_cons (by simp) others))

theorem DerivesObject.not_endsWithText {tokens : List Token} {type : ObjectType}
    (derived : DerivesObject tokens type) : ¬EndsWithText tokens := by
  obtain ⟨_, interfaces, directives, block⟩ := derived
  exact not_endsWithText_cons (by simp) (not_endsWithText_append interfaces.not_endsWithText
    (not_endsWithText_append directives.not_endsWithText block.not_endsWithText))

/-- Whatever is left out of a definition, it does not end with a text. -/
theorem DerivesDefinition.not_endsWithText {tokens : List Token} {found : Definition}
    (derived : DerivesDefinition tokens found) : ¬EndsWithText tokens := by
  cases derived with
  | object derived => exact not_endsWithText_cons (by simp) derived.not_endsWithText
  | interface derived =>
    obtain ⟨derived⟩ := derived
    exact not_endsWithText_cons (by simp) derived.not_endsWithText
  | enum derived =>
    obtain ⟨_, directives, block⟩ := derived
    exact not_endsWithText_cons (by simp) (not_endsWithText_cons (by simp)
      (not_endsWithText_append directives.not_endsWithText block.not_endsWithText))
  | scalar derived =>
    obtain ⟨_, directives⟩ := derived
    exact not_endsWithText_cons (by simp) (not_endsWithText_cons (by simp) directives.not_endsWithText)

section
variable {α : Type} {Item : List Token → α → Prop} {front behind : List Token} {items others : List α}

theorem Many.append (first : Many Item front items) (second : Many Item behind others) :
    Many Item (front ++ behind) (items ++ others) := by
  induction first with
  | nil => exact second
  | cons item _ ih =>
    rw [List.append_assoc]
    exact .cons item ih

/-- A description may stand in front of a listing that does not start with one. -/
theorem Listing.described (text : String) (plain : ¬StartsWithText behind) (listing : Listing Item behind others) :
    Listing Item (.str text :: behind) others := by
  obtain ⟨many, last⟩ := listing
  cases many with
  | nil =>
    cases last with
    | absent =>
      have none : Many (Described Item) [] ([] : List α) := .nil
      have listing := Listing.mk none (.text text)
      exact listing
    | text more => exact absurd ⟨more, rfl⟩ plain
  | cons item many =>
    obtain ⟨described, item⟩ := item
    cases described with
    | absent =>
      have listing := Listing.mk (.cons (.mk (.text text) item) many) last
      exact listing
    | text more => exact absurd ⟨more, rfl⟩ plain

theorem Many.append_listing (first : Many (Described Item) front items) (second : Listing Item behind others) :
    Listing Item (front ++ behind) (items ++ others) := by
  obtain ⟨many, last⟩ := second
  rw [← List.append_assoc]
  exact .mk (first.append many) last

/-- What is left behind the last item describes the first one that follows. -/
theorem Listing.append (first : Listing Item front items) (second : Listing Item behind others)
    (apart : ¬(EndsWithText front ∧ StartsWithText behind)) : Listing Item (front ++ behind) (items ++ others) := by
  obtain ⟨many, last⟩ := first
  rw [List.append_assoc]
  cases last with
  | absent => exact many.append_listing second
  | text text =>
    have plain : ¬StartsWithText behind := fun starts => apart ⟨⟨text, List.getLast?_concat⟩, starts⟩
    exact many.append_listing (second.described text plain)

end

/-- Where texts meet, the reader fails at the second one. -/
theorem document_clash {front : List Token} {document : Document} (behind : List Token) (text : String)
    (derived : Derives front document) (ends : EndsWithText front) :
    Reader.document.run (front ++ .str text :: behind) =
      .error (.unexpected (.str text) .definition) (.str text :: behind) := by
  obtain ⟨many, last⟩ := derived
  cases last with
  | absent =>
    rw [List.append_nil] at ends
    exact absurd ends
      (many.not_endsWithText (Described.not_endsWithText DerivesDefinition.named DerivesDefinition.not_endsWithText))
  | text description =>
    refine Reader.bind_of_error ?_
    rw [List.append_assoc, definition_eq]
    exact collect_error definition_progress
      (Described.starts (by simp [definitionMarks]) DerivesDefinition.startsWithName)
      (describedStep_complete DerivesDefinition.named stepDefinition_complete) (by simp [definitionMarks]) rfl many

/-- What is read in front of the end is the tree of all tokens. -/
theorem derives_of_run {tokens rest : List Token} {document : Document} (proper : .eof ∉ tokens)
    (success : Reader.document.run (tokens ++ [.eof]) = .ok document rest) : Derives tokens document := by
  obtain ⟨front, takes, derived, ended⟩ := document_sound success
  obtain rfl := eq_of_takes proper takes ended
  exact derived

end Grammar
open Token Grammar

/-- Where two texts are documents, the definitions of both are those of the text that has a line end between the two,
unless a description stands at the end of the first one and another at the start of the second one. Then reading fails
at the latter. -/
theorem parse_lines (a b : String) (first second : Document) (one : Document.parse a = .ok first)
    (other : Document.parse b = .ok second) :
    ∃ front behind, tokenize a = .ok (front ++ [.eof]) ∧ tokenize b = .ok (behind ++ [.eof]) ∧
      (¬(EndsWithText front ∧ StartsWithText behind) →
        Document.parse (a ++ "\n" ++ b) = .ok ⟨first.definitions ++ second.definitions⟩) ∧
      ∀ text, EndsWithText front → behind.head? = some (.str text) →
        Document.parse (a ++ "\n" ++ b) = .error (.unexpected (.str text) .definition) := by
  obtain ⟨_, _, lexed, read⟩ := parse_ok_iff.mp one
  obtain ⟨front, reads, rfl⟩ := reads_of_tokenize lexed
  obtain ⟨_, _, otherLexed, otherRead⟩ := parse_ok_iff.mp other
  obtain ⟨behind, others, rfl⟩ := reads_of_tokenize otherLexed
  have derived : Derives front first := derives_of_run reads.proper read
  have otherDerived : Derives behind second := derives_of_run others.proper otherRead
  have lines := tokenize_lines reads others
  refine ⟨front, behind, lexed, otherLexed, fun apart => ?_, fun text ends starts => ?_⟩
  · exact parse_ok_iff.mpr ⟨_, _, lines, document_complete (derived.append otherDerived apart)⟩
  · obtain ⟨more, rfl⟩ := List.head?_eq_some_iff.mp starts
    have clash := document_clash (more ++ [.eof]) text derived ends
    rw [List.append_assoc] at lines
    exact parse_error_of_run lines clash

/-- A type without a block, and a comment that the end of the text ends. -/
def openText : List Char :=
  ['t', 'y', 'p', 'e', ' ', 'A', '@', 'b', '#', 'c']

/-- A description at the end. -/
def danglingText : List Char :=
  ['s', 'c', 'a', 'l', 'a', 'r', ' ', 'S', '"', 'x', '"']

/-- A description at the start. -/
def describedText : List Char :=
  ['"', 'd', '"', 'e', 'n', 'u', 'm', ' ', 'E']

def openDocument : Document :=
  ⟨[.object ⟨"A", [], [⟨"b", []⟩], []⟩]⟩

def danglingDocument : Document :=
  ⟨[.scalar ⟨"S", []⟩]⟩

def describedDocument : Document :=
  ⟨[.enum ⟨"E", [], []⟩]⟩

/-- A comment at the end of the first text does not take the second one along, but two descriptions in a row are no
document. -/
theorem parse_lines_described :
    Document.parse (String.ofList openText) = .ok openDocument ∧
    Document.parse (String.ofList danglingText) = .ok danglingDocument ∧
    Document.parse (String.ofList describedText) = .ok describedDocument ∧
    Document.parse (String.ofList openText ++ "\n" ++ String.ofList describedText) =
      .ok ⟨openDocument.definitions ++ describedDocument.definitions⟩ ∧
    Document.parse (String.ofList danglingText ++ "\n" ++ String.ofList describedText) =
      .error (.unexpected (.str "d") .definition) := by
  have opened : tokenize (String.ofList openText) =
      .ok ([.name "type", .name "A", .atSign, .name "b"] ++ [.eof]) := by
    rw [tokenize, String.toList_ofList]
    rfl
  have dangling : tokenize (String.ofList danglingText) =
      .ok ([.name "scalar", .name "S", .str "x"] ++ [.eof]) := by
    rw [tokenize, String.toList_ofList]
    rfl
  have described : tokenize (String.ofList describedText) =
      .ok ([.str "d", .name "enum", .name "E"] ++ [.eof]) := by
    rw [tokenize, String.toList_ofList]
    rfl
  have one : Document.parse (String.ofList openText) = .ok openDocument :=
    parse_ok_iff.mpr ⟨_, [.eof], opened, rfl⟩
  have other : Document.parse (String.ofList danglingText) = .ok danglingDocument :=
    parse_ok_iff.mpr ⟨_, [.eof], dangling, rfl⟩
  have behind : Document.parse (String.ofList describedText) = .ok describedDocument :=
    parse_ok_iff.mpr ⟨_, [.eof], described, rfl⟩
  refine ⟨one, other, behind, ?_, ?_⟩
  · obtain ⟨front, _, lexed, _, joined, _⟩ := parse_lines _ _ _ _ one behind
    obtain rfl := List.append_cancel_right (Except.ok.inj (opened.symm.trans lexed))
    refine joined fun texts => ?_
    obtain ⟨_, ended⟩ := texts.1
    cases ended
  · obtain ⟨front, rest, lexed, otherLexed, _, clash⟩ := parse_lines _ _ _ _ other behind
    obtain rfl := List.append_cancel_right (Except.ok.inj (dangling.symm.trans lexed))
    obtain rfl := List.append_cancel_right (Except.ok.inj (described.symm.trans otherLexed))
    exact clash "d" ⟨"x", rfl⟩ rfl

end EntityLayout
