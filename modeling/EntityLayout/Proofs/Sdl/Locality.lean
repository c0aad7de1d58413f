import EntityLayout.Proofs.Sdl.BlockStrings
import EntityLayout.Proofs.Sdl.Separators

/-!
# Lexemes

What a token is read from is a gap and a lexeme. Every reader looks beyond the lexeme to see where it ends, but the
token does not depend on what is seen there: it is the only one of the lexeme alone. So a text may be laid out anew
with other gaps between its lexemes, and its tokens stay the same (`tokens_local`).
-/
namespace EntityLayout.Token

/-- The text starts with a character that neither separates tokens nor starts a comment. -/
def StartsLexeme (text : List Char) : Prop :=
  ∃ c rest, text = c :: rest ∧ isSeparator c = false ∧ c ≠ '#'

/-- Nothing but ignored characters, or a gap and then the start of a lexeme. -/
def Parts (text : List Char) : Prop :=
  Trail text ∨ ∃ gap rest, text = gap ++ rest ∧ Gap gap ∧ StartsLexeme rest

theorem Parts.behind {gap text : List Char} (ignored : Gap gap) (parts : Parts text) : Parts (gap ++ text) := by
  rcases parts with trail | ⟨more, rest, rfl, others, starts⟩
  · exact Or.inl (trail.behind ignored)
  · exact Or.inr ⟨gap ++ more, rest, (List.append_assoc _ _ _).symm, ignored.append others, starts⟩

/-- By induction along the dropping of ignored text: in a comment, whatever has been read of it belongs to it. -/
theorem parts (text : List Char) : Parts text := by
  let Commented (text : List Char) : Prop := ∀ body, InLine body → Parts ('#' :: body ++ text)
  refine dropIgnored.induct Parts Commented ?nil ?separator ?comment ?lexeme ?ended ?line ?body text
  case nil => exact Or.inl (.gap .nil)
  case separator =>
    intro c rest separates others
    exact others.behind (.separator separates .nil)
  case comment =>
    intro rest _ others
    exact others [] (by simp [InLine])
  case lexeme =>
    intro c rest separates comment
    exact Or.inr ⟨[], c :: rest, rfl, .nil, c, rest, rfl, Bool.eq_false_iff.mpr separates, comment⟩
  case ended =>
    intro body inLine
    rw [List.append_nil]
    exact Or.inl (.comment .nil inLine)
  case line =>
    intro ending rest ends others body inLine
    have line : Gap ('#' :: body ++ [ending]) := .comment inLine ends .nil
    rw [List.append_cons]
    exact others.behind line
  case body =>
    intro c rest inside others body inLine
    have longer : InLine (body ++ [c]) := by
      intro other member
      rcases List.mem_append.mp member with member | member
      · exact inLine other member
      · rw [List.mem_singleton.mp member]
        exact not_or.mp inside
    rw [List.append_cons]
    exact others (body ++ [c]) longer

/-- What the reader takes up decides the token that it reads, whatever stands behind it and does not go on with the
token. -/
def Local (reader : List Char → Scanned Token) : Prop :=
  ∀ ⦃text token rest⦄, reader text = .ok token rest → token ≠ .eof ∧
    ∃ taken, text = taken ++ rest ∧ ∀ behind, Stops rest behind → reader (taken ++ behind) = .ok token behind

theorem local_mark {token : Token} (proper : token ≠ .eof) : Local fun rest => .ok token rest := by
  rintro text _ _ ⟨⟩
  exact ⟨proper, [], rfl, fun _ _ => rfl⟩

theorem local_error (cause : LexError) : Local fun rest => .error cause rest :=
  nofun

/-- A name goes on as far as it can, so that it needs only the character behind it to differ. -/
theorem local_name (first : Char) : Local (scanName first) := by
  rintro text _ _ ⟨⟩
  refine ⟨by simp, text.takeWhile continuesName, List.takeWhile_append_dropWhile.symm, fun behind stops => ?_⟩
  have continues : ∀ c ∈ text.takeWhile continuesName, continuesName c = true := fun _ => List.mem_takeWhile_imp
  have ended : ∀ c ∈ behind.head?, continuesName c = false := by
    intro c member
    rcases stops c member with ends | same
    · exact Bool.eq_false_iff.mpr fun given => Bool.eq_false_iff.mp ends (isGraphic_of_continuesName given)
    · have stopped := List.head?_dropWhile_not continuesName text
      rw [Option.mem_def.mp same] at stopped
      exact stopped
  obtain ⟨taken, left⟩ := takeWhile_append_of_stop continues ended
  rw [scanName, taken, left]

theorem numberRun_append_drop (before : Char) (text : List Char) :
    numberRun before text ++ text.drop (numberRun before text).length = text := by
  induction text generalizing before with
  | nil => rfl
  | cons c text ih =>
    rw [numberRun]
    split
    · rw [List.cons_append, List.length_cons, List.drop_succ_cons, ih]
    · rfl

theorem ofNumber?_proper {run : List Char} {token : Token} (number : ofNumber? run = some token) :
    token ≠ .eof := by
  unfold ofNumber? at number
  split at number
  · obtain ⟨value, _, rfl⟩ := Option.map_eq_some_iff.mp number
    simp
  · obtain ⟨value, _, rfl⟩ := Option.map_eq_some_iff.mp number
    simp

theorem local_number (first : Char) : Local (scanNumber first) := by
  intro text token rest read
  have whole := numberRun_append_drop first text
  unfold scanNumber at read
  simp only at read
  split at read
  · rename_i number
    cases read
    refine ⟨ofNumber?_proper number, numberRun first text, whole.symm, fun behind stops => ?_⟩
    have run := numberRun_stops (congrArg (numberRun first) whole) stops
    simp only [scanNumber, run, number, List.drop_left]
  · cases read

/-- A sign starts a number only if a digit comes next. The number takes that digit up. -/
theorem local_signed (cause : LexError) :
    Local fun text => if text.head?.any Char.isDigit then scanNumber '-' text else .error cause text := by
  intro text token rest read
  simp only at read
  split at read
  · rename_i digit
    obtain ⟨proper, taken, rfl, others⟩ := local_number '-' read
    refine ⟨proper, taken, rfl, fun behind stops => ?_⟩
    cases taken with
    | nil =>
      -- A sign alone is no number.
      have lone := others [] (EndsToken.nil.stops rest)
      cases lone
    | cons c taken => exact (if_pos digit).trans (others behind stops)
  · cases read

theorem local_spread : Local scanSpread := by
  intro text token rest read
  unfold scanSpread at read
  split at read
  · cases read
    exact ⟨by simp, ['.', '.'], rfl, fun _ _ => rfl⟩
  · cases read
  · cases read

/-- A string ends at its closing quotes and looks at nothing behind them. -/
theorem local_string : Local scanString := by
  intro text token rest read
  unfold scanString at read
  split at read
  · obtain ⟨meaning, block, rfl⟩ := Scanned.map_ok_iff.mp read
    obtain ⟨taken, rfl, _, others⟩ := (scanBlock_ok_iff.mp block).taken
    refine ⟨by simp, '"' :: '"' :: taken, rfl, fun behind _ => ?_⟩
    exact Scanned.map_ok_iff.mpr ⟨meaning, scanBlock_ok_iff.mpr (others behind), rfl⟩
  · rename_i closed
    cases read
    refine ⟨by simp, ['"'], rfl, fun behind stops => scanString_empty fun quote => ?_⟩
    rcases stops '"' quote with ends | same
    · cases ends
    · obtain ⟨more, rfl⟩ := List.head?_eq_some_iff.mp same
      exact closed more rfl
  · rename_i _ empty
    obtain ⟨meaning, quoted, rfl⟩ := Scanned.map_ok_iff.mp read
    obtain ⟨taken, rfl, others⟩ := (scanQuoted_ok_iff.mp quoted).taken
    refine ⟨by simp, taken, rfl, fun behind _ => ?_⟩
    have again := (others behind).read
    cases taken with
    | nil =>
      -- The closing quote has been taken up.
      have nothing := (others []).read
      cases nothing
    | cons c taken =>
      have plain : c ≠ '"' := by
        rintro rfl
        exact empty _ rfl
      rw [List.cons_append] at again ⊢
      rw [scanString_of_ne plain, again]
      rfl

theorem ofMark?_proper {c : Char} {token : Token} (mark : ofMark? c = some token) : token ≠ .eof := by
  unfold ofMark? at mark
  split at mark <;> cases mark <;> simp

/-- The first character of a lexeme chooses a reader for the rest of it. -/
theorem local_scan {c : Char} (separates : isSeparator c = false) (comment : c ≠ '#') :
    Local fun rest => scan (c :: rest) := by
  have kept (rest : List Char) : dropIgnored (c :: rest) = c :: rest := by
    rw [dropIgnored, separates, if_neg Bool.false_ne_true, if_neg comment]
  simp only [scan, kept]
  cases mark : ofMark? c with
  | some token => exact local_mark (ofMark?_proper mark)
  | none =>
    simp only
    by_cases point : c = '.'
    · simpa only [if_pos point] using local_spread
    by_cases quote : c = '"'
    · simpa only [if_neg point, if_pos quote] using local_string
    simp only [if_neg point, if_neg quote]
    by_cases digit : c.isDigit = true
    · simpa only [startsNumber, digit, Bool.true_or, if_true] using local_number c
    by_cases sign : c = '-'
    · subst sign
      exact local_signed (.unexpectedChar '-')
    have number (rest : List Char) : startsNumber c rest = false := by simp [startsNumber, digit, sign]
    simp only [number, Bool.false_eq_true, if_false]
    by_cases starts : startsName c = true
    · simpa only [if_pos starts] using local_name c
    · simpa only [if_neg starts] using local_error (.unexpectedChar c)

/-- What a token was read from is a lexeme of it. -/
theorem lexeme_of_scan {gap lexeme rest : List Char} {token : Token} (ignored : Gap gap)
    (starts : StartsLexeme lexeme) (read : scan (gap ++ (lexeme ++ rest)) = .ok token rest) :
    Lexeme token lexeme := by
  obtain ⟨c, more, rfl, separates, comment⟩ := starts
  rw [scan_gap ignored, List.cons_append] at read
  obtain ⟨proper, taken, same, others⟩ := local_scan separates comment read
  obtain rfl := List.append_cancel_right same
  exact ⟨fun behind ends => others behind (ends.stops rest), proper⟩

/-- Where a token is read, nothing but ignored characters is left, or a gap and a lexeme are taken up. -/
theorem scan_cases {text rest : List Char} {token : Token} (read : scan text = .ok token rest) :
    Trail text ∧ token = .eof ∧ rest = [] ∨
      token ≠ .eof ∧ ∃ gap lexeme, text = gap ++ (lexeme ++ rest) ∧ Gap gap ∧ StartsLexeme lexeme := by
  rcases parts text with trail | ⟨gap, behind, rfl, ignored, c, more, rfl, separates, comment⟩
  · rw [scan, dropIgnored_trail trail] at read
    cases read
    exact Or.inl ⟨trail, rfl, rfl⟩
  · rw [scan_gap ignored] at read
    obtain ⟨proper, taken, rfl, _⟩ := local_scan separates comment read
    exact Or.inr ⟨proper, gap, c :: taken, rfl, ignored, c, taken, rfl, separates, comment⟩

/-- The end is found exactly when nothing but ignored characters is left, and it takes them all. -/
theorem scan_eof_iff {text rest : List Char} : scan text = .ok .eof rest ↔ Trail text ∧ rest = [] := by
  constructor
  · intro read
    rcases scan_cases read with ⟨trail, _, ended⟩ | ⟨proper, _⟩
    · exact ⟨trail, ended⟩
    · exact absurd rfl proper
  · rintro ⟨trail, rfl⟩
    rw [scan, dropIgnored_trail trail]

/-- The token of a lexeme is the only one of it as a text of its own. -/
theorem Lexeme.alone {token : Token} {text : List Char} (lexeme : Lexeme token text) :
    tokenize (String.ofList text) = .ok [token, .eof] := by
  have written : Written [token] ([] ++ (text ++ [])) := .cons .nil lexeme .nil (.nil (.gap .nil))
  rw [List.nil_append, List.append_nil, ← String.toList_ofList (l := text)] at written
  exact tokenize_written written

/-- `Cut text tokens lexemes`: read one after the other, the tokens of the text are `tokens` and then the end, and
what each of them takes up behind ignored characters is its lexeme. -/
inductive Cut : List Char → List Token → List (List Char) → Prop
  | ended {text rest : List Char} : scan text = .ok .eof rest → Cut text [] []
  | token {token : Token} {tokens : List Token} {gap lexeme rest : List Char} {lexemes : List (List Char)} :
      Gap gap → StartsLexeme lexeme → scan (gap ++ (lexeme ++ rest)) = .ok token rest → Cut rest tokens lexemes →
        Cut (gap ++ (lexeme ++ rest)) (token :: tokens) (lexeme :: lexemes)

theorem Cut.lexemes {text : List Char} {tokens : List Token} {lexemes : List (List Char)}
    (cut : Cut text tokens lexemes) : List.Forall₂ Lexeme tokens lexemes := by
  induction cut with
  | ended _ => exact .nil
  | token ignored starts read _ ih => exact .cons (lexeme_of_scan ignored starts read) ih

theorem Cut.reads {text : List Char} {tokens : List Token} {lexemes : List (List Char)}
    (cut : Cut text tokens lexemes) : Reads text tokens := by
  induction cut with
  | ended read => exact .ended read
  | token ignored starts read _ ih =>
    have lexeme := lexeme_of_scan ignored starts read
    have positive := lexeme.length_pos
    refine .token read lexeme.proper ?_ ih
    simp only [List.length_append]
    omega

/-- By induction on the tokens that may still be read. -/
theorem cut_of_scanAll {count : Nat} {text : List Char} {tokens : List Token} (enough : text.length < count)
    (success : scanAll count text = .ok tokens) :
    ∃ read lexemes, Cut text read lexemes ∧ tokens = read ++ [.eof] := by
  induction count generalizing text tokens with
  | zero => exact absurd enough (Nat.not_lt_zero _)
  | succ count ih =>
    unfold scanAll at success
    split at success
    · cases success
    · rename_i read
      cases success
      exact ⟨[], [], .ended read, rfl⟩
    · rename_i token rest proper read
      obtain ⟨_, gap, lexeme, rfl, ignored, starts⟩ := (scan_cases read).resolve_left fun ended => proper ended.2.1
      have positive := (lexeme_of_scan ignored starts read).length_pos
      cases others : scanAll count rest with
      | error cause =>
        rw [others] at success
        cases success
      | ok tokens =>
        rw [others] at success
        cases success
        rw [List.length_append, List.length_append] at enough
        obtain ⟨behind, lexemes, cut, rfl⟩ := ih (by omega) others
        exact ⟨token :: behind, lexeme :: lexemes, .token ignored starts read cut, rfl⟩

/-- A text has tokens exactly when it can be cut into their lexemes, up to ignored characters at its end. -/
theorem tokenize_ok_iff {source : String} {tokens : List Token} :
    tokenize source = .ok tokens ↔
      ∃ read lexemes, Cut source.toList read lexemes ∧ tokens = read ++ [.eof] := by
  constructor
  · exact cut_of_scanAll (Nat.lt_succ_self _)
  · rintro ⟨read, lexemes, cut, rfl⟩
    exact tokenize_reads cut.reads

theorem reads_of_tokenize {source : String} {tokens : List Token} (success : tokenize source = .ok tokens) :
    ∃ read, Reads source.toList read ∧ tokens = read ++ [.eof] := by
  obtain ⟨read, _, cut, rfl⟩ := tokenize_ok_iff.mp success
  exact ⟨read, cut.reads, rfl⟩

/-- The tokens stay the same when the pieces of a text are put together with other gaps. -/
theorem Cut.tokenize_formatted {text : List Char} {tokens : List Token} {lexemes : List (List Char)}
    (cut : Cut text tokens lexemes) {lead : List Char} {words : List (List Char × List Char)}
    (same : words.map Prod.fst = lexemes) (spaced : Spaced lead words) :
    tokenize (String.ofList (formatted lead words)) = .ok (tokens ++ [.eof]) := by
  subst same
  apply tokenize_written
  rw [String.toList_ofList]
  exact written_formatted spaced cut.lexemes

/-- Reading a token takes up a gap and the lexeme of the token, which alone is read as this token and no other; the end
is read where nothing is left but ignored characters. So the tokens of a source are those of its lexemes, and whatever
gaps these are given, no two of them without one, the source still has the same tokens. -/
theorem tokens_local :
    (∀ text token rest, scan text = .ok token rest → token ≠ .eof → ∃ gap lexeme,
      text = gap ++ (lexeme ++ rest) ∧ Gap gap ∧ StartsLexeme lexeme ∧
        tokenize (String.ofList lexeme) = .ok [token, .eof]) ∧
    (∀ text rest, scan text = .ok .eof rest ↔ Trail text ∧ rest = []) ∧
    (∀ source tokens, tokenize source = .ok tokens ↔
      ∃ read lexemes, Cut source.toList read lexemes ∧ tokens = read ++ [.eof]) ∧
    ∀ text tokens lexemes, Cut text tokens lexemes → ∀ lead words, words.map Prod.fst = lexemes → Spaced lead words →
      tokenize (String.ofList (formatted lead words)) = .ok (tokens ++ [.eof]) := by
  refine ⟨?_, fun _ _ => scan_eof_iff, fun _ _ => tokenize_ok_iff, ?_⟩
  · intro text token rest read proper
    obtain ⟨_, gap, lexeme, rfl, ignored, starts⟩ := (scan_cases read).resolve_left fun ended => proper ended.2.1
    exact ⟨gap, lexeme, rfl, ignored, starts, (lexeme_of_scan ignored starts read).alone⟩
  · intro text tokens lexemes cut lead words same spaced
    exact cut.tokenize_formatted same spaced

def pointWord : List Char :=
  ['1', '.', '5', 'e', '3']

def blockWord : List Char :=
  ['"', '"', '"', 'x', '\\', '"', '"', '"', 'y', '"', '"', '"']

def quotedWord : List Char :=
  ['"', '\\', 'u', '0', '0', '4', '1', '\\', 'n', '"']

/-- A number behind a comment, and right behind it a block string, a quoted string and a name. -/
def denseText : List Char :=
  ['#', 'c', '\n'] ++ (pointWord ++ (blockWord ++ (quotedWord ++ ['a'])))

def denseTokens : List Token :=
  [.float (Binary64.ofDecimal ⟨false, 15, 2⟩), .str "x\"\"\"y", .str "A\n", .name "a"]

/-- The lexemes of the text with other gaps. -/
def looseWords : List (List Char × List Char) :=
  [(pointWord, ['#', '"', '\r']), (blockWord, [',']), (quotedWord, ['\ufeff', '\n']), (['a'], [' ', '#', '"'])]

/-- Tokens without gaps between them, and their lexemes with other gaps, the last of which is an unfinished comment.
-/
theorem tokens_local_dense :
    (∃ rest, scan denseText = .ok (.float (Binary64.ofDecimal ⟨false, 15, 2⟩)) rest ∧
      ∃ gap lexeme, denseText = gap ++ (lexeme ++ rest) ∧ Gap gap ∧ StartsLexeme lexeme ∧
        tokenize (String.ofList lexeme) = .ok [.float (Binary64.ofDecimal ⟨false, 15, 2⟩), .eof]) ∧
    Cut denseText denseTokens (looseWords.map Prod.fst) ∧ Spaced [' '] looseWords ∧
      tokenize (String.ofList (formatted [' '] looseWords)) = .ok (denseTokens ++ [.eof]) := by
  have separator {c : Char} (separates : isSeparator c = true) : Gap [c] := .separator separates .nil
  have comment : Gap ('#' :: ['c'] ++ ['\n']) := .comment (by simp [InLine]) (Or.inl rfl) .nil
  have unended : Gap ('#' :: ['"'] ++ ['\r']) := .comment (by simp [InLine]) (Or.inr rfl) .nil
  have last : Trail ([' '] ++ '#' :: ['"']) := .comment (separator (by decide)) (by simp [InLine])
  have readPoint : scan denseText =
      .ok (.float (Binary64.ofDecimal ⟨false, 15, 2⟩)) (blockWord ++ (quotedWord ++ ['a'])) := rfl
  have readBlock : scan (blockWord ++ (quotedWord ++ ['a'])) = .ok (.str "x\"\"\"y") (quotedWord ++ ['a']) := rfl
  have readQuoted : scan (quotedWord ++ ['a']) = .ok (.str "A\n") ['a'] := rfl
  have readName : scan ['a'] = .ok (.name "a") [] := rfl
  have cut : Cut denseText denseTokens (looseWords.map Prod.fst) := by
    have name : Cut ['a'] [.name "a"] [['a']] :=
      .token .nil ⟨'a', [], rfl, by decide, by decide⟩ readName (.ended rfl)
    have quoted := Cut.token .nil ⟨'"', quotedWord.tail, rfl, by decide, by decide⟩ readQuoted name
    have block := Cut.token .nil ⟨'"', blockWord.tail, rfl, by decide, by decide⟩ readBlock quoted
    exact .token comment ⟨'1', pointWord.tail, rfl, by decide, by decide⟩ readPoint block
  have spaced : Spaced [' '] looseWords := by
    refine ⟨separator (by decide), by simp, unended, by simp, separator (by decide), by simp, ?_, by simp, last⟩
    exact .separator (by decide) (separator (by decide))
  refine ⟨⟨_, readPoint, tokens_local.1 _ _ _ readPoint (by simp)⟩, cut, spaced, ?_⟩
  exact tokens_local.2.2.2 _ _ _ cut _ _ rfl spaced

end EntityLayout.Token
