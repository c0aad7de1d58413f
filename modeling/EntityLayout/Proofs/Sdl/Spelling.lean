import EntityLayout.Proofs.Sdl.QuotedStrings

/-!
# Spelling tokens

A spelling of each token. All but the end and the floating-point numbers are read from it again
(`lexeme_spelling`), and so are lists of them with a blank between each two (`written_spelled`).
-/
namespace EntityLayout.Token

/-- A character of a quoted string. -/
def escaped : Char → List Char
  | '"' => ['\\', '"']
  | '\\' => ['\\', '\\']
  | '\n' => ['\\', 'n']
  | c => [c]

/-- A text of the token. For a floating-point number it need not be one of that number. -/
def spelling : Token → List Char
  | .name word => word.toList
  | .str text => '"' :: text.toList.flatMap escaped ++ ['"']
  | .int value => Decimal.integerText value
  | .float value => value.text.toList
  | .openBrace => ['\x7b']
  | .closeBrace => ['\x7d']
  | .openParen => ['(']
  | .closeParen => [')']
  | .openBracket => ['[']
  | .closeBracket => [']']
  | .colon => [':']
  | .equals => ['=']
  | .atSign => ['@']
  | .bang => ['!']
  | .ampersand => ['&']
  | .pipe => ['|']
  | .dollar => ['$']
  | .spread => ['.', '.', '.']
  | .eof => []

/-- The tokens that are read from their spelling. -/
def Spellable : Token → Prop
  | .name word => IsName word
  | .int value => InInt64 value
  | .float _ | .eof => False
  | _ => True

theorem lexeme_mark {c : Char} {token : Token} (mark : ofMark? c = some token) (proper : token ≠ .eof) :
    Lexeme token [c] := by
  refine ⟨fun rest _ => ?_, proper⟩
  rw [List.singleton_append, scan, dropIgnored_graphic (ofMark?_cases mark).1]
  simp only [mark]

theorem lexeme_spread : Lexeme .spread ['.', '.', '.'] :=
  ⟨fun _ _ => by rw [scan, List.cons_append, dropIgnored_graphic (by decide)]; rfl, by simp⟩

theorem continuesName_of_startsName {c : Char} (starts : startsName c = true) : continuesName c = true := by
  rw [startsName_iff] at starts
  rw [continuesName_iff, isAlphanum_iff]
  exact starts.imp_left Or.inl

theorem isDigit_of_startsName {c : Char} (starts : startsName c = true) : c.isDigit = false := by
  rw [startsName_iff, isAlpha_iff_toNat] at starts
  rcases starts with letter | rfl
  · rw [Bool.eq_false_iff, ne_eq, Char.isDigit_iff_toNat]
    change ¬(0x30 ≤ c.toNat ∧ c.toNat ≤ 0x39)
    omega
  · decide

/-- A run of characters that ends where the text ends or a token does. -/
theorem takeWhile_append_of_ends {test : Char → Bool} (graphic : ∀ c, test c = true → isGraphic c = true)
    {run rest : List Char} (all : ∀ c ∈ run, test c = true) (ends : EndsToken rest) :
    (run ++ rest).takeWhile test = run ∧ (run ++ rest).dropWhile test = rest := by
  refine takeWhile_append_of_stop all fun c member => Bool.eq_false_iff.mpr fun given => ?_
  have visible := graphic c given
  rw [ends c member] at visible
  cases visible

theorem lexeme_name {word : String} (named : IsName word) : Lexeme (.name word) word.toList := by
  obtain ⟨first, tail, spelled, starts, continues⟩ := named
  rw [← startsName_iff] at starts
  have continues : ∀ c ∈ tail, continuesName c = true := fun c member =>
    continuesName_iff.mpr (continues c member)
  refine ⟨fun rest ends => ?_, by simp⟩
  obtain ⟨taken, left⟩ := takeWhile_append_of_ends (fun _ => isGraphic_of_continuesName) continues ends
  have unmarked : ofMark? first = none := by
    cases mark : ofMark? first with
    | none => rfl
    | some token => rw [(ofMark?_cases mark).2.1] at starts; cases starts
  have kind : first ≠ '.' ∧ first ≠ '"' ∧ first ≠ '-' := by
    refine ⟨?_, ?_, ?_⟩
    all_goals
      rintro rfl
      exact absurd starts (by decide)
  have number : startsNumber first (tail ++ rest) = false := by
    simp [startsNumber, isDigit_of_startsName starts, kind]
  rw [spelled, List.cons_append, scan,
    dropIgnored_graphic (isGraphic_of_continuesName (continuesName_of_startsName starts))]
  simp only [unmarked, if_neg kind.1, if_neg kind.2.1, number, Bool.false_eq_true, if_false, if_pos starts,
    scanName, taken, left]
  rw [← spelled, String.ofList_toList]

/-- A run that ended in front of a text ends in front of every text that stops it. -/
theorem numberRun_stops {before : Char} {run rest behind : List Char} (ended : numberRun before (run ++ rest) = run)
    (stops : Stops rest behind) : numberRun before (run ++ behind) = run := by
  induction run generalizing before with
  | nil =>
    cases behind with
    | nil => rfl
    | cons c behind =>
      have other : ¬continuesNumber before c = true := by
        intro given
        rcases stops c rfl with ends | same
        · exact Bool.eq_false_iff.mp ends (isGraphic_of_continuesNumber given)
        · obtain ⟨more, rfl⟩ := List.head?_eq_some_iff.mp same
          rw [List.nil_append, numberRun, if_pos given] at ended
          cases ended
      rw [List.nil_append, numberRun, if_neg other]
  | cons c run ih =>
    rw [List.cons_append, numberRun] at ended
    split at ended
    · rename_i continues
      rw [List.cons_append, numberRun, if_pos continues, ih (List.cons.inj ended).2]
    · cases ended

theorem numberRun_digits {before : Char} {digits : List Char} (all : ∀ c ∈ digits, c.isDigit = true) :
    numberRun before digits = digits := by
  induction digits generalizing before with
  | nil => rfl
  | cons c digits ih =>
    obtain ⟨first, others⟩ := List.forall_mem_cons.mp all
    rw [numberRun, if_pos (by simp [continuesNumber, first]), ih others]

theorem decimal_digits (value : Nat) : ∀ c ∈ Nat.toDigits 10 value, c.isDigit = true :=
  fun _ member => Nat.isDigit_of_mem_toDigits (by decide) (by decide) member

theorem readDigits?_toDigits (value : Nat) : Decimal.readDigits? (Nat.toDigits 10 value) = some value := by
  have nonempty : (Nat.toDigits 10 value).isEmpty = false := by simp [Nat.toDigits_ne_nil]
  have digits : (Nat.toDigits 10 value).all Char.isDigit = true :=
    List.all_eq_true.mpr (decimal_digits value)
  rw [Decimal.readDigits?, nonempty, digits, Decimal.digitsValue, Nat.ofDigitChars_ten_toDigits]
  rfl

theorem isDigit_ne {c : Char} (digit : c.isDigit = true) :
    c ≠ '-' ∧ c ≠ '.' ∧ c ≠ '"' ∧ marksFloat c = false := by
  refine ⟨?_, ?_, ?_, ?_⟩
  · rintro rfl
    exact absurd digit (by decide)
  · rintro rfl
    exact absurd digit (by decide)
  · rintro rfl
    exact absurd digit (by decide)
  · simp only [marksFloat, isExponentMark, Bool.or_eq_false_iff, beq_eq_false_iff_ne]
    refine ⟨?_, ?_, ?_⟩
    all_goals
      rintro rfl
      exact absurd digit (by decide)

/-- The text of an integer is an optional sign and digits. -/
theorem integerText_eq (value : Int) :
    ∃ first tail, Decimal.integerText value = first :: tail ∧
      (first.isDigit = true ∨ first = '-' ∧ tail.head?.any Char.isDigit = true) ∧
      ∀ c ∈ tail, c.isDigit = true := by
  have digits := decimal_digits value.natAbs
  obtain ⟨first, tail, spelled⟩ := List.exists_cons_of_ne_nil (Nat.toDigits_ne_nil (b := 10) (n := value.natAbs))
  unfold Decimal.integerText
  rw [spelled] at digits ⊢
  obtain ⟨head, others⟩ := List.forall_mem_cons.mp digits
  split
  · exact ⟨'-', first :: tail, rfl, Or.inr ⟨rfl, head⟩, digits⟩
  · exact ⟨first, tail, rfl, Or.inl head, others⟩

/-- The decimal text of an integer is read as the integer. -/
theorem readInteger?_integerText (value : Int) :
    Decimal.readInteger? (Decimal.integerText value) = some value := by
  have read := readDigits?_toDigits value.natAbs
  unfold Decimal.integerText
  split
  · rw [List.singleton_append, Decimal.readInteger?, read]
    change some (-(value.natAbs : Int)) = some value
    congr 1
    omega
  · rw [List.nil_append, Decimal.readInteger?, read]
    · change some (value.natAbs : Int) = some value
      congr 1
      omega
    · intro rest signed
      have sign := decimal_digits value.natAbs '-' (by simp [signed])
      exact absurd sign (by decide)

theorem ofNumber?_integerText {value : Int} (range : InInt64 value) :
    ofNumber? (Decimal.integerText value) = some (.int value) := by
  have whole : (Decimal.integerText value).any marksFloat = false := by
    obtain ⟨first, tail, spelled, starts, digits⟩ := integerText_eq value
    rw [spelled, List.any_cons, Bool.or_eq_false_iff, List.any_eq_false]
    refine ⟨?_, fun c member => by simp [isDigit_ne (digits c member)]⟩
    rcases starts with digit | ⟨rfl, _⟩
    · exact (isDigit_ne digit).2.2.2
    · decide
  rw [ofNumber?, whole, readInteger?_integerText, Option.filter_some, fitsInt64_iff.mpr range]
  rfl

/-- A digit, or a sign with a digit behind it, starts no other token. -/
theorem scan_startsNumber {first : Char} {text : List Char} (starts : startsNumber first text = true) :
    scan (first :: text) = scanNumber first text := by
  have kind : isGraphic first = true ∧ ofMark? first = none ∧ first ≠ '.' ∧ first ≠ '"' := by
    simp only [startsNumber, Bool.or_eq_true, Bool.and_eq_true, beq_iff_eq] at starts
    rcases starts with digit | ⟨rfl, _⟩
    · obtain ⟨_, point, quote, _⟩ := isDigit_ne digit
      refine ⟨isGraphic_of_isDigit digit, ?_, point, quote⟩
      cases mark : ofMark? first with
      | none => rfl
      | some token => rw [(ofMark?_cases mark).2.2.1] at digit; cases digit
    · decide
  obtain ⟨graphic, unmarked, point, quote⟩ := kind
  rw [scan, dropIgnored_graphic graphic]
  simp only [unmarked, if_neg point, if_neg quote, starts, if_true]

theorem lexeme_int {value : Int} (range : InInt64 value) :
    Lexeme (.int value) (Decimal.integerText value) := by
  refine ⟨fun rest ends => ?_, by simp⟩
  have number := ofNumber?_integerText range
  obtain ⟨first, tail, spelled, starts, digits⟩ := integerText_eq value
  rw [spelled] at number ⊢
  have whole : numberRun first (tail ++ []) = tail := by rw [List.append_nil, numberRun_digits digits]
  have run : numberRun first (tail ++ rest) = tail := numberRun_stops whole (ends.stops [])
  have startsNumber : startsNumber first (tail ++ rest) = true := by
    rcases starts with digit | ⟨rfl, digit⟩
    · simp [startsNumber, digit]
    · cases tail with
      | nil => cases digit
      | cons second tail => simpa [startsNumber] using digit
  rw [List.cons_append, scan_startsNumber startsNumber]
  simp only [scanNumber, run, number, List.drop_left]

/-- Every character has a unit that means it. -/
theorem quotedUnit_escaped (c : Char) : QuotedUnit (escaped c) c := by
  unfold escaped
  split
  · exact .escape (by decide)
  · exact .escape (by decide)
  · exact .escape (by decide)
  · rename_i quote backslash newline
    exact .plain quote newline backslash

theorem quotedUnits_spelling (text rest : List Char) :
    QuotedUnits (text.flatMap escaped ++ '"' :: rest) text rest := by
  induction text with
  | nil => exact .closing rest
  | cons c text ih =>
    rw [List.flatMap_cons, List.append_assoc]
    exact .unit (quotedUnit_escaped c) ih

/-- A quote behind the opening one belongs to the empty string or to a block string. -/
theorem scanString_of_ne {c : Char} (plain : c ≠ '"') (rest : List Char) :
    scanString (c :: rest) = (scanQuoted (c :: rest)).map (.str ∘ String.ofList) := by
  unfold scanString
  split
  · rename_i same
    exact absurd (List.cons.inj same).1 plain
  · rename_i same
    exact absurd (List.cons.inj same).1 plain
  · rfl

theorem scanString_empty {rest : List Char} (plain : rest.head? ≠ some '"') :
    scanString ('"' :: rest) = .ok (.str "") rest := by
  unfold scanString
  split
  · rename_i same
    rw [(List.cons.inj same).2] at plain
    exact absurd rfl plain
  · rename_i same
    rw [(List.cons.inj same).2]
  · rename_i other
    exact absurd rfl (other rest)

theorem escaped_eq (c : Char) : ∃ first tail, escaped c = first :: tail ∧ first ≠ '"' := by
  unfold escaped
  split
  · exact ⟨_, _, rfl, by decide⟩
  · exact ⟨_, _, rfl, by decide⟩
  · exact ⟨_, _, rfl, by decide⟩
  · rename_i quote _ _
    exact ⟨c, [], rfl, quote⟩

/-- A text is read from its spelling. The empty one stands apart, for a third quote would start a block string. -/
theorem lexeme_str (text : String) : Lexeme (.str text) (spelling (.str text)) := by
  refine ⟨fun rest ends => ?_, by simp⟩
  have read : scanString (text.toList.flatMap escaped ++ '"' :: rest) = .ok (.str text) rest := by
    have quoted := (quotedUnits_spelling text.toList rest).read
    cases spelled : text.toList with
    | nil =>
      have empty : text = "" := String.toList_eq_nil_iff.mp spelled
      rw [empty]
      refine scanString_empty fun quote => ?_
      cases ends '"' quote
    | cons c tail =>
      -- No quote stands right behind the opening one, so that this is no block string.
      obtain ⟨first, more, escape, plain⟩ := escaped_eq c
      rw [spelled, List.flatMap_cons, escape, List.cons_append, List.cons_append] at quoted
      rw [List.flatMap_cons, escape, List.cons_append, List.cons_append, scanString_of_ne plain, quoted]
      change EStateM.Result.ok (Token.str (String.ofList (c :: tail))) rest = _
      rw [← spelled, String.ofList_toList]
  rw [spelling, List.cons_append, List.cons_append, List.append_assoc, scan, dropIgnored_graphic (by decide)]
  exact read

/-- Token by token, the spelling is a lexeme. -/
theorem lexeme_spelling {token : Token} (spellable : token.Spellable) : Lexeme token token.spelling := by
  cases token with
  | name word => exact lexeme_name spellable
  | str text => exact lexeme_str text
  | int value => exact lexeme_int spellable
  | float value => exact spellable.elim
  | eof => exact spellable.elim
  | spread => exact lexeme_spread
  | _ => exact lexeme_mark rfl (by simp)

/-- The spellings of tokens with a blank between each two. -/
def spelled (tokens : List Token) : List Char :=
  [' '].intercalate (tokens.map spelling)

theorem spelled_cons_cons (token next : Token) (tokens : List Token) :
    spelled (token :: next :: tokens) = [] ++ (token.spelling ++ ' ' :: spelled (next :: tokens)) := by
  simp [spelled, List.intercalate]

/-- Tokens with blanks between their spellings are written text. -/
theorem written_spelled {tokens : List Token} (spellable : ∀ token ∈ tokens, token.Spellable) :
    Written tokens (spelled tokens) := by
  match tokens with
  | [] => exact .nil (.gap .nil)
  | [token] =>
    have written : Written [token] ([] ++ (token.spelling ++ [])) :=
      .cons .nil (lexeme_spelling (spellable token (by simp))) .nil (.nil (.gap .nil))
    simpa [spelled] using written
  | token :: next :: tokens =>
    obtain ⟨first, others⟩ := List.forall_mem_cons.mp spellable
    have blank : isSeparator ' ' = true := by decide
    rw [spelled_cons_cons]
    have rest : Written (next :: tokens) ([' '] ++ spelled (next :: tokens)) :=
      (written_spelled others).behind (.separator blank .nil)
    exact .cons .nil (lexeme_spelling first) (endsToken_separator blank _) rest

end EntityLayout.Token
