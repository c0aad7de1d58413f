import EntityLayout.Proofs.Sdl.Spelling
import Mathlib.Data.List.Forall2

/-!
# Tokens between separators

A text is laid out from lexemes and any separators that keep them apart: blanks, commas, byte order marks and
comments in every order. Reading it undoes this, whatever the separators are (`written_formatted`, and for spelled
tokens `tokenize_laidOut`). A comment that no line end closes is a separator only behind the last token.
-/
namespace EntityLayout.Token

/-- The text of lexemes, each of them given with the separator behind it. The separator `lead` stands in front. -/
def formatted (lead : List Char) : List (List Char × List Char) → List Char
  | [] => lead
  | (lexeme, behind) :: words => lead ++ (lexeme ++ formatted behind words)

/-- The separators of lexemes are gaps, and empty ones stand only in front of the first lexeme and behind the last. -/
def Spaced (lead : List Char) : List (List Char × List Char) → Prop
  | [] => Trail lead
  | (_, behind) :: words => Gap lead ∧ (words ≠ [] → behind ≠ []) ∧ Spaced behind words

/-- The text of tokens, each of them given with the separator behind it. The separator `lead` stands in front. -/
def laidOut (lead : List Char) : List (Token × List Char) → List Char
  | [] => lead
  | (token, behind) :: words => lead ++ (token.spelling ++ laidOut behind words)

/-- The separators are gaps, and empty ones stand only in front of the first token and behind the last. -/
def Separated (lead : List Char) : List (Token × List Char) → Prop
  | [] => Trail lead
  | (_, behind) :: words => Gap lead ∧ (words ≠ [] → behind ≠ []) ∧ Separated behind words

theorem endsToken_comment (rest : List Char) : EndsToken ('#' :: rest) := by
  intro c member
  obtain rfl := Option.some.inj member
  decide

/-- A token ends where a gap follows, unless the gap is empty and what stands behind it goes on. -/
theorem Gap.endsToken {gap rest : List Char} (ignored : Gap gap) (ends : gap = [] → EndsToken rest) :
    EndsToken (gap ++ rest) := by
  cases ignored with
  | nil => exact ends rfl
  | separator separates _ => exact endsToken_separator separates _
  | comment _ _ _ => exact endsToken_comment _

theorem Trail.endsToken {text : List Char} (ignored : Trail text) : EndsToken text := by
  cases ignored with
  | gap gap =>
    have ends := gap.endsToken fun _ => EndsToken.nil
    rwa [List.append_nil] at ends
  | comment gap _ => exact gap.endsToken fun _ => endsToken_comment _

/-- What stands behind a lexeme starts with a gap, or is nothing at all. -/
theorem endsToken_formatted {lead : List Char} {words : List (List Char × List Char)}
    (spaced : Spaced lead words) (apart : words ≠ [] → lead ≠ []) : EndsToken (formatted lead words) := by
  cases words with
  | nil => exact spaced.endsToken
  | cons word words => exact spaced.1.endsToken fun empty => absurd empty (apart (List.cons_ne_nil _ _))

/-- Lexemes with gaps between them are written text, by induction over the words. -/
theorem written_formatted {tokens : List Token} {lead : List Char} {words : List (List Char × List Char)}
    (spaced : Spaced lead words) (lexemes : List.Forall₂ Lexeme tokens (words.map Prod.fst)) :
    Written tokens (formatted lead words) := by
  induction words generalizing lead tokens with
  | nil =>
    cases lexemes
    exact .nil spaced
  | cons word words ih =>
    obtain ⟨gap, apart, others⟩ := spaced
    cases lexemes with
    | cons first lexemes => exact .cons gap first (endsToken_formatted others apart) (ih others lexemes)

/-- A token with its lexeme in its place. -/
def spelledWord (word : Token × List Char) : List Char × List Char :=
  (word.1.spelling, word.2)

theorem laidOut_eq (lead : List Char) (words : List (Token × List Char)) :
    laidOut lead words = formatted lead (words.map spelledWord) := by
  induction words generalizing lead with
  | nil => rfl
  | cons word words ih =>
    rw [laidOut, ih]
    rfl

/-- Separators that keep tokens apart are gaps between their spellings. -/
theorem Separated.spaced {lead : List Char} {words : List (Token × List Char)} (separated : Separated lead words) :
    Spaced lead (words.map spelledWord) := by
  induction words generalizing lead with
  | nil => exact separated
  | cons word words ih =>
    obtain ⟨gap, apart, others⟩ := separated
    exact ⟨gap, fun more => apart (mt List.map_eq_nil_iff.mpr more), ih others⟩

theorem written_laidOut {words : List (Token × List Char)} {lead : List Char}
    (separated : Separated lead words) (spellable : ∀ word ∈ words, word.1.Spellable) :
    Written (words.map Prod.fst) (laidOut lead words) := by
  rw [laidOut_eq]
  apply written_formatted separated.spaced
  rw [List.map_map, List.forall₂_map_left_iff, List.forall₂_map_right_iff, List.forall₂_same]
  exact fun word member => lexeme_spelling (spellable word member)

/-- Spelled tokens are read from their text again, whatever separators keep them apart. -/
theorem tokenize_laidOut (lead : List Char) (words : List (Token × List Char))
    (separated : Separated lead words) (spellable : ∀ word ∈ words, word.1.Spellable) :
    tokenize (String.ofList (laidOut lead words)) = .ok (words.map Prod.fst ++ [.eof]) := by
  apply tokenize_written
  rw [String.toList_ofList]
  exact written_laidOut separated spellable

/-- An empty string in front of a comment, a string with every escape, the least integer, and a comment that the
end of the text ends. -/
def mixedWords : List (Token × List Char) :=
  [(.str "", ['#', '"', '\n']), (.str "a\\\"\n#", [',']), (.int (-9223372036854775808), ['\ufeff', ' ']),
    (.spread, ['\u2028']), (.name "_x1", [' ', '#', 'e'])]

/-- Empty separators at the front, a comment that starts with a quote, and a last comment that nothing ends. -/
theorem tokenize_laidOut_mixed :
    Separated [] mixedWords ∧ (∀ word ∈ mixedWords, word.1.Spellable) ∧
      tokenize (String.ofList (laidOut [] mixedWords)) =
        .ok [.str "", .str "a\\\"\n#", .int (-9223372036854775808), .spread, .name "_x1", .eof] := by
  have separator {c : Char} (separates : isSeparator c = true) : Gap [c] := .separator separates .nil
  have comment : Gap ('#' :: ['"'] ++ ['\n']) := .comment (by simp [InLine]) (Or.inl rfl) .nil
  have last : Trail ([' '] ++ '#' :: ['e']) := .comment (separator (by decide)) (by simp [InLine])
  have separated : Separated [] mixedWords := by
    refine ⟨.nil, by simp, comment, by simp, separator (by decide), by simp, ?_, by simp, separator (by decide),
      by simp, last⟩
    exact .separator (by decide) (separator (by decide))
  have spellable : ∀ word ∈ mixedWords, word.1.Spellable := by
    simp only [mixedWords, List.forall_mem_cons]
    exact ⟨trivial, trivial, ⟨by decide, by decide⟩, trivial, (by decide : IsName "_x1"), by simp⟩
  exact ⟨separated, spellable, tokenize_laidOut [] mixedWords separated spellable⟩

end EntityLayout.Token
