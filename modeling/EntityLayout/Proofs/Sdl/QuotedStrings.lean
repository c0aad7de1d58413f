import EntityLayout.Proofs.Runs
import EntityLayout.Proofs.Sdl.Lexemes
import Mathlib.Algebra.Group.Nat.Defs
import Mathlib.Data.List.Induction

/-!
# Quoted strings

Up to its closing quote a quoted string consists of units: plain characters, escapes of one letter and code points.
What the reader answers is what the units mean (`scanQuoted_ok_iff`), and it looks at no character behind the closing
quote (`QuotedUnits.taken`). It fails at the first place where neither a unit nor the closing quote can be read, behind
the character that offends there (`scanQuoted_error_iff`): `Offends` says which one that is, and it does so at every
place of this kind (`broken_iff`). Both are told of tokens in `scan_quotedUnits`.
-/
namespace EntityLayout.Token

/-- The letters behind a backslash, each with the character that it stands for there. -/
def escapes : List (Char × Char) :=
  [('n', '\n'), ('t', '\t'), ('r', '\r'), ('b', '\x08'), ('f', '\x0c'), ('"', '"'), ('\\', '\\'), ('/', '/')]

theorem ofEscape?_eq_some_iff {letter meaning : Char} :
    ofEscape? letter = some meaning ↔ (letter, meaning) ∈ escapes := by
  constructor
  · intro known
    unfold ofEscape? at known
    split at known <;> cases known <;> decide
  · intro listed
    have all : ∀ entry ∈ escapes, ofEscape? entry.1 = some entry.2 := by decide
    exact all _ listed

/-- The hexadecimal digits with their values, the letters among them small or large. -/
def hexDigits : List (Char × Nat) :=
  ['0', '1', '2', '3', '4', '5', '6', '7', '8', '9', 'a', 'b', 'c', 'd', 'e', 'f'].zipIdx ++
    ['A', 'B', 'C', 'D', 'E', 'F'].zipIdx 10

/-- `HexNumber digits value`: the hexadecimal digits have the value. -/
inductive HexNumber : List Char → Nat → Prop
  | nil : HexNumber [] 0
  | digit {digits : List Char} {c : Char} {value last : Nat} :
      HexNumber digits value → (c, last) ∈ hexDigits → HexNumber (digits ++ [c]) (16 * value + last)

theorem isHexDigit_iff_toNat {c : Char} : isHexDigit c = true ↔
    (0x30 ≤ c.toNat ∧ c.toNat ≤ 0x39) ∨ (0x61 ≤ c.toNat ∧ c.toNat ≤ 0x66) ∨ 0x41 ≤ c.toNat ∧ c.toNat ≤ 0x46 := by
  simp only [isHexDigit, Bool.or_eq_true, Bool.and_eq_true, decide_eq_true_eq, Char.isDigit_iff_toNat, Char.le_def,
    UInt32.le_iff_toNat_le, or_assoc]
  exact Iff.rfl

theorem ascii_hexDigits : ∀ code : Fin 128, isHexDigit (Char.ofNat code) = true →
    (Char.ofNat code, hexDigitValue (Char.ofNat code)) ∈ hexDigits := by
  decide

theorem mem_hexDigits_iff {c : Char} {value : Nat} :
    (c, value) ∈ hexDigits ↔ isHexDigit c = true ∧ hexDigitValue c = value := by
  constructor
  · intro listed
    have all : ∀ entry ∈ hexDigits, isHexDigit entry.1 = true ∧ hexDigitValue entry.1 = entry.2 := by decide
    exact all _ listed
  · rintro ⟨digit, rfl⟩
    have ascii : c.toNat < 128 := by
      rw [isHexDigit_iff_toNat] at digit
      omega
    have listed := ascii_hexDigits ⟨c.toNat, ascii⟩
    rw [Char.ofNat_toNat] at listed
    exact listed digit

/-- The value of digits, each read behind the ones in front of it. -/
def hexValue (digits : List Char) : Nat :=
  digits.foldl (fun value c => 16 * value + hexDigitValue c) 0

theorem hexValue_concat (digits : List Char) (c : Char) :
    hexValue (digits ++ [c]) = 16 * hexValue digits + hexDigitValue c :=
  List.foldl_append

theorem hexNumber_iff {digits : List Char} {value : Nat} :
    HexNumber digits value ↔ digits.all isHexDigit = true ∧ hexValue digits = value := by
  constructor
  · intro number
    induction number with
    | nil => exact ⟨rfl, rfl⟩
    | digit _ listed ih =>
      obtain ⟨all, rfl⟩ := ih
      obtain ⟨digit, rfl⟩ := mem_hexDigits_iff.mp listed
      exact ⟨by simp [all, digit], hexValue_concat _ _⟩
  · rintro ⟨all, rfl⟩
    -- The last digit is the one that the value has been read behind.
    induction digits using List.reverseRecOn with
    | nil => exact .nil
    | append_singleton digits c ih =>
      rw [List.all_append, Bool.and_eq_true, List.all_cons, List.all_nil, Bool.and_true] at all
      rw [hexValue_concat]
      exact .digit (ih all.1) (mem_hexDigits_iff.mpr ⟨all.2, rfl⟩)

theorem toNat_ofNat {code : Nat} (valid : code.isValidChar) : (Char.ofNat code).toNat = code := by
  rw [Char.ofNat, dif_pos valid]
  rfl

/-- Digits stand for the character that has their value as its code point. -/
theorem ofHexDigits?_eq_some_iff {digits : List Char} {c : Char} :
    ofHexDigits? digits = some c ↔ HexNumber digits c.toNat := by
  have same : ofHexDigits? digits = if digits.all isHexDigit && (hexValue digits).isValidChar
      then some (Char.ofNat (hexValue digits)) else none := rfl
  rw [same, hexNumber_iff]
  constructor
  · intro known
    split at known
    · rename_i given
      rw [Bool.and_eq_true, decide_eq_true_eq] at given
      cases known
      exact ⟨given.1, (toNat_ofNat given.2).symm⟩
    · cases known
  · rintro ⟨all, code⟩
    have valid : (hexValue digits).isValidChar := by
      rw [code]
      exact c.valid
    rw [all, decide_eq_true valid, Bool.and_self, if_pos rfl, code, Char.ofNat_toNat]

/-- A unit of a quoted string, and the character that it stands for. The four digits of a code point are those of a
character, and so not of a surrogate. -/
inductive QuotedUnit : List Char → Char → Prop
  | plain {c : Char} : c ≠ '"' → c ≠ '\n' → c ≠ '\\' → QuotedUnit [c] c
  | escape {letter meaning : Char} : (letter, meaning) ∈ escapes → QuotedUnit ['\\', letter] meaning
  | codePoint {digits : List Char} {c : Char} :
      digits.length = 4 → HexNumber digits c.toNat → QuotedUnit ('\\' :: 'u' :: digits) c

/-- `QuotedUnits text meaning rest`: the units at the front of the text mean `meaning`, and behind them stands a
closing quote and then `rest`. -/
inductive QuotedUnits : List Char → List Char → List Char → Prop
  | closing (rest : List Char) : QuotedUnits ('"' :: rest) [] rest
  | unit {unit text meaning rest : List Char} {c : Char} :
      QuotedUnit unit c → QuotedUnits text meaning rest → QuotedUnits (unit ++ text) (c :: meaning) rest

theorem scanQuoted_closing (rest : List Char) : scanQuoted ('"' :: rest) = .ok [] rest := by
  rw [scanQuoted.eq_def]
  exact if_pos rfl

/-- A unit is read as its character, whatever stands behind it. -/
theorem QuotedUnit.scanQuoted_append {unit : List Char} {c : Char} (quoted : QuotedUnit unit c)
    (text : List Char) : scanQuoted (unit ++ text) = (scanQuoted text).map (c :: ·) := by
  cases quoted with
  | plain quote newline backslash =>
    rw [List.singleton_append, scanQuoted.eq_def]
    simp only [if_neg quote, if_neg newline, if_neg backslash]
  | @escape letter meaning listed =>
    have other : letter ≠ 'u' := by
      rintro rfl
      simp [escapes] at listed
    rw [List.cons_append, List.singleton_append, scanQuoted.eq_def]
    simp [ofEscape?_eq_some_iff.mpr listed]
  | @codePoint digits _ four number =>
    match digits, four with
    | [a, b, c, d], _ =>
      rw [scanQuoted.eq_def]
      simp [ofHexDigits?_eq_some_iff.mpr number]

/-- Neither a unit nor the closing quote can be read at the front of the text. -/
def Broken (text : List Char) : Prop :=
  text.head? ≠ some '"' ∧ ∀ unit c, QuotedUnit unit c → ¬unit <+: text

def AllHex (digits : List Char) : Prop :=
  ∀ c ∈ digits, ∃ value, (c, value) ∈ hexDigits

/-- `Offends text cause rest`: at the front of the text stands what breaks a quoted string off for the given cause,
and `rest` is what stands behind the offending character. An escape without its character, or without one of its four
digits, is no escape of that kind: it is the end of the text that offends there. -/
inductive Offends : List Char → LexError → List Char → Prop
  | ended : Offends [] .unterminatedString []
  | newline (rest : List Char) : Offends ('\n' :: rest) .unterminatedString rest
  | escapeEnded : Offends ['\\'] .unterminatedString []
  | codePointEnded {digits : List Char} : digits.length < 4 → AllHex digits →
      Offends ('\\' :: 'u' :: digits) .unterminatedString []
  | letter {c : Char} (rest : List Char) : c ≠ 'u' → (∀ meaning, (c, meaning) ∉ escapes) →
      Offends ('\\' :: c :: rest) (.invalidEscape (String.ofList [c])) rest
  | digit {digits : List Char} {c : Char} (rest : List Char) : digits.length < 4 → AllHex digits →
      (∀ value, (c, value) ∉ hexDigits) →
        Offends ('\\' :: 'u' :: (digits ++ c :: rest)) (.invalidEscape (String.ofList ('u' :: digits ++ [c]))) rest
  | surrogate {digits : List Char} {code : Nat} (rest : List Char) : digits.length = 4 → HexNumber digits code →
      0xd800 ≤ code → code ≤ 0xdfff →
        Offends ('\\' :: 'u' :: (digits ++ rest)) (.invalidEscape (String.ofList ('u' :: digits))) rest

theorem allHex_iff {digits : List Char} : AllHex digits ↔ digits.all isHexDigit = true := by
  simp [AllHex, mem_hexDigits_iff]

theorem not_hex_iff {c : Char} : (∀ value, (c, value) ∉ hexDigits) ↔ isHexDigit c = false := by
  simp [mem_hexDigits_iff]

/-- Four digits stay below 0x10000, so that only surrogates among their values are no code points. -/
theorem hexValue_lt {digits : List Char} (all : digits.all isHexDigit = true) :
    hexValue digits < 16 ^ digits.length := by
  induction digits using List.reverseRecOn with
  | nil => decide
  | append_singleton digits c ih =>
    rw [List.all_append, Bool.and_eq_true, List.all_cons, List.all_nil, Bool.and_true] at all
    have front := ih all.1
    have small : ∀ entry ∈ hexDigits, entry.2 < 16 := by decide
    have last : hexDigitValue c < 16 := small _ (mem_hexDigits_iff.mpr ⟨all.2, rfl⟩)
    rw [hexValue_concat, List.length_append, List.length_singleton, Nat.pow_succ]
    omega

/-- The text does not start with the four digits of a character. -/
def NoCodePoint (text : List Char) : Prop :=
  ∀ (digits : List Char) (c : Char), digits.length = 4 → HexNumber digits c.toNat → ¬digits <+: text

theorem noCodePoint_few {digits : List Char} (few : digits.length < 4) (behind : List Char)
    (stops : ∀ c ∈ behind.head?, isHexDigit c = false) : NoCodePoint (digits ++ behind) := by
  rintro four c length number ⟨rest, same⟩
  -- The fourth digit would be the character that is none, or stand behind it.
  have inside : digits <+: four := by
    refine List.prefix_of_prefix_length_le (List.prefix_append digits behind) ?_ (by omega)
    exact ⟨rest, same⟩
  obtain ⟨more, rfl⟩ := inside
  rw [List.append_assoc, List.append_cancel_left_eq] at same
  cases more with
  | nil =>
    rw [List.append_nil] at length
    omega
  | cons c more =>
    have stop := stops c (by simp [← same])
    have digit := (hexNumber_iff.mp number).1
    simp [stop] at digit

theorem noCodePoint_surrogate {digits : List Char} {code : Nat} (rest : List Char) (length : digits.length = 4)
    (number : HexNumber digits code) (low : 0xd800 ≤ code) (high : code ≤ 0xdfff) : NoCodePoint (digits ++ rest) := by
  intro four c four_length other inside
  have same : four = digits :=
    (List.prefix_of_prefix_length_le inside (List.prefix_append digits rest) (by omega)).eq_of_length (by omega)
  subst same
  have value := (hexNumber_iff.mp number).2.symm.trans (hexNumber_iff.mp other).2
  have valid := c.valid
  change c.toNat.isValidChar at valid
  omega

theorem scanQuoted_codePoint {text : List Char} (none : NoCodePoint text) :
    scanQuoted ('\\' :: 'u' :: text) = scanBadCodePoint text := by
  rw [scanQuoted.eq_def]
  match text with
  | [] | [_] | [_, _] | [_, _, _] => rfl
  | a :: b :: c :: d :: rest =>
    cases known : ofHexDigits? [a, b, c, d] with
    | none => simp [known]
    | some meaning => exact absurd ⟨rest, rfl⟩ (none _ _ rfl (ofHexDigits?_eq_some_iff.mp known))

/-- Where the text ends among the digits, the string is unterminated rather than the escape invalid. -/
theorem scanBadCodePoint_ended {α : Type} {digits : List Char} (few : digits.length < 4) (all : AllHex digits) :
    (scanBadCodePoint digits : Scanned α) = .error .unterminatedString [] := by
  have front : ((digits ++ []).take 4).takeWhile isHexDigit = digits :=
    takeWhile_take_of_run (allHex_iff.mp all) (Or.inr ⟨few, by simp⟩)
  rw [List.append_nil] at front
  rw [scanBadCodePoint]
  simp [front, few]

/-- The first character that is no digit ends the escape and is reported with it. -/
theorem scanBadCodePoint_digit {α : Type} {digits : List Char} {c : Char} (rest : List Char) (few : digits.length < 4)
    (all : AllHex digits) (other : isHexDigit c = false) : (scanBadCodePoint (digits ++ c :: rest) : Scanned α) =
      .error (.invalidEscape (String.ofList ('u' :: digits ++ [c]))) rest := by
  have stops : ∀ d ∈ (c :: rest).head?, isHexDigit d = false := by simpa using other
  have front := takeWhile_take_of_run (allHex_iff.mp all) (Or.inr ⟨few, stops⟩)
  have longer : ¬(digits ++ c :: rest).length < digits.length + 1 := by simp
  have taken : (digits ++ c :: rest).take (digits.length + 1) = digits ++ [c] := by
    rw [List.append_cons]
    exact List.take_left' (by simp)
  have left : (digits ++ c :: rest).drop (digits.length + 1) = rest := by
    rw [List.append_cons]
    exact List.drop_left' (by simp)
  rw [scanBadCodePoint]
  simp only [front, longer, decide_false, Bool.and_false, Bool.false_eq_true, if_false, Nat.min_eq_left few, taken,
    left, List.cons_append]

theorem scanBadCodePoint_four {α : Type} {digits : List Char} (rest : List Char) (length : digits.length = 4)
    (all : AllHex digits) : (scanBadCodePoint (digits ++ rest) : Scanned α) =
      .error (.invalidEscape (String.ofList ('u' :: digits))) rest := by
  have front : ((digits ++ rest).take 4).takeWhile isHexDigit = digits :=
    takeWhile_take_of_run (allHex_iff.mp all) (Or.inl length)
  have taken : (digits ++ rest).take 4 = digits := by rw [← length, List.take_left]
  have left : (digits ++ rest).drop 4 = rest := by rw [← length, List.drop_left]
  rw [scanBadCodePoint]
  simp only [front]
  simp only [length, Nat.lt_irrefl, decide_false, Bool.false_and, Bool.false_eq_true, if_false,
    Nat.min_eq_right (Nat.le_succ 4), taken, left]

/-- By cases on what offends, the reader fails for the same cause and behind the same character. -/
theorem Offends.read {text rest : List Char} {cause : LexError} (offends : Offends text cause rest) :
    scanQuoted text = .error cause rest := by
  cases offends with
  | ended => rfl
  | newline rest =>
    rw [scanQuoted.eq_def]
    rfl
  | escapeEnded => rfl
  | @codePointEnded digits few all =>
    have none := noCodePoint_few few [] (by simp)
    rw [List.append_nil] at none
    rw [scanQuoted_codePoint none, scanBadCodePoint_ended few all]
  | @letter c rest other unlisted =>
    have unknown : ofEscape? c = none := by
      rw [Option.eq_none_iff_forall_ne_some]
      exact fun meaning known => unlisted meaning (ofEscape?_eq_some_iff.mp known)
    rw [scanQuoted.eq_def]
    simp [unknown]
  | @digit digits c rest few all other =>
    have stop := not_hex_iff.mp other
    rw [scanQuoted_codePoint (noCodePoint_few few (c :: rest) (by simpa using stop)),
      scanBadCodePoint_digit rest few all stop]
  | @surrogate digits code rest length number low high =>
    have all := allHex_iff.mpr (hexNumber_iff.mp number).1
    rw [scanQuoted_codePoint (noCodePoint_surrogate rest length number low high), scanBadCodePoint_four rest length all]

/-- Behind `\\u` stands a code point, or it is the fault of what stands there. -/
theorem codePoint_cases (text : List Char) :
    (∃ (digits : List Char) (c : Char) (behind : List Char),
        digits.length = 4 ∧ HexNumber digits c.toNat ∧ text = digits ++ behind) ∨
      ∃ cause rest, Offends ('\\' :: 'u' :: text) cause rest := by
  obtain ⟨digits, behind, rfl, all, four | ⟨few, stops⟩⟩ := limited_run isHexDigit 4 text
  · have number : HexNumber digits (hexValue digits) := hexNumber_iff.mpr ⟨all, rfl⟩
    by_cases valid : (hexValue digits).isValidChar
    · rw [← toNat_ofNat valid] at number
      exact Or.inl ⟨digits, _, behind, four, number, rfl⟩
    · have small := hexValue_lt all
      rw [four] at small
      exact Or.inr ⟨_, behind, .surrogate behind four number (by omega) (by omega)⟩
  · rw [← allHex_iff] at all
    cases behind with
    | nil =>
      rw [List.append_nil]
      exact Or.inr ⟨_, [], .codePointEnded few all⟩
    | cons c rest => exact Or.inr ⟨_, rest, .digit rest few all (not_hex_iff.mpr (stops c rfl))⟩

/-- At the front of a text stands the closing quote, a unit, or what offends. -/
theorem front_cases (text : List Char) :
    (∃ rest, text = '"' :: rest) ∨ (∃ unit c behind, QuotedUnit unit c ∧ text = unit ++ behind) ∨
      ∃ cause rest, Offends text cause rest := by
  cases text with
  | nil => exact Or.inr (Or.inr ⟨_, [], .ended⟩)
  | cons c text =>
    by_cases quote : c = '"'
    · exact Or.inl ⟨text, by rw [quote]⟩
    right
    by_cases newline : c = '\n'
    · subst newline
      exact Or.inr ⟨_, text, .newline text⟩
    by_cases backslash : c = '\\'
    · subst backslash
      cases text with
      | nil => exact Or.inr ⟨_, [], .escapeEnded⟩
      | cons letter text =>
        by_cases codePoint : letter = 'u'
        · subst codePoint
          rcases codePoint_cases text with ⟨digits, c, behind, four, number, rfl⟩ | offends
          · exact Or.inl ⟨_, c, behind, .codePoint four number, rfl⟩
          · exact Or.inr offends
        · by_cases listed : ∃ meaning, (letter, meaning) ∈ escapes
          · obtain ⟨meaning, listed⟩ := listed
            exact Or.inl ⟨_, meaning, text, .escape listed, rfl⟩
          · exact Or.inr ⟨_, text, .letter text codePoint (not_exists.mp listed)⟩
    · exact Or.inl ⟨_, c, text, .plain quote newline backslash, rfl⟩

/-- Neither a letter that stands for a character nor a code point is behind the backslash. -/
theorem broken_escape {text : List Char} (unlisted : ∀ letter ∈ text.head?, ∀ meaning, (letter, meaning) ∉ escapes)
    (none : ∀ behind, text = 'u' :: behind → NoCodePoint behind) : Broken ('\\' :: text) := by
  refine ⟨by simp, ?_⟩
  rintro _ c (@⟨c, _, _, backslash⟩ | @⟨letter, _, listed⟩ | @⟨digits, _, four, number⟩) ⟨behind, same⟩
  · exact backslash (List.cons.inj same).1
  · obtain ⟨_, rfl⟩ := List.cons.inj same
    exact unlisted letter rfl c listed
  · obtain ⟨_, rfl⟩ := List.cons.inj same
    exact none (digits ++ behind) rfl digits c four number (List.prefix_append digits behind)

/-- Where something offends, neither a unit nor the closing quote can be read. -/
theorem Offends.broken {text rest : List Char} {cause : LexError} (offends : Offends text cause rest) :
    Broken text := by
  have codePoint : ∀ meaning, ('u', meaning) ∉ escapes := by simp [escapes]
  cases offends with
  | ended =>
    refine ⟨by simp, fun unit c quoted starts => ?_⟩
    rw [List.prefix_nil.mp starts] at quoted
    cases quoted
  | newline rest =>
    refine ⟨by simp, ?_⟩
    rintro _ c (@⟨c, _, newline, _⟩ | _ | _) ⟨behind, same⟩
    · exact newline (List.cons.inj same).1
    · exact absurd (List.cons.inj same).1 (by decide)
    · exact absurd (List.cons.inj same).1 (by decide)
  | escapeEnded => exact broken_escape (by simp) (by simp)
  | codePointEnded few all =>
    refine broken_escape (by simpa using codePoint) ?_
    rintro _ ⟨⟩
    simpa using noCodePoint_few few [] (by simp)
  | letter rest other unlisted =>
    refine broken_escape (by simpa using unlisted) ?_
    rintro _ ⟨⟩
    exact absurd rfl other
  | @digit _ c rest few all other =>
    refine broken_escape (by simpa using codePoint) ?_
    rintro _ ⟨⟩
    exact noCodePoint_few few (c :: rest) (by simpa using not_hex_iff.mp other)
  | surrogate rest length number low high =>
    refine broken_escape (by simpa using codePoint) ?_
    rintro _ ⟨⟩
    exact noCodePoint_surrogate rest length number low high

/-- A place is broken exactly when something offends there, so no failure is left out. -/
theorem broken_iff {text : List Char} : Broken text ↔ ∃ cause rest, Offends text cause rest := by
  constructor
  · rintro ⟨quote, none⟩
    rcases front_cases text with ⟨rest, rfl⟩ | ⟨unit, c, behind, quoted, rfl⟩ | offends
    · exact absurd rfl quote
    · exact absurd (List.prefix_append unit behind) (none unit c quoted)
    · exact offends
  · rintro ⟨cause, rest, offends⟩
    exact offends.broken

/-- Units up to a closing quote are read as what they mean. -/
theorem QuotedUnits.read {text meaning rest : List Char} (units : QuotedUnits text meaning rest) :
    scanQuoted text = .ok meaning rest := by
  induction units with
  | closing rest => exact scanQuoted_closing rest
  | unit quoted _ ih =>
    rw [quoted.scanQuoted_append, ih]
    rfl

/-- `QuotedUpTo place text`: in front of the place, the text consists of units. -/
inductive QuotedUpTo (place : List Char) : List Char → Prop
  | here : QuotedUpTo place place
  | unit {unit text : List Char} {c : Char} :
      QuotedUnit unit c → QuotedUpTo place text → QuotedUpTo place (unit ++ text)

/-- Units in front of a broken place are read, and the reader fails at what offends there. -/
theorem QuotedUpTo.read {place text rest : List Char} {cause : LexError} (upTo : QuotedUpTo place text)
    (offends : Offends place cause rest) : scanQuoted text = .error cause rest := by
  induction upTo with
  | here => exact offends.read
  | unit quoted _ ih =>
    rw [quoted.scanQuoted_append, ih]
    rfl

theorem QuotedUnit.length_pos {unit : List Char} {c : Char} (quoted : QuotedUnit unit c) : 0 < unit.length := by
  cases quoted <;> exact Nat.zero_lt_succ _

/-- By induction on the length of the text: units are taken off its front up to a closing quote or to what offends. -/
theorem quoted_cases (text : List Char) :
    (∃ meaning rest, QuotedUnits text meaning rest) ∨
      ∃ place cause rest, QuotedUpTo place text ∧ Offends place cause rest := by
  induction length : text.length using Nat.strong_induction_on generalizing text with
  | _ count ih =>
    subst length
    rcases front_cases text with ⟨rest, rfl⟩ | ⟨unit, c, behind, quoted, rfl⟩ | ⟨cause, rest, offends⟩
    · exact Or.inl ⟨[], rest, .closing rest⟩
    · have positive := quoted.length_pos
      rcases ih behind.length (by rw [List.length_append]; omega) behind rfl with
        ⟨meaning, rest, units⟩ | ⟨place, cause, rest, upTo, offends⟩
      · exact Or.inl ⟨c :: meaning, rest, .unit quoted units⟩
      · exact Or.inr ⟨place, cause, rest, .unit quoted upTo, offends⟩
    · exact Or.inr ⟨text, cause, rest, .here, offends⟩

/-- A quoted string is read exactly when it consists of units up to its closing quote. -/
theorem scanQuoted_ok_iff {text meaning rest : List Char} :
    scanQuoted text = .ok meaning rest ↔ QuotedUnits text meaning rest := by
  constructor
  · intro read
    rcases quoted_cases text with ⟨_, _, units⟩ | ⟨_, _, _, upTo, offends⟩
    · cases units.read.symm.trans read
      exact units
    · cases (upTo.read offends).symm.trans read
  · exact QuotedUnits.read

/-- It fails exactly where units lead up to a place at which something offends. -/
theorem scanQuoted_error_iff {text rest : List Char} {cause : LexError} :
    scanQuoted text = .error cause rest ↔ ∃ place, QuotedUpTo place text ∧ Offends place cause rest := by
  constructor
  · intro read
    rcases quoted_cases text with ⟨_, _, units⟩ | ⟨place, _, _, upTo, offends⟩
    · cases units.read.symm.trans read
    · cases (upTo.read offends).symm.trans read
      exact ⟨place, upTo, offends⟩
  · rintro ⟨place, upTo, offends⟩
    exact upTo.read offends

/-- Whatever stands behind the closing quote, the units in front of it mean the same. -/
theorem QuotedUnits.taken {text meaning rest : List Char} (units : QuotedUnits text meaning rest) :
    ∃ taken, text = taken ++ rest ∧ ∀ behind, QuotedUnits (taken ++ behind) meaning behind := by
  induction units with
  | closing rest => exact ⟨['"'], rfl, .closing⟩
  | @unit unit _ _ _ _ quoted _ ih =>
    obtain ⟨taken, rfl, others⟩ := ih
    refine ⟨unit ++ taken, (List.append_assoc _ _ _).symm, fun behind => ?_⟩
    rw [List.append_assoc]
    exact .unit quoted (others behind)

/-- Only two quotes behind the first one open a block string; one alone closes the empty string. -/
theorem scanString_single {text : List Char} (single : ¬quotes 2 <+: text) :
    scanString text = (scanQuoted text).map (.str ∘ String.ofList) := by
  unfold scanString
  split
  · exact absurd (List.prefix_append (quotes 2) _) single
  · rw [scanQuoted_closing]
    rfl
  · rfl

/-- Behind an opening quote that opens no block string, the token is what the units up to the closing quote mean, and
what is behind this quote is left unread. Otherwise the token breaks off where the units do, for the cause that is
found there, and what is behind the offending character is left unread. -/
theorem scan_quotedUnits {gap text : List Char} (ignored : Gap gap) (single : ¬quotes 2 <+: text) :
    (∀ token rest, scan (gap ++ '"' :: text) = .ok token rest ↔
      ∃ meaning, QuotedUnits text meaning rest ∧ token = .str (String.ofList meaning)) ∧
    (∀ cause rest, scan (gap ++ '"' :: text) = .error cause rest ↔
      ∃ place, QuotedUpTo place text ∧ Offends place cause rest) ∧
    ∀ place, Broken place ↔ ∃ cause rest, Offends place cause rest := by
  have quoted : scan (gap ++ '"' :: text) = (scanQuoted text).map (.str ∘ String.ofList) := by
    rw [scan_gap ignored, scan, dropIgnored_graphic (by decide), ← scanString_single single]
    rfl
  refine ⟨fun token rest => ?_, fun cause rest => ?_, fun place => broken_iff⟩
  · rw [quoted, Scanned.map_ok_iff]
    simp only [scanQuoted_ok_iff, Function.comp_apply, eq_comm (a := token)]
  · rw [quoted, Scanned.map_error_iff, scanQuoted_error_iff]

/-- A small and a capital letter in a code point, and an escape. -/
def accentedText : List Char :=
  ['\\', 'u', '0', '0', 'e', 'A', '\\', '/', '"', 'b']

/-- An escape, and the digits of a surrogate. -/
def surrogateText : List Char :=
  ['\\', 'n', '\\', 'u', 'd', '8', 'f', 'F', '"']

/-- A code point and an escaped slash up to the closing quote, and a surrogate behind an escape. -/
theorem scan_quotedUnits_texts :
    Gap [','] ∧ ¬quotes 2 <+: accentedText ∧ ¬quotes 2 <+: surrogateText ∧
      scan ([','] ++ '"' :: accentedText) = .ok (.str "ê/") ['b'] ∧
      scan ([','] ++ '"' :: surrogateText) = .error (.invalidEscape "ud8fF") ['"'] := by
  have gap : Gap [','] := .separator (by decide) .nil
  have accented : ¬quotes 2 <+: accentedText := by decide
  have surrogate : ¬quotes 2 <+: surrogateText := by decide
  have units : QuotedUnits accentedText ['ê', '/'] ['b'] := by
    have slash : QuotedUnits (['\\', '/'] ++ ['"', 'b']) ['/'] ['b'] := .unit (.escape (by decide)) (.closing ['b'])
    have number : HexNumber ['0', '0', 'e', 'A'] 'ê'.toNat := hexNumber_iff.mpr (by decide)
    exact .unit (.codePoint rfl number) slash
  have upTo : QuotedUpTo ['\\', 'u', 'd', '8', 'f', 'F', '"'] surrogateText := by
    have escape : QuotedUnit ['\\', 'n'] '\n' := .escape (by decide)
    exact .unit escape .here
  have offends : Offends ['\\', 'u', 'd', '8', 'f', 'F', '"'] (.invalidEscape "ud8fF") ['"'] := by
    have number : HexNumber ['d', '8', 'f', 'F'] 0xd8ff := hexNumber_iff.mpr (by decide)
    exact .surrogate ['"'] rfl number (by decide) (by decide)
  refine ⟨gap, accented, surrogate, ?_, ?_⟩
  · exact ((scan_quotedUnits gap accented).1 _ _).mpr ⟨_, units, rfl⟩
  · exact ((scan_quotedUnits gap surrogate).2.1 _ _).mpr ⟨_, upTo, offends⟩

end EntityLayout.Token
