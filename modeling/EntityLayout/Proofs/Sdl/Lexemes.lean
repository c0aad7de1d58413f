import EntityLayout.Sdl.Token.Scan
import Mathlib.Data.List.TakeWhile

/-!
# Texts of tokens

A text consists of lexemes, which stand for one token each, and of gaps between them that mean nothing. Where
every lexeme ends at a gap, the tokens of a text are those of its lexemes (`tokenize_written`). Whatever the
text, its tokens have names of the right form and integers of 64 bits (`tokenize_wellFormed`).
-/
namespace EntityLayout

/-- A letter or an underscore, and then letters, digits and underscores. -/
def IsName (word : String) : Prop :=
  ∃ first rest, word.toList = first :: rest ∧ (first.isAlpha = true ∨ first = '_') ∧
    ∀ c ∈ rest, c.isAlphanum = true ∨ c = '_'

def InInt64 (value : Int) : Prop :=
  -Int.pow 2 63 ≤ value ∧ value < Int.pow 2 63

theorem Scanned.map_ok_iff {α β : Type} {change : α → β} {outcome : Scanned α} {result : β} {rest : List Char} :
    outcome.map change = .ok result rest ↔ ∃ value, outcome = .ok value rest ∧ change value = result := by
  cases outcome with
  | ok value left =>
    constructor
    · rintro ⟨⟩
      exact ⟨value, rfl, rfl⟩
    · rintro ⟨_, ⟨⟩, rfl⟩
      rfl
  | error _ _ => exact ⟨nofun, fun ⟨_, failed, _⟩ => nomatch failed⟩

theorem Scanned.map_error_iff {α β : Type} {change : α → β} {outcome : Scanned α} {cause : LexError}
    {rest : List Char} : outcome.map change = .error cause rest ↔ outcome = .error cause rest := by
  cases outcome with
  | ok _ _ => exact ⟨nofun, nofun⟩
  | error _ _ => exact ⟨fun failed => by cases failed; rfl, fun failed => by cases failed; rfl⟩

namespace Token

/-- The visible characters of ASCII that neither separate tokens nor start a comment. Every token starts with
one of them, and a name or a number consists of them. -/
def isGraphic (c : Char) : Bool :=
  0x21 ≤ c.toNat && c.toNat ≤ 0x7e && c != ',' && c != '#'

theorem isSeparator_of_isGraphic {c : Char} (graphic : isGraphic c = true) : isSeparator c = false := by
  simp only [isGraphic, Bool.and_eq_true, decide_eq_true_eq, bne_iff_ne] at graphic
  obtain ⟨⟨⟨low, high⟩, comma⟩, _⟩ := graphic
  have visible : isBlank c = false := by
    simp only [isBlank, inClass, blankRuns, CodeRun.contains, List.any_cons, List.any_nil, Bool.or_false,
      Bool.or_eq_false_iff, Bool.and_eq_false_imp, Bool.and_eq_true, decide_eq_true_eq, beq_eq_false_iff_ne,
      ne_eq, and_imp]
    omega
  have mark : c ≠ '\ufeff' := by
    rintro rfl
    exact absurd high (by decide)
  simp [isSeparator, visible, comma, mark]

theorem isAlpha_iff_toNat {c : Char} :
    c.isAlpha = true ↔ 0x41 ≤ c.toNat ∧ c.toNat ≤ 0x5a ∨ 0x61 ≤ c.toNat ∧ c.toNat ≤ 0x7a := by
  change (decide (c.val ≥ 0x41 ∧ c.val ≤ 0x5a) || (decide (c.val ≥ 0x61) && decide (c.val ≤ 0x7a))) = true ↔ _
  simp only [Bool.or_eq_true, Bool.and_eq_true, decide_eq_true_eq, ge_iff_le, UInt32.le_iff_toNat_le]
  exact Iff.rfl

theorem continuesName_iff {c : Char} : continuesName c = true ↔ c.isAlphanum = true ∨ c = '_' := by
  simp [continuesName]

theorem isAlphanum_iff {c : Char} : c.isAlphanum = true ↔ c.isAlpha = true ∨ c.isDigit = true :=
  Bool.or_eq_true_iff

theorem isGraphic_of_continuesName {c : Char} (continues : continuesName c = true) : isGraphic c = true := by
  have range : 0x30 ≤ c.toNat ∧ c.toNat ≤ 0x7a := by
    rw [continuesName_iff, isAlphanum_iff, isAlpha_iff_toNat, Char.isDigit_iff_toNat] at continues
    rcases continues with (letter | digit) | rfl
    · omega
    · change 0x30 ≤ c.toNat ∧ c.toNat ≤ 0x39 at digit
      omega
    · decide
  have comma : c ≠ ',' := by
    rintro rfl
    exact absurd range.1 (by decide)
  have comment : c ≠ '#' := by
    rintro rfl
    exact absurd range.1 (by decide)
  simp only [isGraphic, Bool.and_eq_true, decide_eq_true_eq, bne_iff_ne]
  exact ⟨⟨⟨by omega, by omega⟩, comma⟩, comment⟩

theorem isGraphic_of_isDigit {c : Char} (digit : c.isDigit = true) : isGraphic c = true :=
  isGraphic_of_continuesName (continuesName_iff.mpr (Or.inl (isAlphanum_iff.mpr (Or.inr digit))))

theorem isGraphic_of_continuesNumber {before c : Char} (continues : continuesNumber before c = true) :
    isGraphic c = true := by
  simp only [continuesNumber, marksFloat, isExponentMark, Bool.or_eq_true, Bool.and_eq_true, beq_iff_eq]
    at continues
  rcases continues with (digit | rfl | rfl | rfl) | ⟨rfl | rfl, _⟩
  · exact isGraphic_of_isDigit digit
  all_goals decide

/-- A mark is a token of its own, and no other token starts with it. -/
theorem ofMark?_cases {c : Char} {token : Token} (mark : ofMark? c = some token) :
    isGraphic c = true ∧ startsName c = false ∧ c.isDigit = false ∧ c ≠ '-' ∧ c ≠ '.' ∧ c ≠ '"' := by
  unfold ofMark? at mark
  split at mark
  all_goals first | decide | cases mark

/-- No line ends in the text. -/
def InLine (text : List Char) : Prop :=
  ∀ c ∈ text, c ≠ '\n' ∧ c ≠ '\r'

/-- Separators, and comments up to the ends of their lines. -/
inductive Gap : List Char → Prop
  | nil : Gap []
  | separator {c : Char} {rest : List Char} : isSeparator c = true → Gap rest → Gap (c :: rest)
  | comment {body : List Char} {ending : Char} {rest : List Char} :
      InLine body → (ending = '\n' ∨ ending = '\r') → Gap rest → Gap ('#' :: body ++ ending :: rest)

/-- What may stand behind the last token: a gap, and perhaps a comment that the end of the text ends. -/
inductive Trail : List Char → Prop
  | gap {text : List Char} : Gap text → Trail text
  | comment {text body : List Char} : Gap text → InLine body → Trail (text ++ '#' :: body)

theorem Gap.append {gap more : List Char} (ignored : Gap gap) (others : Gap more) : Gap (gap ++ more) := by
  induction ignored with
  | nil => exact others
  | separator separates _ ih => exact .separator separates ih
  | comment inLine ends _ ih =>
    rw [List.append_assoc]
    exact .comment inLine ends ih

theorem Trail.behind {gap text : List Char} (ignored : Gap gap) (trail : Trail text) : Trail (gap ++ text) := by
  cases trail with
  | gap others => exact .gap (ignored.append others)
  | comment others inLine =>
    rw [← List.append_assoc]
    exact .comment (ignored.append others) inLine

/-- Behind a token, no text of this kind goes on with the token. -/
def EndsToken (rest : List Char) : Prop :=
  ∀ c ∈ rest.head?, isGraphic c = false

/-- A comment ends at the first line end, of either kind. -/
theorem dropComment_line {body : List Char} (inLine : InLine body) {ending : Char}
    (ends : ending = '\n' ∨ ending = '\r') (rest : List Char) :
    dropComment (body ++ ending :: rest) = dropIgnored rest := by
  induction body with
  | nil => rw [List.nil_append, dropComment, if_pos ends]
  | cons c body ih =>
    obtain ⟨first, others⟩ := List.forall_mem_cons.mp inLine
    rw [List.cons_append, dropComment, if_neg (not_or.mpr first), ih others]

theorem dropComment_inLine {body : List Char} (inLine : InLine body) : dropComment body = [] := by
  induction body with
  | nil => rw [dropComment]
  | cons c body ih =>
    obtain ⟨first, others⟩ := List.forall_mem_cons.mp inLine
    rw [dropComment, if_neg (not_or.mpr first), ih others]

theorem dropIgnored_comment (rest : List Char) : dropIgnored ('#' :: rest) = dropComment rest := by
  rw [dropIgnored, if_neg (by decide), if_pos rfl]

/-- All of a gap is passed over, and nothing behind it is when a token starts there. -/
theorem dropIgnored_gap {gap : List Char} (ignored : Gap gap) (rest : List Char) :
    dropIgnored (gap ++ rest) = dropIgnored rest := by
  induction ignored with
  | nil => rfl
  | separator separates _ ih => rw [List.cons_append, dropIgnored, if_pos separates, ih]
  | comment inLine ends _ ih =>
    rw [List.append_assoc, List.cons_append, List.cons_append, dropIgnored_comment,
      dropComment_line inLine ends, ih]

/-- Nothing is left of a text that ends with a comment. -/
theorem dropIgnored_trail {text : List Char} (ignored : Trail text) : dropIgnored text = [] := by
  cases ignored with
  | gap gap =>
    have dropped := dropIgnored_gap gap []
    rwa [List.append_nil, dropIgnored] at dropped
  | comment gap inLine => rw [dropIgnored_gap gap, dropIgnored_comment, dropComment_inLine inLine]

theorem dropIgnored_graphic {c : Char} (graphic : isGraphic c = true) (rest : List Char) :
    dropIgnored (c :: rest) = c :: rest := by
  have comment : c ≠ '#' := by
    rintro rfl
    exact absurd graphic (by decide)
  rw [dropIgnored, isSeparator_of_isGraphic graphic, if_neg (by decide), if_neg comment]

theorem EndsToken.nil : EndsToken [] := by
  simp [EndsToken]

theorem endsToken_separator {c : Char} (separates : isSeparator c = true) (rest : List Char) :
    EndsToken (c :: rest) := by
  intro head member
  obtain rfl := Option.some.inj member
  cases graphic : isGraphic c with
  | false => rfl
  | true => rw [isSeparator_of_isGraphic graphic] at separates; cases separates

/-- Behind a token that ended in front of `rest`, no text of this kind goes on with the token: it starts as `rest`
does, or it goes on with no token at all. -/
def Stops (rest behind : List Char) : Prop :=
  ∀ c ∈ behind.head?, isGraphic c = false ∨ c ∈ rest.head?

theorem EndsToken.stops {behind : List Char} (ends : EndsToken behind) (rest : List Char) : Stops rest behind :=
  fun c member => Or.inl (ends c member)

/-- The text that was there may be longer. -/
theorem EndsToken.stops_append {more : List Char} (ends : EndsToken more) (rest : List Char) :
    Stops rest (rest ++ more) := by
  cases rest with
  | nil => exact ends.stops []
  | cons c rest => exact fun other member => Or.inr member

/-- A text that is read as the token, whatever stands behind it and does not go on with it. -/
structure Lexeme (token : Token) (text : List Char) : Prop where
  scan_append : ∀ rest, EndsToken rest → scan (text ++ rest) = .ok token rest
  proper : token ≠ .eof

theorem Lexeme.length_pos {token : Token} {text : List Char} (lexeme : Lexeme token text) :
    0 < text.length := by
  rw [List.length_pos_iff]
  rintro rfl
  -- The empty text is read as the end.
  have ended := lexeme.scan_append [] .nil
  rw [List.append_nil, scan, dropIgnored] at ended
  injection ended with same
  exact lexeme.proper same.symm

/-- Lexemes with gaps around them. -/
inductive Written : List Token → List Char → Prop
  | nil {text : List Char} : Trail text → Written [] text
  | cons {token : Token} {tokens : List Token} {gap lexeme rest : List Char} :
      Gap gap → Lexeme token lexeme → EndsToken rest → Written tokens rest →
        Written (token :: tokens) (gap ++ (lexeme ++ rest))

theorem Written.behind {gap text : List Char} {tokens : List Token} (ignored : Gap gap)
    (written : Written tokens text) : Written tokens (gap ++ text) := by
  cases written with
  | nil trail => exact .nil (trail.behind ignored)
  | cons others lexeme ends rest =>
    rw [← List.append_assoc]
    exact .cons (ignored.append others) lexeme ends rest

/-- A gap in front of a text changes no token. -/
theorem scan_gap {gap : List Char} (ignored : Gap gap) (rest : List Char) : scan (gap ++ rest) = scan rest := by
  rw [scan, scan, dropIgnored_gap ignored]

theorem scanAll_cons {token : Token} {text rest : List Char} (read : scan text = .ok token rest)
    (proper : token ≠ .eof) (count : Nat) :
    scanAll (count + 1) text = (scanAll count rest).map (token :: ·) := by
  rw [scanAll, read]
  cases token with
  | eof => exact absurd rfl proper
  | _ => rfl

/-- `Reads text tokens`: read one after the other, the tokens of the text are `tokens` and then the end. -/
inductive Reads : List Char → List Token → Prop
  | ended {text rest : List Char} : scan text = .ok .eof rest → Reads text []
  | token {token : Token} {tokens : List Token} {text rest : List Char} :
      scan text = .ok token rest → token ≠ .eof → rest.length < text.length → Reads rest tokens →
        Reads text (token :: tokens)

theorem Reads.proper {text : List Char} {tokens : List Token} (reads : Reads text tokens) : .eof ∉ tokens := by
  induction reads with
  | ended _ => exact List.not_mem_nil
  | token _ proper _ _ ih =>
    rw [List.mem_cons, not_or]
    exact ⟨proper.symm, ih⟩

/-- Enough calls for all characters are enough for all tokens, each of which takes at least one. -/
theorem scanAll_reads {tokens : List Token} {text : List Char} (reads : Reads text tokens) {count : Nat}
    (enough : text.length < count) : scanAll count text = .ok (tokens ++ [.eof]) := by
  -- Each token takes up a character, and with it one of the tokens that may still be read.
  induction reads generalizing count with
  | ended read =>
    obtain ⟨more, rfl⟩ := Nat.exists_eq_add_one_of_ne_zero (Nat.ne_zero_of_lt enough)
    rw [scanAll, read]
    rfl
  | token read proper shorter _ ih =>
    obtain ⟨more, rfl⟩ := Nat.exists_eq_add_one_of_ne_zero (Nat.ne_zero_of_lt enough)
    rw [scanAll_cons read proper, ih (by omega)]
    rfl

theorem Written.reads {tokens : List Token} {text : List Char} (written : Written tokens text) :
    Reads text tokens := by
  induction written with
  | @nil text trail =>
    have read : scan text = .ok .eof [] := by rw [scan, dropIgnored_trail trail]
    exact .ended read
  | @cons _ _ gap lexeme _ ignored read ends _ ih =>
    have shorter := read.length_pos
    refine .token ?_ read.proper ?_ ih
    · rw [scan_gap ignored, read.scan_append _ ends]
    · simp only [List.length_append]
      omega

end Token

open Token

/-- The calls that are allowed are always enough, so that the end is found. -/
theorem tokenize_reads {tokens : List Token} {source : String} (reads : Reads source.toList tokens) :
    tokenize source = .ok (tokens ++ [.eof]) :=
  scanAll_reads reads (Nat.lt_succ_self _)

/-- The tokens of a text are those of its lexemes, whatever stands between these. -/
theorem tokenize_written {tokens : List Token} {source : String} (written : Written tokens source.toList) :
    tokenize source = .ok (tokens ++ [.eof]) :=
  tokenize_reads written.reads

namespace Token

/-- What names and integers are like in the tokens of a text. -/
def WellFormed : Token → Prop
  | .name word => IsName word
  | .int value => InInt64 value
  | _ => True

theorem startsName_iff {c : Char} : startsName c = true ↔ c.isAlpha = true ∨ c = '_' := by
  simp [startsName]

theorem isName_iff {word : String} :
    (word.toList.head?.any startsName && word.toList.tail.all continuesName) = true ↔ IsName word := by
  unfold IsName
  cases word.toList with
  | nil => simp
  | cons first rest =>
    simp only [List.head?_cons, Option.any_some, List.tail_cons, Bool.and_eq_true, List.all_eq_true,
      startsName_iff, continuesName_iff, List.cons.injEq]
    constructor
    · intro given
      exact ⟨first, rest, ⟨rfl, rfl⟩, given⟩
    · rintro ⟨_, _, ⟨rfl, rfl⟩, given⟩
      exact given

instance (word : String) : Decidable (IsName word) :=
  decidable_of_iff _ isName_iff

theorem fitsInt64_iff {value : Int} : fitsInt64 value = true ↔ InInt64 value := by
  simp only [fitsInt64, Bool.and_eq_true, decide_eq_true_eq]
  exact Iff.rfl

theorem wellFormed_of_mark {c : Char} {token : Token} (mark : ofMark? c = some token) : token.WellFormed := by
  unfold ofMark? at mark
  split at mark <;> cases mark <;> trivial

theorem wellFormed_of_number {run : List Char} {token : Token} (read : ofNumber? run = some token) :
    token.WellFormed := by
  unfold ofNumber? at read
  split at read
  · obtain ⟨value, _, rfl⟩ := Option.map_eq_some_iff.mp read
    trivial
  · obtain ⟨value, found, rfl⟩ := Option.map_eq_some_iff.mp read
    exact fitsInt64_iff.mp (Option.filter_eq_some_iff.mp found).2

theorem wellFormed_of_string {text rest : List Char} {token : Token}
    (read : scanString text = .ok token rest) : token.WellFormed := by
  unfold scanString at read
  split at read
  · obtain ⟨_, _, rfl⟩ := Scanned.map_ok_iff.mp read
    trivial
  · cases read
    trivial
  · obtain ⟨_, _, rfl⟩ := Scanned.map_ok_iff.mp read
    trivial

/-- Every single token has a name or an integer of the right form, if it has any. -/
theorem scan_wellFormed {text rest : List Char} {token : Token} (read : scan text = .ok token rest) :
    token.WellFormed := by
  -- The first character decides which reader the token comes from.
  unfold scan at read
  split at read
  · cases read
    trivial
  · rename_i c behind _
    split at read
    · rename_i mark
      cases read
      exact wellFormed_of_mark mark
    · split at read
      · unfold scanSpread at read
        split at read <;> cases read
        trivial
      · split at read
        · exact wellFormed_of_string read
        · split at read
          · unfold scanNumber at read
            simp only at read
            split at read <;> cases read
            rename_i number
            exact wellFormed_of_number number
          · split at read
            · rename_i starts
              cases read
              refine ⟨c, behind.takeWhile continuesName, String.toList_ofList, startsName_iff.mp starts, ?_⟩
              intro other member
              exact continuesName_iff.mp (List.mem_takeWhile_imp member)
            · cases read

theorem scanAll_wellFormed {count : Nat} {text : List Char} {tokens : List Token}
    (read : scanAll count text = .ok tokens) : ∀ token ∈ tokens, token.WellFormed := by
  induction count generalizing text tokens with
  | zero =>
    cases read
    simp
  | succ count ih =>
    unfold scanAll at read
    split at read
    · cases read
    · cases read
      simp [WellFormed]
    · rename_i first
      cases others : scanAll count _ with
      | error cause =>
        rw [others] at read
        cases read
      | ok tokens =>
        rw [others] at read
        cases read
        exact List.forall_mem_cons.mpr ⟨scan_wellFormed first, ih others⟩

end Token

/-- All names and integers among the tokens of a text are of the right form. -/
theorem tokenize_wellFormed {source : String} {tokens : List Token} (read : tokenize source = .ok tokens) :
    ∀ token ∈ tokens, token.WellFormed :=
  scanAll_wellFormed read

end EntityLayout
