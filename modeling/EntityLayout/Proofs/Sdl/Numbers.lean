import EntityLayout.Proofs.Number.DecimalText
import EntityLayout.Proofs.Sdl.Spelling

/-!
# Numbers

A number takes up the longest run of characters that can go on with it, whether these make up a number or not. A run
without a point and an exponent mark is an integer, which has to fit into 64 bits; any other run has to be a decimal
number by the stricter grammar of these. Otherwise the whole run is refused (`scan_longestRun`).
-/
namespace EntityLayout.Token
open Decimal

def IsFloatMark (c : Char) : Prop :=
  c = '.' ∨ c = 'e' ∨ c = 'E'

/-- Whether a number can go on with `c` directly behind the character `before`. -/
def GoesOn (before c : Char) : Prop :=
  c.isDigit = true ∨ IsFloatMark c ∨ (c = '+' ∨ c = '-') ∧ (before = 'e' ∨ before = 'E')

/-- Whether `first` starts a number in front of the text. -/
def StartsNumber (first : Char) (text : List Char) : Prop :=
  first.isDigit = true ∨ first = '-' ∧ ∃ digit ∈ text.head?, digit.isDigit = true

/-- Behind the character `first`, the text goes on with `tail`, and no longer piece of it goes on with a number. -/
structure LongestRun (first : Char) (text tail rest : List Char) : Prop where
  split : text = tail ++ rest
  goesOn : (first :: tail).IsChain GoesOn
  longest : ∀ more, more <+: text → (first :: more).IsChain GoesOn → more.length ≤ tail.length

theorem marksFloat_iff {c : Char} : marksFloat c = true ↔ IsFloatMark c := by
  simp [marksFloat, isExponentMark, IsFloatMark]

theorem continuesNumber_iff {before c : Char} : continuesNumber before c = true ↔ GoesOn before c := by
  simp only [continuesNumber, GoesOn, ← marksFloat_iff, isExponentMark, Bool.or_eq_true, Bool.and_eq_true, beq_iff_eq,
    or_assoc]

theorem startsNumber_iff {first : Char} {text : List Char} :
    startsNumber first text = true ↔ StartsNumber first text := by
  simp [startsNumber, StartsNumber, Option.any_eq_true]

/-- By induction on the text: each character is judged by the one in front of it. -/
theorem longestRun_numberRun (first : Char) (text : List Char) :
    LongestRun first text (numberRun first text) (text.drop (numberRun first text).length) := by
  induction text generalizing first with
  | nil => exact ⟨rfl, .singleton _, by simp⟩
  | cons c text ih =>
    rw [numberRun]
    split
    · rename_i continues
      obtain ⟨split, goesOn, longest⟩ := ih c
      refine ⟨congrArg (c :: ·) split, .cons_cons (continuesNumber_iff.mp continues) goesOn, ?_⟩
      intro more inside chain
      cases more with
      | nil => simp
      | cons d more =>
        obtain ⟨rfl, within⟩ := List.cons_prefix_cons.mp inside
        exact Nat.succ_le_succ (longest more within (List.isChain_cons_cons.mp chain).2)
    · rename_i stops
      refine ⟨rfl, .singleton _, ?_⟩
      intro more inside chain
      cases more with
      | nil => simp
      | cons d more =>
        obtain ⟨rfl, _⟩ := List.cons_prefix_cons.mp inside
        exact absurd (continuesNumber_iff.mpr (List.isChain_cons_cons.mp chain).1) stops

/-- Pieces at the front of one text are equal if they have the same length. -/
theorem LongestRun.unique {first : Char} {text tail rest other behind : List Char}
    (run : LongestRun first text tail rest) (another : LongestRun first text other behind) :
    tail = other ∧ rest = behind := by
  have front : tail <+: text := ⟨rest, run.split.symm⟩
  have otherFront : other <+: text := ⟨behind, another.split.symm⟩
  have shorter := run.longest other otherFront another.goesOn
  have longer := another.longest tail front run.goesOn
  obtain rfl := (List.prefix_of_prefix_length_le front otherFront longer).eq_of_length (by omega)
  exact ⟨rfl, List.append_cancel_left (run.split.symm.trans another.split)⟩

/-- Without exponent marks, no sign goes on with a number. -/
theorem digits_of_goesOn {first : Char} {tail : List Char} (goesOn : (first :: tail).IsChain GoesOn)
    (plain : ∀ c ∈ first :: tail, ¬IsFloatMark c) : AllDigits tail := by
  induction tail generalizing first with
  | nil => simp [AllDigits]
  | cons c tail ih =>
    obtain ⟨unmarked, others⟩ := List.forall_mem_cons.mp plain
    obtain ⟨next, goesOn⟩ := List.isChain_cons_cons.mp goesOn
    refine List.forall_mem_cons.mpr ⟨?_, ih goesOn others⟩
    rcases next with digit | marked | ⟨_, exponent⟩
    · exact digit
    · exact absurd marked (others c List.mem_cons_self)
    · exact absurd (Or.inr exponent) unmarked

/-- Such a run is a sign and digits, of which there is one at least. -/
theorem LongestRun.integer {first : Char} {text tail rest : List Char} (run : LongestRun first text tail rest)
    (starts : StartsNumber first text) (plain : ∀ c ∈ first :: tail, ¬IsFloatMark c) :
    ∃ value, IntegerText (first :: tail) value := by
  have digits := digits_of_goesOn run.goesOn plain
  rcases starts with digit | ⟨rfl, digit, next, isDigit⟩
  · exact ⟨_, .positive (.intro (List.cons_ne_nil _ _) (List.forall_mem_cons.mpr ⟨digit, digits⟩))⟩
  · obtain ⟨text, rfl⟩ := List.head?_eq_some_iff.mp next
    have taken := run.longest [digit] ⟨text, rfl⟩ (.cons_cons (Or.inl isDigit) (.singleton _))
    have nonempty : tail ≠ [] := List.length_pos_iff.mp taken
    exact ⟨_, .negative (.intro nonempty digits)⟩

/-- Without a mark of the other numbers, a run is an integer or nothing, and has to fit. -/
theorem ofNumber?_integer {run : List Char} {value : Int} (plain : ∀ c ∈ run, ¬IsFloatMark c)
    (integer : IntegerText run value) :
    ofNumber? run = if fitsInt64 value then some (.int value) else none := by
  have unmarked : run.any marksFloat = false := by
    rw [List.any_eq_false]
    exact fun c member marked => plain c member (marksFloat_iff.mp marked)
  rw [ofNumber?, unmarked, if_neg Bool.false_ne_true, readInteger?_eq_some_iff.mpr integer]
  cases fits : fitsInt64 value <;> simp [Option.filter_some, fits]

theorem ofNumber?_marked {run : List Char} (marked : ∃ c ∈ run, IsFloatMark c) :
    ofNumber? run = (Binary64.read? run).map .float := by
  have given : run.any marksFloat = true := by
    rw [List.any_eq_true]
    obtain ⟨c, member, mark⟩ := marked
    exact ⟨c, member, marksFloat_iff.mpr mark⟩
  rw [ofNumber?, if_pos given]

theorem ofNumber?_decimal {run : List Char} {value : Decimal} (marked : ∃ c ∈ run, IsFloatMark c)
    (decimal : DecimalText run value) : ofNumber? run = some (.float (.ofDecimal value)) := by
  rw [ofNumber?_marked marked, Binary64.read?, read?_eq_some_iff.mpr decimal]
  rfl

theorem ofNumber?_invalid {run : List Char} (marked : ∃ c ∈ run, IsFloatMark c)
    (invalid : ∀ value, ¬DecimalText run value) : ofNumber? run = none := by
  have unread : Decimal.read? run = none := by
    rw [Option.eq_none_iff_forall_ne_some]
    exact fun value read => invalid value (read?_eq_some_iff.mp read)
  rw [ofNumber?_marked marked, Binary64.read?, unread]
  rfl

/-- A number is read from its longest run, whether the run makes sense or not. -/
theorem scan_run {gap text tail rest : List Char} {first : Char} (ignored : Gap gap)
    (starts : StartsNumber first text) (run : LongestRun first text tail rest) :
    scan (gap ++ first :: text) = match ofNumber? (first :: tail) with
      | some token => .ok token rest
      | none => .error (.invalidNumber (String.ofList (first :: tail))) rest := by
  obtain ⟨rfl, rfl⟩ := run.unique (longestRun_numberRun first text)
  rw [scan_gap ignored, scan_startsNumber (startsNumber_iff.mpr starts)]
  rfl

/-- A number takes up its longest run, and what is behind this is left unread. A run without a point and an exponent
mark is the integer that its digits stand for if this has 64 bits, and any other run is a floating-point number if it
is a decimal number. A run that is neither is refused as a whole. -/
theorem scan_longestRun {gap text : List Char} {first : Char} (ignored : Gap gap) (starts : StartsNumber first text) :
    (∃ tail rest, LongestRun first text tail rest) ∧ ∀ tail rest, LongestRun first text tail rest →
      ((∀ c ∈ first :: tail, ¬IsFloatMark c) → ∃ value, IntegerText (first :: tail) value ∧
        (InInt64 value → scan (gap ++ first :: text) = .ok (.int value) rest) ∧
        (¬InInt64 value →
          scan (gap ++ first :: text) = .error (.invalidNumber (String.ofList (first :: tail))) rest)) ∧
      ((∃ c ∈ first :: tail, IsFloatMark c) →
        (∀ value, DecimalText (first :: tail) value →
          scan (gap ++ first :: text) = .ok (.float (.ofDecimal value)) rest) ∧
        ((∀ value, ¬DecimalText (first :: tail) value) →
          scan (gap ++ first :: text) = .error (.invalidNumber (String.ofList (first :: tail))) rest)) := by
  refine ⟨⟨_, _, longestRun_numberRun first text⟩, fun tail rest run => ⟨fun plain => ?_, fun marked => ⟨?_, ?_⟩⟩⟩
  · obtain ⟨value, integer⟩ := run.integer starts plain
    rw [scan_run ignored starts run, ofNumber?_integer plain integer]
    refine ⟨value, integer, fun fits => ?_, fun exceeds => ?_⟩
    · rw [if_pos (fitsInt64_iff.mpr fits)]
    · rw [if_neg (mt fitsInt64_iff.mp exceeds)]
  · intro value decimal
    rw [scan_run ignored starts run, ofNumber?_decimal marked decimal]
  · intro invalid
    rw [scan_run ignored starts run, ofNumber?_invalid marked invalid]

/-- The digits of the first integer below the range. -/
def belowRange : List Char :=
  ['9', '2', '2', '3', '3', '7', '2', '0', '3', '6', '8', '5', '4', '7', '7', '5', '8', '0', '9']

/-- What stands behind the first digit of a number with a point, a sign behind its exponent mark, and right behind it
a sign that belongs to the next number. -/
def pointedText : List Char :=
  ['.', '5', 'E', '+', '3', '-', '2']

/-- An integer just below the range, and a number that the next one follows without a gap. -/
theorem scan_longestRun_texts :
    Gap [' '] ∧ StartsNumber '-' (belowRange ++ [',']) ∧ StartsNumber '1' pointedText ∧
      scan ([' '] ++ '-' :: (belowRange ++ [','])) = .error (.invalidNumber "-9223372036854775809") [','] ∧
      scan ([' '] ++ '1' :: pointedText) = .ok (.float (.ofDecimal ⟨false, 15, 2⟩)) ['-', '2'] := by
  have gap : Gap [' '] := .separator (by decide) .nil
  have signed : StartsNumber '-' (belowRange ++ [',']) := Or.inr ⟨rfl, '9', rfl, by decide⟩
  have digit : StartsNumber '1' pointedText := Or.inl (by decide)
  have below : LongestRun '-' (belowRange ++ [',']) belowRange [','] := longestRun_numberRun _ _
  have pointed : LongestRun '1' pointedText ['.', '5', 'E', '+', '3'] ['-', '2'] := longestRun_numberRun _ _
  refine ⟨gap, signed, digit, ?_, ?_⟩
  · have plain : ∀ c ∈ '-' :: belowRange, ¬IsFloatMark c := by simp [belowRange, IsFloatMark]
    obtain ⟨value, integer, _, exceeds⟩ := ((scan_longestRun gap signed).2 _ _ below).1 plain
    have read : readInteger? ('-' :: belowRange) = some (-9223372036854775809) := by decide
    obtain rfl := Option.some.inj ((readInteger?_eq_some_iff.mpr integer).symm.trans read)
    exact exceeds fun range => absurd range.1 (by decide)
  · have decimal : DecimalText ['1', '.', '5', 'E', '+', '3'] ⟨false, 15, 2⟩ := read?_eq_some_iff.mp (by decide)
    have marked : ∃ c ∈ ['1', '.', '5', 'E', '+', '3'], IsFloatMark c := ⟨'.', by decide, Or.inl rfl⟩
    exact (((scan_longestRun gap digit).2 _ _ pointed).2 marked).1 _ decimal

end EntityLayout.Token
