import EntityLayout.Number.Decimal
import EntityLayout.Proofs.Runs

/-!
# The text of decimal numbers

The two grammars of numbers, apart from the readers: an integer is `-?D+`, and a number with a fraction or a power of
ten is `-?D+(.D*)?([eE][+-]?D+)?`, where `D` is a digit. The readers accept exactly these texts and answer the numbers
that they stand for (`readInteger?_eq_some_iff`, `read?_eq_some_iff`).
-/
namespace EntityLayout.Decimal

def AllDigits (text : List Char) : Prop :=
  ∀ c ∈ text, c.isDigit = true

/-- `Digits text value`: one or more digits, which have the value. Zeros in front do not matter to it. -/
inductive Digits : List Char → Nat → Prop
  | intro {text : List Char} : text ≠ [] → AllDigits text → Digits text (Nat.ofDigitChars 10 text 0)

inductive IntegerText : List Char → Int → Prop
  | positive {text : List Char} {value : Nat} : Digits text value → IntegerText text value
  | negative {text : List Char} {value : Nat} : Digits text value → IntegerText ('-' :: text) (-(value : Int))

/-- A point with the digits behind it, or nothing. -/
inductive Fraction : List Char → List Char → Prop
  | absent : Fraction [] []
  | point {digits : List Char} : AllDigits digits → Fraction ('.' :: digits) digits

/-- The number behind an exponent mark, with or without a sign. -/
inductive SignedText : List Char → Int → Prop
  | integer {text : List Char} {value : Int} : IntegerText text value → SignedText text value
  | plus {text : List Char} {value : Nat} : Digits text value → SignedText ('+' :: text) value

/-- A power of ten, or nothing. -/
inductive Power : List Char → Int → Prop
  | absent : Power [] 0
  | mark {mark : Char} {text : List Char} {exponent : Int} :
      mark = 'e' ∨ mark = 'E' → SignedText text exponent → Power (mark :: text) exponent

/-- A number without its sign. The digits behind the point count with those in front of it. -/
inductive UnsignedText (negative : Bool) : List Char → Decimal → Prop
  | intro {whole fraction digits power : List Char} {exponent : Int} {value : Nat} :
      whole ≠ [] → AllDigits whole → Fraction fraction digits → Power power exponent → Digits (whole ++ digits) value →
        UnsignedText negative (whole ++ (fraction ++ power)) ⟨negative, value, exponent - digits.length⟩

inductive DecimalText : List Char → Decimal → Prop
  | positive {text : List Char} {value : Decimal} : UnsignedText false text value → DecimalText text value
  | negative {text : List Char} {value : Decimal} : UnsignedText true text value → DecimalText ('-' :: text) value

/-- Digits are one or more, and are read as the number that they are in base ten. -/
theorem readDigits?_eq_some_iff {text : List Char} {value : Nat} :
    readDigits? text = some value ↔ Digits text value := by
  unfold readDigits?
  constructor
  · intro read
    split at read
    · cases read
    · rename_i given
      simp only [Bool.or_eq_true, List.isEmpty_iff, Bool.not_eq_true', not_or, Bool.not_eq_false,
        List.all_eq_true] at given
      cases read
      exact .intro given.1 given.2
  · rintro ⟨nonempty, all⟩
    have digits : text.all Char.isDigit = true := List.all_eq_true.mpr all
    rw [digits, List.isEmpty_eq_false_iff.mpr nonempty]
    rfl

/-- A text of digits has no sign in front. -/
theorem Digits.head_ne {c : Char} {text : List Char} {value : Nat} (digits : Digits (c :: text) value) :
    c ≠ '-' ∧ c ≠ '+' := by
  obtain ⟨_, all⟩ := digits
  have digit := all c List.mem_cons_self
  constructor
  · rintro rfl
    cases digit
  · rintro rfl
    cases digit

/-- The sign changes the number that the digits stand for. -/
theorem map_readDigits?_iff {text : List Char} {sign : Int → Int} {value : Int} :
    ((do let digits ← readDigits? text; pure (digits : Int)) : Option Int).map sign = some value ↔
      ∃ number : Nat, Digits text number ∧ sign number = value := by
  cases read : readDigits? text with
  | none =>
    refine ⟨nofun, ?_⟩
    rintro ⟨number, digits, _⟩
    rw [readDigits?_eq_some_iff.mpr digits] at read
    cases read
  | some number =>
    have digits := readDigits?_eq_some_iff.mp read
    constructor
    · rintro ⟨⟩
      exact ⟨number, digits, rfl⟩
    · rintro ⟨other, others, rfl⟩
      rw [readDigits?_eq_some_iff.mpr others] at read
      cases read
      rfl

/-- What is read as an integer is an integer of the grammar, with its value, and the other way round. -/
theorem readInteger?_eq_some_iff {text : List Char} {value : Int} :
    readInteger? text = some value ↔ IntegerText text value := by
  unfold readInteger?
  split
  · rw [map_readDigits?_iff]
    constructor
    · rintro ⟨_, digits, rfl⟩
      exact .negative digits
    · intro integer
      cases integer with
      | positive digits => exact absurd rfl digits.head_ne.1
      | negative digits => exact ⟨_, digits, rfl⟩
  · rename_i unsigned
    rw [map_readDigits?_iff]
    constructor
    · rintro ⟨_, digits, rfl⟩
      exact .positive digits
    · intro integer
      cases integer with
      | positive digits => exact ⟨_, digits, rfl⟩
      | negative _ => exact absurd rfl (unsigned _)

/-- Behind an exponent mark, a plus sign is read as well. -/
theorem readExponent?_eq_some_iff {text : List Char} {value : Int} :
    readExponent? text = some value ↔ SignedText text value := by
  by_cases plus : ∃ rest, text = '+' :: rest
  · obtain ⟨rest, rfl⟩ := plus
    rw [readExponent?, map_readDigits?_iff]
    constructor
    · rintro ⟨_, digits, rfl⟩
      exact .plus digits
    · intro signed
      cases signed with
      | integer integer =>
        cases integer with
        | positive digits => exact absurd rfl digits.head_ne.2
      | plus digits => exact ⟨_, digits, rfl⟩
  · have same : readExponent? text = readInteger? text := by
      unfold readExponent? readInteger?
      split
      · rfl
      · exact absurd ⟨_, rfl⟩ plus
      · rename_i negative _
        split
        · exact absurd rfl (negative _)
        · rfl
    rw [same, readInteger?_eq_some_iff]
    constructor
    · exact .integer
    · intro signed
      cases signed with
      | integer integer => exact integer
      | plus _ => exact absurd ⟨_, rfl⟩ plus

/-- What may stand behind digits and a fraction. -/
theorem Power.head {power : List Char} {exponent : Int} (given : Power power exponent) :
    ∀ c ∈ power.head?, c.isDigit = false ∧ c ≠ '.' := by
  cases given with
  | absent => simp
  | mark marks _ =>
    rintro _ ⟨⟩
    rcases marks with rfl | rfl <;> decide

/-- The digits in front of the point and those behind it are taken as far as they go. -/
theorem splitPoint_append {whole fraction digits rest : List Char} (all : AllDigits whole)
    (point : Fraction fraction digits) (ends : ∀ c ∈ rest.head?, c.isDigit = false ∧ c ≠ '.') :
    splitPoint (whole ++ (fraction ++ rest)) = (whole, digits, rest) := by
  unfold splitPoint
  cases point with
  | absent =>
    obtain ⟨taken, left⟩ := takeWhile_append_of_stop all fun c member => (ends c member).1
    rw [List.nil_append, taken, left]
    split
    · exact absurd rfl (ends '.' rfl).2
    · rfl
  | point others =>
    have point : ∀ c ∈ ('.' :: digits ++ rest).head?, c.isDigit = false := by simp
    obtain ⟨taken, left⟩ := takeWhile_append_of_stop all point
    obtain ⟨takenDigits, leftDigits⟩ := takeWhile_append_of_stop others fun c member => (ends c member).1
    rw [taken, left, List.cons_append]
    simp only [takenDigits, leftDigits]

/-- Conversely, every text splits into such digits, a fraction or none, and what is left. -/
theorem splitPoint_parts (text : List Char) : ∃ whole fraction digits rest, text = whole ++ (fraction ++ rest) ∧
    AllDigits whole ∧ Fraction fraction digits ∧ splitPoint text = (whole, digits, rest) := by
  have all (run : List Char) : AllDigits (run.takeWhile Char.isDigit) := fun _ => List.mem_takeWhile_imp
  unfold splitPoint
  split
  · rename_i rest behind
    refine ⟨_, '.' :: rest.takeWhile Char.isDigit, _, _, ?_, all text, .point (all rest), rfl⟩
    rw [List.cons_append, List.takeWhile_append_dropWhile, ← behind, List.takeWhile_append_dropWhile]
  · refine ⟨_, [], [], _, ?_, all text, .absent, rfl⟩
    rw [List.nil_append, List.takeWhile_append_dropWhile]

theorem digits_append {whole fraction digits : List Char} (nonempty : whole ≠ []) (all : AllDigits whole)
    (point : Fraction fraction digits) : Digits (whole ++ digits) (digitsValue (whole ++ digits)) := by
  refine .intro (by simp [nonempty]) ?_
  cases point with
  | absent => simpa using all
  | point others => exact List.forall_mem_append.mpr ⟨all, others⟩

/-- Without its sign, a number is digits, a fraction or none and a power or none, and nothing is left. -/
theorem readUnsigned?_eq_some_iff {negative : Bool} {text : List Char} {value : Decimal} :
    readUnsigned? negative text = some value ↔ UnsignedText negative text value := by
  constructor
  · intro read
    obtain ⟨whole, fraction, digits, rest, rfl, all, point, parts⟩ := splitPoint_parts text
    unfold readUnsigned? at read
    simp only [parts] at read
    split at read
    · cases read
    · rename_i given
      have nonempty : whole ≠ [] := by simpa using given
      have number := digits_append nonempty all point
      split at read
      · cases read
        exact .intro nonempty all point .absent number
      · split at read
        · rename_i marks
          obtain ⟨exponent, power, rfl⟩ := Option.map_eq_some_iff.mp read
          exact .intro nonempty all point (.mark marks (readExponent?_eq_some_iff.mp power)) number
        · cases read
  · rintro ⟨nonempty, all, point, power, ⟨_, _⟩⟩
    unfold readUnsigned?
    simp only [splitPoint_append all point power.head, List.isEmpty_eq_false_iff.mpr nonempty, Bool.false_eq_true,
      if_false]
    cases power with
    | absent => rfl
    | mark marks signed =>
      simp only [if_pos marks, readExponent?_eq_some_iff.mpr signed]
      rfl

/-- A number without its sign does not start with a sign, so that none can be taken off twice. -/
theorem UnsignedText.head_ne {negative : Bool} {c : Char} {text : List Char} {value : Decimal}
    (unsigned : UnsignedText negative (c :: text) value) : c ≠ '-' := by
  generalize same : c :: text = number at unsigned
  obtain @⟨whole, _, _, _, _, _, nonempty, all, _, _, _⟩ := unsigned
  cases whole with
  | nil => exact absurd rfl nonempty
  | cons first whole =>
    obtain ⟨rfl, _⟩ := List.cons.inj same
    rintro rfl
    exact absurd (all '-' List.mem_cons_self) (by decide)

/-- What is read as a number is a number of the grammar, with its value, and the other way round. -/
theorem read?_eq_some_iff {text : List Char} {value : Decimal} :
    read? text = some value ↔ DecimalText text value := by
  unfold read?
  split
  · rw [readUnsigned?_eq_some_iff]
    constructor
    · exact .negative
    · intro decimal
      cases decimal with
      | positive unsigned => exact absurd rfl unsigned.head_ne
      | negative unsigned => exact unsigned
  · rename_i unsigned
    rw [readUnsigned?_eq_some_iff]
    constructor
    · exact .positive
    · intro decimal
      cases decimal with
      | positive unsigned => exact unsigned
      | negative _ => exact absurd rfl (unsigned _)

end EntityLayout.Decimal
