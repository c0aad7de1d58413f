import EntityLayout.StoreName
import Mathlib.Data.List.Chain

/-!
# The words of a store name

Which underscores a store name has, said by the positions of the letters and numbers in the whole name and not by
reading it from left to right (`storeName_joined`). No underscore is at an end or next to another one, and without
them the store name is the name in lower case, less all that is neither a letter nor a number.
-/
namespace EntityLayout.StoreName

theorem ofNat_eq_underscore {code : Nat} (same : Char.ofNat code = '_') : code = '_'.toNat := by
  by_cases valid : code.isValidChar
  · rw [Char.ofNat, dif_pos valid] at same
    exact congrArg Char.toNat same
  · rw [Char.ofNat, dif_neg valid] at same
    exact absurd same (by decide)

/-- No rule maps a character to an underscore: none has the one that would have to be mapped in its run. -/
theorem shift_underscore : ∀ rule ∈ lowercaseShifts, rule.run.contains ('_'.toNat - rule.shift).toNat = false := by
  decide +kernel

/-- No rule for capitals leads to the underscore. -/
theorem CaseShift.lower_ne_underscore {rule : CaseShift} (known : rule ∈ lowercaseShifts) {c : Char}
    (mapped : rule.run.contains c.toNat = true) : rule.lower c ≠ '_' := by
  intro same
  have code : ((c.toNat : Int) + rule.shift).toNat = '_'.toNat := ofNat_eq_underscore same
  have start : ('_'.toNat - rule.shift).toNat = c.toNat := by
    have positive : 0 < '_'.toNat := by decide
    omega
  have outside := shift_underscore rule known
  rw [start, mapped] at outside
  cases outside

theorem isAlphanumeric_underscore : isAlphanumeric '_' = false := by
  decide +kernel

theorem lowercase_ne_nil (c : Char) : lowercase c ≠ [] := by
  unfold lowercase
  split
  · exact List.cons_ne_nil _ _
  · split <;> exact List.cons_ne_nil _ _

/-- A letter in lower case has no underscore, so the underscores of a store name are those that were put there. -/
theorem underscore_not_mem_lowercase {c : Char} (letter : isAlphanumeric c = true) : '_' ∉ lowercase c := by
  unfold lowercase
  split
  · decide
  · split
    · rename_i rule found
      have mapped : rule.run.contains c.toNat = true := by
        simpa using List.find?_some found
      have known := List.mem_of_find?_eq_some found
      exact fun member => CaseShift.lower_ne_underscore known mapped (List.mem_singleton.mp member).symm
    · intro member
      obtain rfl := List.mem_singleton.mp member
      rw [isAlphanumeric_underscore] at letter
      cases letter

/-- The runs of letters and numbers that start in ASCII. -/
def asciiRuns : List CodeRun :=
  [⟨0x30, 0x39, 1⟩, ⟨0x41, 0x5a, 1⟩, ⟨0x61, 0x7a, 1⟩]

theorem ascii_run : ∀ run ∈ alphanumericRuns, run.first < 128 → run ∈ asciiRuns := by
  decide +kernel

/-- Letters and digits of ASCII stay in ASCII. -/
theorem lowercase_ascii {c : Char} (ascii : c.toNat < 128) (letter : isAlphanumeric c = true) :
    ∀ d ∈ lowercase c, d.isLower = true ∨ d.isDigit = true := by
  obtain ⟨run, known, inside⟩ := List.any_eq_true.mp letter
  have starts : run.first ≤ c.toNat := by
    simp only [CodeRun.contains, Bool.and_eq_true, decide_eq_true_eq] at inside
    exact inside.1.1
  -- Only the runs that start in ASCII are looked at: the others hold none of its characters.
  have all : ∀ run ∈ asciiRuns, ∀ code : Fin 128, run.contains code = true →
      (lowercase (Char.ofNat code)).all (fun d => d.isLower || d.isDigit) = true := by
    decide +kernel
  have here := all run (ascii_run run known (Nat.lt_of_le_of_lt starts ascii)) ⟨c.toNat, ascii⟩ inside
  rw [Char.ofNat_toNat] at here
  exact fun d member => (Bool.or_eq_true _ _).mp (List.all_eq_true.mp here d member)

/-- The letters and numbers of a text with their positions, the first of which is `start`. -/
def lettersFrom (start : Nat) (text : List Char) : List (Char × Nat) :=
  (text.zipIdx start).filter (isAlphanumeric ·.1)

theorem lettersFrom_letter {c : Char} (letter : isAlphanumeric c = true) (start : Nat) (rest : List Char) :
    lettersFrom start (c :: rest) = (c, start) :: lettersFrom (start + 1) rest := by
  simp [lettersFrom, letter]

theorem lettersFrom_other {c : Char} (other : isAlphanumeric c = false) (start : Nat) (rest : List Char) :
    lettersFrom start (c :: rest) = lettersFrom (start + 1) rest := by
  simp [lettersFrom, other]

/-- Whether an underscore stands between the letters at two positions that follow each other. One does where the
text has other characters between them, and in front of a capital `c` with a small letter next to it. -/
def parted (text : List Char) (before position : Nat) (c : Char) : Bool :=
  ((text.take position).drop (before + 1)).any (!isAlphanumeric ·) ||
    (c.toUpper == c && (text[position + 1]?.any isLowercase || text[position - 1]?.any isLowercase))

/-- The letters in lower case, with underscores where they are parted. -/
def joined (text : List Char) (before : Option Nat) : List (Char × Nat) → List Char
  | [] => []
  | (c, position) :: letters =>
    (if before.any (parted text · position c) then ['_'] else []) ++ lowercase c ++
      joined text (some position) letters

/-- The last letter of the text is at the position, if there is a letter. -/
def LastLetter (front : List Char) (before : Option Nat) : Prop :=
  ∀ position, before = some position →
    ∃ lead c gap, front = lead ++ c :: gap ∧ lead.length = position ∧ isAlphanumeric c = true ∧
      ∀ other ∈ gap, isAlphanumeric other = false

theorem LastLetter.here (front : List Char) {c : Char} (letter : isAlphanumeric c = true) :
    LastLetter (front ++ [c]) (some front.length) := by
  intro position same
  exact ⟨front, c, [], rfl, Option.some.inj same, letter, by simp⟩

/-- Another character at the end leaves the last letter where it was. -/
theorem LastLetter.skip {front : List Char} {before : Option Nat} (last : LastLetter front before) {c : Char}
    (other : isAlphanumeric c = false) : LastLetter (front ++ [c]) before := by
  intro position same
  obtain ⟨lead, letter, gap, rfl, length, isLetter, others⟩ := last position same
  refine ⟨lead, letter, gap ++ [c], by simp, length, isLetter, ?_⟩
  exact List.forall_mem_append.mpr ⟨others, List.forall_mem_singleton.mpr other⟩

/-- Behind the last letter there is another character exactly if the text ends with one. -/
theorem LastLetter.any_drop {front : List Char} {position : Nat} (last : LastLetter front (some position)) :
    (front.drop (position + 1)).any (!isAlphanumeric ·) = front.getLast?.any (!isAlphanumeric ·) := by
  obtain ⟨lead, c, gap, rfl, rfl, letter, others⟩ := last position rfl
  have behind : (lead ++ c :: gap).drop (lead.length + 1) = gap := by simp
  rw [behind]
  cases gap using List.reverseRecOn with
  | nil => simp [letter]
  | append_singleton gap d =>
    have ending : isAlphanumeric d = false := others d (by simp)
    have split : lead ++ c :: (gap ++ [d]) = (lead ++ c :: gap) ++ [d] := by simp
    rw [split, List.getLast?_concat, List.any_append]
    simp [ending]

/-- The neighbours of a capital are the characters next to it, and what parts it from the letter before stands
directly in front of it. -/
theorem parted_eq_startsWord {front rest : List Char} {before : Nat} (last : LastLetter front (some before))
    (c : Char) :
    parted (front ++ c :: rest) before front.length c = startsWord front.getLast? c rest.head? := by
  have next : (front ++ c :: rest)[front.length + 1]? = rest.head? := by
    rw [List.getElem?_append_right (Nat.le_add_right _ _), Nat.add_sub_cancel_left, List.getElem?_cons_succ,
      List.head?_eq_getElem?]
  have previous : (front ++ c :: rest)[front.length - 1]? = front.getLast? := by
    obtain ⟨lead, letter, gap, rfl, _⟩ := last before rfl
    rw [List.getElem?_append_left (by simp), List.getLast?_eq_getElem?]
  unfold parted startsWord isCapital
  rw [List.take_left, last.any_drop, next, previous]

/-- By induction on what is left to read: the position of the last letter read tells how the next one is joined. -/
theorem spell_eq_joined (rest front : List Char) (before : Option Nat) (last : LastLetter front before) :
    spell before.isSome front.getLast? rest =
      joined (front ++ rest) before (lettersFrom front.length rest) := by
  induction rest generalizing front before with
  | nil => rfl
  | cons c rest ih =>
    have longer : (front ++ [c]).length = front.length + 1 := List.length_append
    have split : front ++ c :: rest = (front ++ [c]) ++ rest := by simp
    have ending : (front ++ [c]).getLast? = some c := List.getLast?_concat
    rw [spell]
    cases letter : isAlphanumeric c with
    | true =>
      have others := ih (front ++ [c]) (some front.length) (.here front letter)
      have underscore : (before.isSome && startsWord front.getLast? c rest.head?) =
          before.any (parted (front ++ c :: rest) · front.length c) := by
        cases before with
        | none => rfl
        | some before => exact (parted_eq_startsWord last c).symm
      rw [longer, ending, ← split] at others
      rw [if_pos rfl, lettersFrom_letter letter, joined, underscore, ← others]
      rfl
    | false =>
      have others := ih (front ++ [c]) before (last.skip letter)
      rw [longer, ending, ← split] at others
      rw [if_neg Bool.false_ne_true, lettersFrom_other letter, ← others]

/-- Without underscores, the reading spells all letters and numbers in lower case and nothing else. -/
theorem filter_spell (rest : List Char) (begun : Bool) (before : Option Char) :
    (spell begun before rest).filter (· ≠ '_') = (rest.filter isAlphanumeric).flatMap lowercase := by
  induction rest generalizing begun before with
  | nil => rfl
  | cons c rest ih =>
    rw [spell]
    by_cases letter : isAlphanumeric c = true
    · have underscore (condition : Bool) :
          (if condition then ['_'] else []).filter (· ≠ '_') = ([] : List Char) := by
        cases condition <;> rfl
      have kept : (lowercase c).filter (· ≠ '_') = lowercase c := by
        rw [List.filter_eq_self]
        intro d member
        rw [decide_eq_true_eq]
        rintro rfl
        exact underscore_not_mem_lowercase letter member
      rw [if_pos letter, List.filter_append, List.filter_append, underscore, kept, ih,
        List.filter_cons_of_pos letter, List.flatMap_cons, List.nil_append]
    · rw [if_neg letter, ih, List.filter_cons_of_neg letter]

theorem mem_spell {rest : List Char} {begun : Bool} {before : Option Char} {d : Char}
    (member : d ∈ spell begun before rest) :
    d = '_' ∨ ∃ c ∈ rest, isAlphanumeric c = true ∧ d ∈ lowercase c := by
  induction rest generalizing begun before with
  | nil => cases member
  | cons c rest ih =>
    have later {begun : Bool} {before : Option Char} (member : d ∈ spell begun before rest) :
        d = '_' ∨ ∃ other ∈ c :: rest, isAlphanumeric other = true ∧ d ∈ lowercase other := by
      rcases ih member with same | ⟨other, among, found⟩
      · exact Or.inl same
      · exact Or.inr ⟨other, List.mem_cons_of_mem c among, found⟩
    rw [spell] at member
    split at member
    · rename_i letter
      rcases List.mem_append.mp member with first | behind
      · rcases List.mem_append.mp first with underscore | lower
        · split at underscore
          · exact Or.inl (List.mem_singleton.mp underscore)
          · cases underscore
        · exact Or.inr ⟨c, List.mem_cons_self, letter, lower⟩
      · exact later behind
    · exact later member

/-- Underscores are single and none is the last character. -/
structure Tidy (text : List Char) : Prop where
  single : text.IsChain fun c d => ¬(c = '_' ∧ d = '_')
  ending : text.getLast? ≠ some '_'

theorem Tidy.nil : Tidy [] :=
  ⟨.nil, by simp⟩

theorem Tidy.cons {c : Char} {text : List Char} (tidy : Tidy text) (other : c ≠ '_') : Tidy (c :: text) := by
  refine ⟨List.isChain_cons.mpr ⟨fun _ _ both => other both.1, tidy.single⟩, ?_⟩
  cases text with
  | nil => exact fun same => other (Option.some.inj same)
  | cons d text => rw [List.getLast?_cons_cons]; exact tidy.ending

/-- An underscore may come in front of a text that is not empty and starts with none. -/
theorem Tidy.underscore {text : List Char} (tidy : Tidy text) (nonempty : text ≠ [])
    (first : text.head? ≠ some '_') : Tidy ('_' :: text) := by
  refine ⟨List.isChain_cons.mpr ⟨fun d head both => ?_, tidy.single⟩, ?_⟩
  · rw [both.2] at head
    exact first head
  · cases text with
    | nil => exact absurd rfl nonempty
    | cons d text => rw [List.getLast?_cons_cons]; exact tidy.ending

/-- A word without underscores may come in front of any such text. -/
theorem Tidy.append {word text : List Char} (tidy : Tidy text) (plain : '_' ∉ word) : Tidy (word ++ text) := by
  induction word with
  | nil => exact tidy
  | cons c word ih =>
    rw [List.mem_cons, not_or] at plain
    exact (ih plain.2).cons (Ne.symm plain.1)

/-- What is spelled at the start of a name does not start with an underscore either. -/
theorem spell_tidy (rest : List Char) (begun : Bool) (before : Option Char) :
    Tidy (spell begun before rest) ∧ (begun = false → (spell begun before rest).head? ≠ some '_') := by
  induction rest generalizing begun before with
  | nil => exact ⟨.nil, by simp [spell]⟩
  | cons c rest ih =>
    rw [spell]
    split
    · rename_i letter
      have plain := underscore_not_mem_lowercase letter
      have word := (ih true (some c)).1.append plain
      have first : (lowercase c ++ spell true (some c) rest).head? ≠ some '_' := by
        cases spelled : lowercase c with
        | nil => exact absurd spelled (lowercase_ne_nil c)
        | cons d tail =>
          rw [spelled, List.mem_cons, not_or] at plain
          exact fun same => plain.1 (Option.some.inj same).symm
      have nonempty : lowercase c ++ spell true (some c) rest ≠ [] :=
        List.append_ne_nil_of_left_ne_nil (lowercase_ne_nil c) _
      rw [List.append_assoc]
      split
      · rename_i starts
        refine ⟨word.underscore nonempty first, fun start => ?_⟩
        rw [start] at starts
        cases starts
      · exact ⟨word, fun _ => first⟩
    · exact ih begun (some c)

end EntityLayout.StoreName

namespace EntityLayout

open StoreName

/-- A store name consists of the letters and numbers of the name in lower case and of single underscores between
them, just where two of them are parted. -/
theorem storeName_joined (name : String) :
    (storeName name).toList = joined name.toList none (lettersFrom 0 name.toList) ∧
      (storeName name).toList.head? ≠ some '_' ∧ (storeName name).toList.getLast? ≠ some '_' ∧
      ¬['_', '_'] <:+: (storeName name).toList ∧
      (storeName name).toList.filter (· ≠ '_') = (name.toList.filter isAlphanumeric).flatMap lowercase ∧
      ((∀ c ∈ name.toList, c.toNat < 128) →
        ∀ c ∈ (storeName name).toList, c.isLower = true ∨ c.isDigit = true ∨ c = '_') := by
  have spelled : (storeName name).toList = spell false none name.toList := String.toList_ofList
  obtain ⟨tidy, starts⟩ := spell_tidy name.toList false none
  rw [spelled]
  refine ⟨?_, starts rfl, tidy.ending, ?_, filter_spell _ _ _, ?_⟩
  · exact spell_eq_joined name.toList [] none fun _ same => nomatch same
  · intro doubled
    have pair := List.IsChain.infix tidy.single doubled
    exact (List.isChain_cons_cons.mp pair).1 ⟨rfl, rfl⟩
  · intro ascii d member
    rcases mem_spell member with rfl | ⟨c, among, letter, lower⟩
    · exact Or.inr (Or.inr rfl)
    · rcases lowercase_ascii (ascii c among) letter d lower with small | digit
      · exact Or.inl small
      · exact Or.inr (Or.inl digit)

/-- A digit counts as a capital, so that the last one of `128` is parted from the others. -/
theorem storeName_joined_fee :
    joined "_fee__0X128free-".toList none (lettersFrom 0 "_fee__0X128free-".toList) = "fee_0x12_8free".toList ∧
      (∀ c ∈ "_fee__0X128free-".toList, c.toNat < 128) ∧
      (storeName "_fee__0X128free-").toList = "fee_0x12_8free".toList ∧
      ∀ c ∈ (storeName "_fee__0X128free-").toList, c.isLower = true ∨ c.isDigit = true ∨ c = '_' := by
  have letters : joined "_fee__0X128free-".toList none (lettersFrom 0 "_fee__0X128free-".toList) =
      "fee_0x12_8free".toList := by
    decide +kernel
  have ascii : ∀ c ∈ "_fee__0X128free-".toList, c.toNat < 128 := by
    simp
  obtain ⟨spelled, _, _, _, _, lower⟩ := storeName_joined "_fee__0X128free-"
  exact ⟨letters, ascii, spelled.trans letters, lower ascii⟩

end EntityLayout
