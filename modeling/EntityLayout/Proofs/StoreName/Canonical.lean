import EntityLayout.Proofs.StoreName.Separators

/-!
# Store names of store names

The ASCII names that are their own store names are the canonical ones: words joined by single underscores, where a
word consists of small letters, of a digit and small letters, or of digits. The store name of a name need not be
canonical, since it can have digits next to letters that were capitals; the store name of the store name is
(`storeName_stable`).
-/
namespace EntityLayout.StoreName

inductive IsWord : List Char → Prop
  | letters {letters : List Char} :
      letters ≠ [] → (∀ c ∈ letters, c.isLower = true) → IsWord letters
  | numbered {digit : Char} {letters : List Char} :
      digit.isDigit = true → letters ≠ [] → (∀ c ∈ letters, c.isLower = true) → IsWord (digit :: letters)
  | digits {digits : List Char} :
      digits ≠ [] → (∀ c ∈ digits, c.isDigit = true) → IsWord digits

/-- Words joined by single underscores. -/
def Canonical (name : List Char) : Prop :=
  ∃ words : List (List Char), (∀ word ∈ words, IsWord word) ∧ name = ['_'].intercalate words

/-- No word is empty, so that underscores between words are single. -/
theorem IsWord.ne_nil {word : List Char} (isWord : IsWord word) : word ≠ [] := by
  cases isWord with
  | letters nonempty _ => exact nonempty
  | numbered _ _ _ => exact List.cons_ne_nil _ _
  | digits nonempty _ => exact nonempty

theorem Canonical.nil : Canonical [] :=
  ⟨[], by simp, rfl⟩

theorem Canonical.word {word : List Char} (isWord : IsWord word) : Canonical word :=
  ⟨[word], by simpa using isWord, by simp⟩

/-- Two lists of words are joined by one more underscore. -/
theorem intercalate_append {words others : List (List Char)} (nonempty : words ≠ []) (others_nonempty : others ≠ []) :
    ['_'].intercalate (words ++ others) = ['_'].intercalate words ++ '_' :: ['_'].intercalate others := by
  induction words with
  | nil => exact absurd rfl nonempty
  | cons word words ih =>
    cases words with
    | nil => simp [List.intercalate_cons_of_ne_nil others_nonempty]
    | cons next words =>
      rw [List.cons_append, List.cons_append, List.intercalate_cons_cons, List.intercalate_cons_cons,
        ← List.cons_append, ih (List.cons_ne_nil _ _)]
      simp

theorem intercalate_ne_nil {word : List Char} (nonempty : word ≠ []) (words : List (List Char)) :
    ['_'].intercalate (word :: words) ≠ [] := by
  cases words with
  | nil => rwa [List.intercalate_singleton]
  | cons next words =>
    rw [List.intercalate_cons_cons, List.append_assoc]
    exact List.append_ne_nil_of_left_ne_nil nonempty _

/-- Canonical names with an underscore between them are a canonical name. -/
theorem Canonical.join {front rest : List Char} (first : Canonical front) (second : Canonical rest)
    (front_nonempty : front ≠ []) (rest_nonempty : rest ≠ []) : Canonical (front ++ '_' :: rest) := by
  obtain ⟨words, known, rfl⟩ := first
  obtain ⟨others, knownOthers, rfl⟩ := second
  refine ⟨words ++ others, List.forall_mem_append.mpr ⟨known, knownOthers⟩, ?_⟩
  rw [intercalate_append]
  · rintro rfl
    exact front_nonempty rfl
  · rintro rfl
    exact rest_nonempty rfl

/-- What may stand behind a word: nothing, or an underscore and more words. -/
inductive FollowsWord : List Char → Prop
  | nothing : FollowsWord []
  | words {rest : List Char} : Canonical rest → rest ≠ [] → FollowsWord ('_' :: rest)

/-- A word in front of what may follow it makes a canonical name. -/
theorem Canonical.of_word {word rest : List Char} (isWord : IsWord word) (follows : FollowsWord rest) :
    Canonical (word ++ rest) := by
  cases follows with
  | nothing => rw [List.append_nil]; exact .word isWord
  | words canonical nonempty => exact (Canonical.word isWord).join canonical isWord.ne_nil nonempty

/-- The characters of a word. -/
def isPlain (c : Char) : Bool :=
  c.isLower || c.isDigit

theorem isLower_iff_toNat {c : Char} : c.isLower = true ↔ 0x61 ≤ c.toNat ∧ c.toNat ≤ 0x7a := by
  change (decide (c.val ≥ 0x61) && decide (c.val ≤ 0x7a)) = true ↔ _
  simp only [Bool.and_eq_true, decide_eq_true_eq, ge_iff_le, UInt32.le_iff_toNat_le]
  exact Iff.rfl

theorem toNat_lt_of_isPlain {c : Char} (plain : isPlain c = true) : c.toNat < 128 := by
  rw [isPlain, Bool.or_eq_true, isLower_iff_toNat, Char.isDigit_iff_toNat] at plain
  rcases plain with ⟨_, high⟩ | ⟨_, high⟩
  · exact Nat.lt_of_le_of_lt high (by decide)
  · exact Nat.lt_of_le_of_lt high (by decide)

/-- A character of a word is spelled as it is. -/
structure SpelledPlain (c : Char) : Prop where
  letter : isAlphanumeric c = true
  kept : lowercase c = [c]
  lower : isLowercase c = c.isLower
  capital : isCapital c = c.isDigit
  either : c.isLower = !c.isDigit

theorem ascii_spelledPlain : ∀ code : Fin 128, isPlain (Char.ofNat code) = true →
    isAlphanumeric (Char.ofNat code) = true ∧ lowercase (Char.ofNat code) = [Char.ofNat code] ∧
      isLowercase (Char.ofNat code) = (Char.ofNat code).isLower ∧
      isCapital (Char.ofNat code) = (Char.ofNat code).isDigit ∧
      (Char.ofNat code).isLower = !(Char.ofNat code).isDigit := by
  decide +kernel

/-- Small letters and digits are all in ASCII, and each is spelled as it is. -/
theorem spelledPlain {c : Char} (plain : isPlain c = true) : SpelledPlain c := by
  have here := ascii_spelledPlain ⟨c.toNat, toNat_lt_of_isPlain plain⟩
  simp only [Char.ofNat_toNat] at here
  obtain ⟨letter, kept, lower, capital, either⟩ := here plain
  exact ⟨letter, kept, lower, capital, either⟩

theorem isPlain_of_isLower {c : Char} (lower : c.isLower = true) : isPlain c = true := by
  simp [isPlain, lower]

theorem isPlain_of_isDigit {c : Char} (digit : c.isDigit = true) : isPlain c = true := by
  simp [isPlain, digit]

theorem spell_first {c : Char} (plain : isPlain c = true) (rest : List Char) :
    spell false none (c :: rest) = c :: spell true (some c) rest := by
  have spelled := spelledPlain plain
  rw [spell, if_pos spelled.letter, spelled.kept]
  rfl

/-- A small letter goes on with the word of the character in front of it. -/
theorem spell_lower {b c : Char} (before : isPlain b = true) (lower : c.isLower = true) (rest : List Char) :
    spell true (some b) (c :: rest) = c :: spell true (some c) rest := by
  have spelled := spelledPlain (isPlain_of_isLower lower)
  have digit : c.isDigit = false := by simpa [lower] using spelled.either
  rw [spell, if_pos spelled.letter, spelled.kept]
  simp [startsWord, (spelledPlain before).letter, spelled.capital, digit]

/-- A digit goes on with the word if neither of its neighbours is a small letter. -/
theorem spell_digit {b c : Char} (before : isPlain b = true) (digit : c.isDigit = true) {rest : List Char}
    (plain : ∀ d ∈ rest, isPlain d = true) :
    spell true (some b) (c :: rest) =
      (if rest.head?.any Char.isLower || b.isLower then ['_'] else []) ++ c :: spell true (some c) rest := by
  have spelled := spelledPlain (isPlain_of_isDigit digit)
  have next : rest.head?.any isLowercase = rest.head?.any Char.isLower := by
    cases rest with
    | nil => rfl
    | cons d rest => exact (spelledPlain (plain d List.mem_cons_self)).lower
  rw [spell, if_pos spelled.letter, spelled.kept]
  simp [startsWord, (spelledPlain before).letter, (spelledPlain before).lower, spelled.capital, digit, next]

/-- The rest of a word whose characters are of one kind, and what follows the word. -/
def EndsWord (kind : Char → Bool) (spelled : List Char) : Prop :=
  ∃ more rest, spelled = more ++ rest ∧ (∀ c ∈ more, kind c = true) ∧ FollowsWord rest

theorem EndsWord.nothing (kind : Char → Bool) : EndsWord kind [] :=
  ⟨[], [], rfl, by simp, .nothing⟩

theorem EndsWord.words {rest : List Char} (kind : Char → Bool) (canonical : Canonical rest) (nonempty : rest ≠ []) :
    EndsWord kind ('_' :: rest) :=
  ⟨[], '_' :: rest, rfl, by simp, .words canonical nonempty⟩

theorem EndsWord.cons {kind : Char → Bool} {c : Char} {spelled : List Char} (same : kind c = true)
    (ends : EndsWord kind spelled) : EndsWord kind (c :: spelled) := by
  obtain ⟨more, rest, rfl, all, follows⟩ := ends
  exact ⟨c :: more, rest, rfl, List.forall_mem_cons.mpr ⟨same, all⟩, follows⟩

/-- What is spelled for a run of small letters and digits behind another one: behind a small letter the rest of a word
of such letters; behind a digit that no small letter follows, the rest of a number; and in any case a word together
with the character in front. -/
structure RunSpelled (run : List Char) : Prop where
  letters : ∀ b, b.isLower = true → EndsWord Char.isLower (spell true (some b) run)
  digits : ∀ b, b.isDigit = true → run.head?.any Char.isLower = false → EndsWord Char.isDigit (spell true (some b) run)
  word : ∀ b, isPlain b = true → Canonical (b :: spell true (some b) run)

theorem canonical_letters {b : Char} {spelled : List Char} (lower : b.isLower = true)
    (ends : EndsWord Char.isLower spelled) : Canonical (b :: spelled) := by
  obtain ⟨more, rest, rfl, all, follows⟩ := ends
  exact Canonical.of_word (.letters (List.cons_ne_nil b more) (List.forall_mem_cons.mpr ⟨lower, all⟩)) follows

theorem canonical_digits {b : Char} {spelled : List Char} (digit : b.isDigit = true)
    (ends : EndsWord Char.isDigit spelled) : Canonical (b :: spelled) := by
  obtain ⟨more, rest, rfl, all, follows⟩ := ends
  exact Canonical.of_word (.digits (List.cons_ne_nil b more) (List.forall_mem_cons.mpr ⟨digit, all⟩)) follows

theorem canonical_numbered {b c : Char} {spelled : List Char} (digit : b.isDigit = true) (lower : c.isLower = true)
    (ends : EndsWord Char.isLower spelled) : Canonical (b :: c :: spelled) := by
  obtain ⟨more, rest, rfl, all, follows⟩ := ends
  exact Canonical.of_word
    (.numbered digit (List.cons_ne_nil c more) (List.forall_mem_cons.mpr ⟨lower, all⟩)) follows

theorem RunSpelled.nil : RunSpelled [] := by
  refine ⟨fun b _ => .nothing _, fun b _ _ => .nothing _, fun b plain => ?_⟩
  rcases (Bool.or_eq_true _ _).mp plain with lower | digit
  · exact canonical_letters lower (.nothing _)
  · exact canonical_digits digit (.nothing _)

/-- The cases are those of the reading: a small letter goes on with small letters, and a digit ends a word of letters
and starts a new one, with the letters behind it or with more digits. -/
theorem RunSpelled.cons {c : Char} {run : List Char} (spelled : RunSpelled run) (first : isPlain c = true)
    (plain : ∀ d ∈ run, isPlain d = true) : RunSpelled (c :: run) := by
  have letters (b : Char) (lower : b.isLower = true) : EndsWord Char.isLower (spell true (some b) (c :: run)) := by
    rcases (Bool.or_eq_true _ _).mp first with same | digit
    · rw [spell_lower (isPlain_of_isLower lower) same]
      exact (spelled.letters c same).cons same
    · rw [spell_digit (isPlain_of_isLower lower) digit plain, lower, Bool.or_true, if_pos rfl]
      exact .words _ (spelled.word c first) (List.cons_ne_nil _ _)
  have digits (b : Char) (before : b.isDigit = true) (digit : c.isDigit = true) :
      EndsWord Char.isDigit (spell true (some b) (c :: run)) := by
    have other : b.isLower = false := by
      rw [(spelledPlain (isPlain_of_isDigit before)).either, before]
      rfl
    rw [spell_digit (isPlain_of_isDigit before) digit plain, other, Bool.or_false]
    cases next : run.head?.any Char.isLower with
    | true => exact .words _ (spelled.word c first) (List.cons_ne_nil _ _)
    | false => exact (spelled.digits c digit next).cons digit
  refine ⟨letters, fun b before next => ?_, fun b before => ?_⟩
  · rcases (Bool.or_eq_true _ _).mp first with lower | digit
    · rw [List.head?_cons, Option.any_some, lower] at next
      cases next
    · exact digits b before digit
  · rcases (Bool.or_eq_true _ _).mp before with lower | digit
    · exact canonical_letters lower (letters b lower)
    · rcases (Bool.or_eq_true _ _).mp first with lower | other
      · rw [spell_lower before lower]
        exact canonical_numbered digit lower (spelled.letters c lower)
      · exact canonical_digits digit (digits b digit other)

/-- Every run of small letters and digits is spelled as words joined by underscores. -/
theorem runSpelled {run : List Char} (plain : ∀ c ∈ run, isPlain c = true) : RunSpelled run := by
  induction run with
  | nil => exact .nil
  | cons c run ih =>
    obtain ⟨first, others⟩ := List.forall_mem_cons.mp plain
    exact (ih others).cons first others

theorem spell_ne_nil {name : List Char} (letter : hasLetter name = true) (begun : Bool) (before : Option Char) :
    spell begun before name ≠ [] := by
  induction name generalizing begun before with
  | nil => cases letter
  | cons c name ih =>
    rw [spell]
    split
    · exact List.append_ne_nil_of_left_ne_nil
        (List.append_ne_nil_of_right_ne_nil _ (lowercase_ne_nil c)) _
    · rename_i other
      rw [hasLetter_cons, Bool.eq_false_iff.mpr other, Bool.false_or] at letter
      exact ih letter begun (some c)

theorem spell_underscore (front rest : List Char) :
    spell false none (front ++ '_' :: rest) =
      spell false none front ++
        ((if hasLetter front && hasLetter rest then ['_'] else []) ++ spell false none rest) :=
  spell_joined (List.cons_ne_nil '_' []) (by rw [hasLetter_cons, isAlphanumeric_underscore]; rfl) front rest

/-- By induction on the length, at an underscore of the name: a name without one is a run. -/
theorem spell_canonical {name : List Char} (plain : ∀ c ∈ name, isPlain c = true ∨ c = '_') :
    Canonical (spell false none name) := by
  induction length : name.length using Nat.strongRecOn generalizing name with
  | ind size ih =>
    by_cases underscore : '_' ∈ name
    · obtain ⟨front, rest, rfl⟩ := List.append_of_mem underscore
      obtain ⟨plainFront, plainRest⟩ := List.forall_mem_append.mp plain
      rw [List.length_append, List.length_cons] at length
      have first := ih front.length (by omega) plainFront rfl
      have second := ih rest.length (by omega) (List.forall_mem_cons.mp plainRest).2 rfl
      rw [spell_underscore]
      cases letter : hasLetter front with
      | false => rwa [spell_separators letter]
      | true =>
        cases other : hasLetter rest with
        | false => rwa [spell_separators other, Bool.and_false, if_neg Bool.false_ne_true, List.append_nil,
            List.append_nil]
        | true => exact first.join second (spell_ne_nil letter _ _) (spell_ne_nil other _ _)
    · cases name with
      | nil => exact .nil
      | cons c run =>
        have all : ∀ d ∈ c :: run, isPlain d = true := by
          intro d member
          exact (plain d member).resolve_right fun same => underscore (same ▸ member)
        obtain ⟨first, others⟩ := List.forall_mem_cons.mp all
        rw [spell_first first]
        exact (runSpelled others).word c first

theorem spell_letters {b : Char} (before : isPlain b = true) {letters : List Char}
    (all : ∀ c ∈ letters, c.isLower = true) : spell true (some b) letters = letters := by
  induction letters generalizing b with
  | nil => rfl
  | cons c letters ih =>
    obtain ⟨lower, others⟩ := List.forall_mem_cons.mp all
    rw [spell_lower before lower, ih (isPlain_of_isLower lower) others]

theorem spell_digits {b : Char} (before : b.isDigit = true) {digits : List Char}
    (all : ∀ c ∈ digits, c.isDigit = true) : spell true (some b) digits = digits := by
  have noLetter {c : Char} (digit : c.isDigit = true) : c.isLower = false := by
    rw [(spelledPlain (isPlain_of_isDigit digit)).either, digit]
    rfl
  induction digits generalizing b with
  | nil => rfl
  | cons c digits ih =>
    obtain ⟨digit, others⟩ := List.forall_mem_cons.mp all
    have next : digits.head?.any Char.isLower = false := by
      cases digits with
      | nil => rfl
      | cons d digits => exact noLetter (others d List.mem_cons_self)
    rw [spell_digit (isPlain_of_isDigit before) digit fun d member => isPlain_of_isDigit (others d member),
      next, noLetter before, ih digit others]
    rfl

/-- Each of the three kinds of words is spelled as it is. -/
theorem spell_word {word : List Char} (isWord : IsWord word) : spell false none word = word := by
  cases isWord with
  | @letters letters nonempty all =>
    obtain ⟨c, more, rfl⟩ := List.exists_cons_of_ne_nil nonempty
    obtain ⟨lower, others⟩ := List.forall_mem_cons.mp all
    have plain := isPlain_of_isLower lower
    rw [spell_first plain, spell_letters plain others]
  | numbered digit _ all =>
    have plain := isPlain_of_isDigit digit
    rw [spell_first plain, spell_letters plain all]
  | @digits digits nonempty all =>
    obtain ⟨c, more, rfl⟩ := List.exists_cons_of_ne_nil nonempty
    obtain ⟨digit, others⟩ := List.forall_mem_cons.mp all
    rw [spell_first (isPlain_of_isDigit digit), spell_digits digit others]

/-- A nonempty text that is spelled as it is has a letter, since separators are not spelled. -/
theorem hasLetter_of_spelled {name : List Char} (nonempty : name ≠ []) (same : spell false none name = name) :
    hasLetter name = true := by
  cases letter : hasLetter name with
  | true => rfl
  | false => exact absurd (same.symm.trans (spell_separators letter _ _)) nonempty

/-- Words are read one after the other, with the underscore between them put back. -/
theorem spell_intercalate {words : List (List Char)} (known : ∀ word ∈ words, IsWord word) :
    spell false none (['_'].intercalate words) = ['_'].intercalate words := by
  induction words with
  | nil => rfl
  | cons word words ih =>
    obtain ⟨first, others⟩ := List.forall_mem_cons.mp known
    cases words with
    | nil => rw [List.intercalate_singleton, spell_word first]
    | cons next words =>
      have front := hasLetter_of_spelled first.ne_nil (spell_word first)
      have rest := hasLetter_of_spelled
        (intercalate_ne_nil (others next List.mem_cons_self).ne_nil words) (ih others)
      rw [List.intercalate_cons_cons, List.append_assoc, List.singleton_append, spell_underscore,
        spell_word first, ih others, front, rest]
      rfl

/-- Canonical names are their own store names. -/
theorem Canonical.spelled {name : List Char} (canonical : Canonical name) : spell false none name = name := by
  obtain ⟨words, known, rfl⟩ := canonical
  exact spell_intercalate known

end EntityLayout.StoreName

namespace EntityLayout

open StoreName

/-- The store name of an ASCII name has small letters, digits and underscores only. -/
theorem storeName_plain {name : String} (ascii : ∀ c ∈ name.toList, c.toNat < 128) :
    ∀ c ∈ (storeName name).toList, isPlain c = true ∨ c = '_' := by
  intro d member
  rw [toList_storeName] at member
  rcases mem_spell member with rfl | ⟨c, among, letter, lower⟩
  · exact Or.inr rfl
  · exact Or.inl ((Bool.or_eq_true _ _).mpr (lowercase_ascii (ascii c among) letter d lower))

theorem storeName_of_canonical {name : String} (canonical : Canonical name.toList) : storeName name = name := by
  apply String.toList_inj.mp
  rw [toList_storeName, canonical.spelled]

/-- A name of small letters, digits and underscores has a canonical store name. -/
theorem storeName_canonical {name : String} (plain : ∀ c ∈ name.toList, isPlain c = true ∨ c = '_') :
    Canonical (storeName name).toList := by
  rw [toList_storeName]
  exact spell_canonical plain

/-- The canonical names are the ASCII names that are their own store names. The store name of an ASCII name need not
be canonical; its store name is, so that taking store names settles after two times. -/
theorem storeName_stable :
    (∀ name : String, (∀ c ∈ name.toList, c.toNat < 128) →
      (storeName name = name ↔ Canonical name.toList) ∧
      Canonical (storeName (storeName name)).toList ∧
      storeName (storeName (storeName name)) = storeName (storeName name)) ∧
    ∃ name : String, (∀ c ∈ name.toList, c.toNat < 128) ∧ storeName (storeName name) ≠ storeName name := by
  refine ⟨fun name ascii => ?_, "0X128", by simp, by decide +kernel⟩
  have plain := storeName_plain ascii
  have twice := storeName_canonical plain
  refine ⟨⟨fun same => ?_, storeName_of_canonical⟩, twice, storeName_of_canonical twice⟩
  rwa [same, same] at twice

/-- The first time leaves `0x12`, where a digit follows a small letter; the second time parts them. -/
theorem storeName_stable_fee :
    (∀ c ∈ "0X128free".toList, c.toNat < 128) ∧ storeName "0X128free" = "0x12_8free" ∧
      storeName (storeName "0X128free") = "0x_12_8free" ∧ Canonical "0x_12_8free".toList ∧
      storeName "0x_12_8free" = "0x_12_8free" ∧ ¬Canonical "0x12_8free".toList := by
  have ascii : ∀ c ∈ "0X128free".toList, c.toNat < 128 := by simp
  have other : ∀ c ∈ "0x12_8free".toList, c.toNat < 128 := by simp
  have once : storeName "0X128free" = "0x12_8free" := by decide +kernel
  have twice : storeName (storeName "0X128free") = "0x_12_8free" := by decide +kernel
  obtain ⟨_, canonical, third⟩ := storeName_stable.1 "0X128free" ascii
  rw [twice] at canonical third
  have changed : storeName "0x12_8free" ≠ "0x12_8free" := by decide +kernel
  exact ⟨ascii, once, twice, canonical, third, fun given => changed ((storeName_stable.1 _ other).1.mpr given)⟩

end EntityLayout
