import EntityLayout.Proofs.Sdl.Lexemes

/-!
# Block strings

The reader of block strings goes from character to character and holds back the quotes that may be the beginning of
the closing ones. Here a block string is read in units instead: three quotes behind a backslash, three quotes that
close it, or any one character. Both find the same end and the same text (`scanBlock_units`), on every text.
-/
namespace EntityLayout.Token

/-- Three quotes behind a backslash, which stand for the quotes alone. -/
def escapedQuotes : List Char :=
  '\\' :: quotes 3

/-- `BlockUnits text meaning ending`: from the front of the text the units up to the closing quotes mean `meaning`,
and `ending` is what is behind these. There is no ending if the text runs out first. -/
inductive BlockUnits : List Char → List Char → Option (List Char) → Prop
  | escape {text meaning : List Char} {ending : Option (List Char)} :
      BlockUnits text meaning ending → BlockUnits (escapedQuotes ++ text) (quotes 3 ++ meaning) ending
  | closing (rest : List Char) : BlockUnits (quotes 3 ++ rest) [] (some rest)
  | character {c : Char} {text meaning : List Char} {ending : Option (List Char)} :
      ¬escapedQuotes <+: c :: text → ¬quotes 3 <+: c :: text →
        BlockUnits text meaning ending → BlockUnits (c :: text) (c :: meaning) ending
  | exhausted : BlockUnits [] [] none

theorem quotes_succ (count : Nat) : quotes (count + 1) = '"' :: quotes count :=
  rfl

theorem quotes_append (count : Nat) (text : List Char) : quotes count ++ '"' :: text = quotes (count + 1) ++ text := by
  rw [quotes, quotes, List.replicate_succ', List.append_assoc]
  rfl

/-- Only a backslash starts three quotes that do not close. -/
theorem not_escaped {c : Char} {text : List Char} (other : c ≠ '\\') : ¬escapedQuotes <+: c :: text := by
  intro starts
  exact other (List.cons_prefix_cons.mp starts).1.symm

theorem head?_ne_quote {text : List Char} (other : ∀ rest, text = '"' :: rest → False) : text.head? ≠ some '"' := by
  intro starts
  obtain ⟨rest, same⟩ := List.head?_eq_some_iff.mp starts
  exact other rest same

/-- Fewer than three quotes close nothing, unless one more comes behind them. -/
theorem not_closing {count : Nat} (few : count ≤ 2) {text : List Char} (ends : text.head? ≠ some '"') :
    ¬quotes 3 <+: quotes count ++ text := by
  have none {more : Nat} (starts : quotes (more + 1) <+: text) : False := by
    obtain ⟨rest, rfl⟩ := starts
    exact ends rfl
  intro starts
  match count, few with
  | 0, _ => exact none starts
  | 1, _ => exact none (List.cons_prefix_cons.mp starts).2
  | 2, _ => exact none (List.cons_prefix_cons.mp (List.cons_prefix_cons.mp starts).2).2

/-- Fewer than three quotes are units of their own, unless one more comes behind them. -/
theorem BlockUnits.quotes {text meaning : List Char} {ending : Option (List Char)}
    (units : BlockUnits text meaning ending) (ends : text.head? ≠ some '"') {count : Nat} (few : count ≤ 2) :
    BlockUnits (quotes count ++ text) (quotes count ++ meaning) ending := by
  induction count with
  | zero => exact units
  | succ count ih =>
    exact .character (not_escaped (by decide)) (not_closing few ends) (ih (Nat.le_of_succ_le few))

/-- A backslash with fewer than three quotes behind it escapes nothing. -/
theorem BlockUnits.backslash {text meaning : List Char} {ending : Option (List Char)}
    (units : BlockUnits text meaning ending) (ends : text.head? ≠ some '"') {count : Nat} (few : count ≤ 2) :
    BlockUnits ('\\' :: (Token.quotes count ++ text)) ('\\' :: (Token.quotes count ++ meaning)) ending := by
  refine .character (fun starts => ?_) (fun starts => ?_) (units.quotes ends few)
  · exact not_closing few ends (List.cons_prefix_cons.mp starts).2
  · exact absurd (List.cons_prefix_cons.mp starts).1 (by decide)

/-- What the reader answers after the units of a text. -/
def blockOutcome (meaning : List Char) : Option (List Char) → Scanned (List Char)
  | some rest => .ok meaning rest
  | none => .error .unterminatedString []

theorem map_blockOutcome (front meaning : List Char) (ending : Option (List Char)) :
    (blockOutcome meaning ending).map (front ++ ·) = blockOutcome (front ++ meaning) ending := by
  cases ending <;> rfl

/-- By induction along the reader: the quotes that it holds back are part of the text that is read in units. -/
theorem scanBlockFrom_units {pending : Nat} (few : pending ≤ 2) (text : List Char) :
    ∃ meaning ending, BlockUnits (quotes pending ++ text) meaning ending ∧
      scanBlockFrom pending text = blockOutcome meaning ending := by
  fun_induction scanBlockFrom pending text with
  | case1 pending =>
    exact ⟨quotes pending ++ [], none, BlockUnits.exhausted.quotes (by simp) few, rfl⟩
  | case2 pending rest closes =>
    refine ⟨[], some rest, ?_, rfl⟩
    rw [quotes_append, closes]
    exact .closing rest
  | case3 pending rest opens ih =>
    rw [quotes_append]
    exact ih (by omega)
  | case4 pending rest ih =>
    obtain ⟨meaning, ending, units, same⟩ := ih (Nat.zero_le 2)
    refine ⟨_, ending, (BlockUnits.escape units).quotes (by simp [escapedQuotes]) few, ?_⟩
    rw [same, map_blockOutcome, List.append_assoc]
  | case5 pending rest third ih =>
    obtain ⟨meaning, ending, units, same⟩ := ih (Nat.zero_le 2)
    have ends := head?_ne_quote third
    refine ⟨_, ending, (units.backslash ends (Nat.le_refl 2)).quotes (by simp) few, ?_⟩
    rw [same, map_blockOutcome, List.append_assoc]
    rfl
  | case6 pending rest second first ih =>
    obtain ⟨meaning, ending, units, same⟩ := ih (Nat.zero_le 2)
    have ends := head?_ne_quote first
    refine ⟨_, ending, (units.backslash ends (Nat.le_succ 1)).quotes (by simp) few, ?_⟩
    rw [same, map_blockOutcome, List.append_assoc]
    rfl
  | case7 pending c rest quote _ _ first ih =>
    obtain ⟨meaning, ending, units, same⟩ := ih (Nat.zero_le 2)
    have single : BlockUnits (c :: rest) (c :: meaning) ending := by
      by_cases backslash : c = '\\'
      · subst backslash
        exact units.backslash (head?_ne_quote fun rest => first rest rfl) (Nat.zero_le 2)
      · exact .character (not_escaped backslash) (not_closing (Nat.zero_le 2) (by simpa using quote)) units
    refine ⟨_, ending, single.quotes (by simpa using quote) few, ?_⟩
    rw [same, map_blockOutcome, List.append_assoc]
    rfl

/-- There is only one way to read a text in units. -/
theorem BlockUnits.unique {text meaning other : List Char} {ending otherEnding : Option (List Char)}
    (units : BlockUnits text meaning ending) (others : BlockUnits text other otherEnding) :
    meaning = other ∧ ending = otherEnding := by
  induction units generalizing other otherEnding with
  | escape _ ih =>
    generalize same : escapedQuotes ++ _ = text at others
    cases others with
    | escape units =>
      obtain rfl := List.append_cancel_left same
      obtain ⟨rfl, rfl⟩ := ih units
      exact ⟨rfl, rfl⟩
    | closing _ => cases same
    | character escaped _ _ => exact absurd ⟨_, same⟩ escaped
    | exhausted => cases same
  | closing rest =>
    generalize same : Token.quotes 3 ++ rest = text at others
    cases others with
    | escape _ => cases same
    | closing _ => exact ⟨rfl, congrArg some (List.append_cancel_left same)⟩
    | character _ closes _ => exact absurd ⟨_, same⟩ closes
    | exhausted => cases same
  | @character c text _ _ escaped closes _ ih =>
    generalize same : c :: text = whole at others
    cases others with
    | escape _ => exact absurd ⟨_, same.symm⟩ escaped
    | closing _ => exact absurd ⟨_, same.symm⟩ closes
    | character _ _ units =>
      cases same
      obtain ⟨rfl, rfl⟩ := ih units
      exact ⟨rfl, rfl⟩
    | exhausted => cases same
  | exhausted =>
    cases others
    exact ⟨rfl, rfl⟩

/-- Whatever stands behind the closing quotes, the units in front of them mean the same. -/
theorem BlockUnits.taken {text meaning rest : List Char} (units : BlockUnits text meaning (some rest)) :
    ∃ taken, text = taken ++ rest ∧ 3 ≤ taken.length ∧
      ∀ behind, BlockUnits (taken ++ behind) meaning (some behind) := by
  generalize closed : some rest = ending at units
  induction units with
  | escape _ ih =>
    obtain ⟨taken, rfl, long, others⟩ := ih closed
    refine ⟨escapedQuotes ++ taken, (List.append_assoc _ _ _).symm, ?_, fun behind => ?_⟩
    · rw [List.length_append]
      exact Nat.le_add_left_of_le long
    · rw [List.append_assoc]
      exact .escape (others behind)
  | closing rest =>
    cases closed
    exact ⟨Token.quotes 3, rfl, Nat.le_refl 3, .closing⟩
  | @character c _ _ _ escaped closes _ ih =>
    obtain ⟨taken, rfl, long, others⟩ := ih closed
    -- The closing quotes are taken too, so that no unit that starts with `c` reaches beyond them.
    have within {unit behind : List Char} (short : unit.length ≤ 4) (starts : unit <+: c :: (taken ++ behind)) :
        unit <+: c :: (taken ++ rest) := by
      have fits : unit.length ≤ (c :: taken).length := by
        rw [List.length_cons]
        omega
      have inside : unit <+: c :: taken :=
        List.prefix_of_prefix_length_le starts (List.prefix_append (c :: taken) behind) fits
      exact inside.trans (List.prefix_append (c :: taken) rest)
    refine ⟨c :: taken, rfl, Nat.le_succ_of_le long, fun behind => ?_⟩
    exact .character (escaped ∘ within (by decide)) (closes ∘ within (by decide)) (others behind)
  | exhausted => cases closed

/-- A block string is read exactly when its units end with three quotes, and it is what they mean. -/
theorem scanBlock_ok_iff {text meaning rest : List Char} :
    scanBlock text = .ok meaning rest ↔ BlockUnits text meaning (some rest) := by
  obtain ⟨found, ending, units, same⟩ := scanBlockFrom_units (Nat.zero_le 2) text
  change scanBlock text = _ at same
  rw [same]
  constructor
  · intro read
    cases ending with
    | none => cases read
    | some behind => cases read; exact units
  · intro given
    obtain ⟨rfl, rfl⟩ := units.unique given
    rfl

/-- Otherwise all of the text is taken up, since no quotes close the block string. -/
theorem scanBlock_error_iff {text rest : List Char} {cause : LexError} :
    scanBlock text = .error cause rest ↔
      cause = .unterminatedString ∧ rest = [] ∧ ∃ meaning, BlockUnits text meaning none := by
  obtain ⟨found, ending, units, same⟩ := scanBlockFrom_units (Nat.zero_le 2) text
  change scanBlock text = _ at same
  rw [same]
  constructor
  · intro read
    cases ending with
    | none => cases read; exact ⟨rfl, rfl, found, units⟩
    | some behind => cases read
  · rintro ⟨rfl, rfl, meaning, given⟩
    obtain ⟨rfl, rfl⟩ := units.unique given
    rfl

/-- Three quotes start a block string, whatever stands behind them. -/
theorem scan_block (text : List Char) :
    scan (quotes 3 ++ text) = (scanBlock text).map (.str ∘ String.ofList) := by
  rw [quotes_succ, List.cons_append, scan, dropIgnored_graphic (by decide)]
  rfl

/-- A block string is what its units mean, up to the first unit of three quotes, and what is behind these is left
unread. Where the text runs out before such a unit, all of it is read and the string has no end. -/
theorem scanBlock_units (text : List Char) :
    scan (quotes 3 ++ text) = (scanBlock text).map (.str ∘ String.ofList) ∧
    (∀ meaning rest, scanBlock text = .ok meaning rest ↔ BlockUnits text meaning (some rest)) ∧
    ∀ cause rest, scanBlock text = .error cause rest ↔
      cause = .unterminatedString ∧ rest = [] ∧ ∃ meaning, BlockUnits text meaning none :=
  ⟨scan_block text, fun _ _ => scanBlock_ok_iff, fun _ _ => scanBlock_error_iff⟩

/-- Held-back quotes, an escape with too few quotes, one right behind a backslash, and four closing quotes. -/
example : scanBlock "\"\"a\\\"\"b\\\\\"\"\"\"\"\"\"".toList = .ok "\"\"a\\\"\"b\\\"\"\"".toList ['"'] := by
  rfl

end EntityLayout.Token
