import EntityLayout.Proofs.Calls
import EntityLayout.Proofs.Sdl.Locality

/-!
# Progress of the lexer

The lexer goes on behind its failures. Whatever a text is like, each call takes up some of it (`scan_shortens`), so
that the end comes after as many calls as there are characters at the latest. `tokenize` is such a run of calls up to
the first one that fails or finds the end (`scan_progress`).
-/
namespace EntityLayout
namespace Token

/-- The reader leaves a suffix of its text, also where it fails. -/
def LeavesSuffix {α : Type} (reader : List Char → Scanned α) : Prop :=
  ∀ text, leftBy (reader text) <:+ text

section
variable {α β : Type}

theorem leftBy_map (change : α → β) (outcome : Scanned α) : leftBy (outcome.map change) = leftBy outcome := by
  cases outcome with
  | ok value rest => rfl
  | error cause rest => rfl

theorem suffix_behind {left text : List Char} (front : List Char) (suffix : left <:+ text) : left <:+ front ++ text :=
  suffix.trans (List.suffix_append front text)

/-- What is left of a text behind some others that have been read. -/
theorem LeavesSuffix.map_behind {reader : List Char → Scanned α} {text : List Char} (change : α → β) (front : List Char)
    (leaves : leftBy (reader text) <:+ text) : leftBy ((reader text).map change) <:+ front ++ text := by
  rw [leftBy_map]
  exact suffix_behind front leaves

end

theorem scanName_leaves (first : Char) : LeavesSuffix (scanName first) :=
  fun _ => List.dropWhile_suffix _

/-- A number takes characters from the front only, also when it is refused. -/
theorem scanNumber_leaves (first : Char) : LeavesSuffix (scanNumber first) := by
  intro text
  unfold scanNumber
  simp only
  split
  · exact List.drop_suffix _ _
  · exact List.drop_suffix _ _

theorem scanSpread_leaves : LeavesSuffix scanSpread := by
  intro text
  unfold scanSpread
  split
  · exact suffix_behind ['.', '.'] (List.suffix_refl _)
  · exact suffix_behind ['.', _] (List.suffix_refl _)
  · exact List.tail_suffix text

theorem scanBadCodePoint_leaves {α : Type} : LeavesSuffix (scanBadCodePoint (α := α)) := by
  intro text
  unfold scanBadCodePoint
  simp only
  split
  · exact List.nil_suffix
  · exact List.drop_suffix _ _

/-- By induction along the reader, unit by unit. -/
theorem scanQuoted_leaves : LeavesSuffix scanQuoted := by
  intro text
  fun_induction scanQuoted text with
  | case1 => exact List.nil_suffix
  | case2 rest => exact suffix_behind ['"'] (List.suffix_refl rest)
  | case3 rest => exact suffix_behind ['\n'] (List.suffix_refl rest)
  | case4 => exact List.nil_suffix
  | case5 a b c d rest meaning _ _ _ ih => exact LeavesSuffix.map_behind _ ['\\', 'u', a, b, c, d] ih
  | case6 => exact suffix_behind ['\\', 'u'] (scanBadCodePoint_leaves _)
  | case7 => exact suffix_behind ['\\', 'u'] (scanBadCodePoint_leaves _)
  | case8 escape rest _ meaning _ _ _ ih => exact LeavesSuffix.map_behind _ ['\\', escape] ih
  | case9 escape rest => exact suffix_behind ['\\', escape] (List.suffix_refl rest)
  | case10 c rest _ _ _ ih => exact LeavesSuffix.map_behind _ [c] ih

theorem scanBlockFrom_leaves (pending : Nat) : LeavesSuffix (scanBlockFrom pending) := by
  intro text
  fun_induction scanBlockFrom pending text with
  | case1 => exact List.nil_suffix
  | case2 _ rest => exact suffix_behind ['"'] (List.suffix_refl rest)
  | case3 _ rest _ ih => exact suffix_behind ['"'] ih
  | case4 _ rest ih => exact LeavesSuffix.map_behind _ ('\\' :: quotes 3) ih
  | case5 _ rest _ ih => exact LeavesSuffix.map_behind _ ('\\' :: quotes 2) ih
  | case6 _ rest _ _ ih => exact LeavesSuffix.map_behind _ ('\\' :: quotes 1) ih
  | case7 _ c rest _ _ _ _ ih => exact LeavesSuffix.map_behind _ [c] ih

theorem scanString_leaves : LeavesSuffix scanString := by
  intro text
  unfold scanString
  split
  · exact LeavesSuffix.map_behind _ ['"', '"'] (scanBlockFrom_leaves 0 _)
  · exact suffix_behind ['"'] (List.suffix_refl _)
  · exact LeavesSuffix.map_behind _ [] (scanQuoted_leaves _)

/-- The first character of a lexeme is taken up, whatever becomes of the rest. -/
theorem scan_leaves {c : Char} (separates : isSeparator c = false) (comment : c ≠ '#') :
    LeavesSuffix fun rest => scan (c :: rest) := by
  intro rest
  have kept : dropIgnored (c :: rest) = c :: rest := by
    rw [dropIgnored, separates, if_neg Bool.false_ne_true, if_neg comment]
  simp only [scan, kept]
  split
  · exact List.suffix_refl rest
  · split
    · exact scanSpread_leaves rest
    · split
      · exact scanString_leaves rest
      · split
        · exact scanNumber_leaves c rest
        · split
          · exact scanName_leaves c rest
          · exact List.suffix_refl rest

/-- A call leaves a suffix of the text. It is shorter than the text, unless there is nothing to read. -/
theorem scan_shortens (text : List Char) :
    leftBy (scan text) <:+ text ∧
      ((leftBy (scan text)).length < text.length ∨ text = [] ∧ scan text = .ok .eof []) := by
  rcases parts text with trail | ⟨gap, behind, rfl, ignored, c, rest, rfl, separates, comment⟩
  · have ended : scan text = .ok .eof [] := scan_eof_iff.mpr ⟨trail, rfl⟩
    rw [ended]
    refine ⟨List.nil_suffix, ?_⟩
    cases text with
    | nil => exact Or.inr ⟨rfl, rfl⟩
    | cons c text => exact Or.inl (Nat.zero_lt_succ _)
  · rw [scan_gap ignored]
    have leaves : leftBy (scan (c :: rest)) <:+ rest := scan_leaves separates comment rest
    have short := leaves.length_le
    refine ⟨suffix_behind gap (suffix_behind [c] leaves), Or.inl ?_⟩
    rw [List.length_append, List.length_cons]
    omega

section
variable (text : List Char)

/-- Unless nothing is left, each call has taken up a character at least. -/
theorem unread_length (calls : Nat) :
    stateAfter scan text calls = [] ∨ (stateAfter scan text calls).length + calls ≤ text.length := by
  induction calls with
  | zero => exact Or.inr (Nat.le_refl _)
  | succ calls ih =>
    rw [stateAfter_succ]
    rcases (scan_shortens (stateAfter scan text calls)).2 with shorter | ⟨empty, ended⟩
    · rcases ih with empty | bounded
      · rw [empty] at shorter
        exact absurd shorter (Nat.not_lt_zero _)
      · exact Or.inr (by omega)
    · rw [ended]
      exact Or.inl rfl

/-- After as many calls as there are characters nothing is left to read. -/
theorem unread_exhausted {calls : Nat} (enough : text.length ≤ calls) : stateAfter scan text calls = [] := by
  rcases unread_length text calls with empty | bounded
  · exact empty
  · exact List.eq_nil_of_length_eq_zero (by omega)

/-- Reading all tokens is a run of calls up to the first one that fails or finds the end. -/
theorem scanAll_run {count : Nat} (enough : text.length < count) :
    ∃ tokens : List Token, .eof ∉ tokens ∧ tokens.length ≤ text.length ∧
      (∀ (call : Nat) (inside : call < tokens.length), answerAfter scan text call = .ok tokens[call]) ∧
      (answerAfter scan text tokens.length = .ok .eof ∧ scanAll count text = .ok (tokens ++ [.eof]) ∨
        ∃ cause, answerAfter scan text tokens.length = .error cause ∧ scanAll count text = .error cause) := by
  induction count generalizing text with
  | zero => exact absurd enough (Nat.not_lt_zero _)
  | succ count ih =>
    have shortens := (scan_shortens text).2
    have noCalls (call : Nat) (inside : call < ([] : List Token).length) :
        answerAfter scan text call = .ok ([] : List Token)[call] := absurd inside (Nat.not_lt_zero call)
    cases read : scan text with
    | error cause rest =>
      have first : answerAfter scan text 0 = .error cause := by rw [answerAfter, stateAfter_zero, read]; rfl
      refine ⟨[], List.not_mem_nil, Nat.zero_le _, noCalls, Or.inr ⟨cause, first, ?_⟩⟩
      rw [scanAll, read]
    | ok token rest =>
      have first : answerAfter scan text 0 = .ok token := by rw [answerAfter, stateAfter_zero, read]; rfl
      by_cases ended : token = .eof
      · subst ended
        refine ⟨[], List.not_mem_nil, Nat.zero_le _, noCalls, Or.inl ⟨first, ?_⟩⟩
        rw [scanAll, read]
        rfl
      · have shorter : rest.length < text.length := by
          rw [read] at shortens
          rcases shortens with shorter | ⟨_, same⟩
          · exact shorter
          · cases same
            exact absurd rfl ended
        obtain ⟨tokens, proper, few, answers, outcome⟩ := ih rest (by omega)
        obtain rfl : leftBy (scan text) = rest := by rw [read]; rfl
        refine ⟨token :: tokens, ?_, by rw [List.length_cons]; omega, answers_cons .ok first answers, ?_⟩
        · rw [List.mem_cons, not_or]
          exact ⟨Ne.symm ended, proper⟩
        · rw [List.length_cons, answerAfter_succ', scanAll_cons read ended]
          rcases outcome with ⟨last, others⟩ | ⟨cause, last, others⟩
          · exact Or.inl ⟨last, by rw [others]; rfl⟩
          · exact Or.inr ⟨cause, last, by rw [others]; rfl⟩

end

end Token

open Token

/-- Calls of the lexer on a source, also those behind failures, leave shorter and shorter suffixes of it, until nothing
is left and every call finds the end: this is so behind as many calls as the source has characters. Reading all tokens
fails as the first call does that fails in front of the end, or it finds the tokens in front of the first end, which are
no more than the source has characters, and the end. -/
theorem scan_progress (source : String) :
    (∀ calls, stateAfter scan source.toList calls <:+ source.toList) ∧
    (∀ calls, (stateAfter scan source.toList (calls + 1)).length < (stateAfter scan source.toList calls).length ∨
      stateAfter scan source.toList calls = [] ∧ answerAfter scan source.toList calls = .ok .eof) ∧
    (∀ calls, source.length ≤ calls → answerAfter scan source.toList calls = .ok .eof) ∧
    ∃ tokens : List Token, .eof ∉ tokens ∧ tokens.length ≤ source.length ∧
      (∀ (call : Nat) (inside : call < tokens.length), answerAfter scan source.toList call = .ok tokens[call]) ∧
      (answerAfter scan source.toList tokens.length = .ok .eof ∧ tokenize source = .ok (tokens ++ [.eof]) ∨
        ∃ cause, answerAfter scan source.toList tokens.length = .error cause ∧ tokenize source = .error cause) := by
  have ends {text : List Char} (empty : text = []) : answerOf (scan text) = .ok .eof := by
    subst empty
    rfl
  rw [← String.length_toList]
  refine ⟨?_, fun calls => ?_, fun calls enough => ?_, scanAll_run source.toList (Nat.lt_succ_self _)⟩
  · apply stateAfter_invariant (· <:+ source.toList) (List.suffix_refl _)
    intro text suffix
    exact (scan_shortens text).1.trans suffix
  · rw [stateAfter_succ]
    rcases (scan_shortens (stateAfter scan source.toList calls)).2 with shorter | ⟨empty, _⟩
    · exact Or.inl shorter
    · exact Or.inr ⟨empty, ends empty⟩
  · exact ends (unread_exhausted _ enough)

end EntityLayout
