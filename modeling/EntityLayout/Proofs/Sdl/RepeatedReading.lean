import EntityLayout.Proofs.Calls
import EntityLayout.Proofs.Sdl.Diagnosis
import EntityLayout.Proofs.Sdl.Locality

/-!
# Reading again

A reader that is called again goes on where the call before it ended or failed. Each call ends, since every loop of the
readers takes a token in each of its rounds (`loop_ends`). Calls only move forwards, and they never take more than the
end behind the last token (`call_moves`). Once a call has come to the end, nothing is left for the others, and where a
call takes nothing, all others answer the same (`parse_repeated`).
-/
namespace EntityLayout
open Reader Grammar

/-- The steps of the loops in the readers. -/
inductive Loop : {α : Type} → Reader (Option α) → Prop
  | definitions : Loop definition
  | fields : Loop (describedStep (stepUntil .closeBrace field))
  | members : Loop (describedStep (stepUntil .closeBrace enumValue))
  | interfaces : Loop (stepAfter .ampersand name)
  | directives : Loop (stepAfter .atSign directive)
  | arguments : Loop (stepUntil .closeParen (argumentOf (value maxDepth)))
  | items (room : Nat) : Loop (stepUntil .closeBracket (value room))
  | entries (room : Nat) : Loop (stepUntil .closeBrace (argumentOf (value room)))

section
variable {α : Type} {step : Reader (Option α)}

/-- A loop that calls its step again and again comes to an end: after no more items than there are tokens, a step
finds none or fails, and this is the outcome of the loop. -/
def LoopEnds (step : Reader (Option α)) (tokens : List Token) : Prop :=
  ∃ items : List α, items.length ≤ tokens.length ∧
    (∀ (round : Nat) (inside : round < items.length), answerAfter step.run tokens round = .ok (some items[round])) ∧
    (answerAfter step.run tokens items.length = .ok none ∧
        collect step tokens = .ok items (stateAfter step.run tokens (items.length + 1)) ∨
      ∃ cause, answerAfter step.run tokens items.length = .error cause ∧
        collect step tokens = .error cause (stateAfter step.run tokens (items.length + 1)))

theorem loopEnds_of_progress (progress : Progress step) (tokens : List Token) : LoopEnds step tokens := by
  induction length : tokens.length using Nat.strongRecOn generalizing tokens with
  | _ count ih =>
    unfold LoopEnds
    rw [collect_eq progress]
    have noRounds (round : Nat) (inside : round < ([] : List α).length) :
        answerAfter step.run tokens round = .ok (some ([] : List α)[round]) := absurd inside (Nat.not_lt_zero round)
    cases taken : step tokens with
    | error cause rest =>
      have first : answerAfter step.run tokens 0 = .error cause := congrArg answerOf taken
      have left : stateAfter step.run tokens 1 = rest := congrArg leftBy taken
      refine ⟨[], Nat.zero_le _, noRounds, Or.inr ⟨cause, first, ?_⟩⟩
      rw [List.length_nil, left]
      exact bind_of_error taken
    | ok answer rest =>
      have first : answerAfter step.run tokens 0 = .ok answer := congrArg answerOf taken
      have left : stateAfter step.run tokens 1 = rest := congrArg leftBy taken
      cases answer with
      | none =>
        refine ⟨[], Nat.zero_le _, noRounds, Or.inl ⟨first, ?_⟩⟩
        rw [List.length_nil, left]
        exact bind_of_ok taken
      | some item =>
        have shorter : rest.length < count := length ▸ progress tokens item rest taken
        obtain ⟨items, few, answers, outcome⟩ := ih rest.length shorter rest rfl
        obtain rfl : leftBy (step.run tokens) = rest := left
        refine ⟨item :: items, by rw [List.length_cons]; omega,
          answers_cons (fun item => .ok (some item)) first answers, ?_⟩
        · rw [List.length_cons, answerAfter_succ', stateAfter_succ']
          have again : round step (collect step) tokens =
              (do return item :: (← collect step)) (leftBy (step.run tokens)) := bind_of_ok taken
          rw [again]
          rcases outcome with ⟨last, others⟩ | ⟨cause, last, others⟩
          · exact Or.inl ⟨last, bind_of_ok others⟩
          · exact Or.inr ⟨cause, last, bind_of_error others⟩

/-- Every loop of the readers takes a token in each round in which it finds an item. -/
theorem Loop.progress (loop : Loop step) : Progress step := by
  have values (room : Nat) : Starts (ValueWithin (room + 1)) [] := fun within =>
    DerivesValue.starts.narrow (List.nil_subset _) within.1
  have arguments (limit : Nat) : Starts (ArgumentWithin limit) [] := fun within =>
    DerivesArgument.starts (fun _ => List.not_mem_nil) within.1
  cases loop with
  | definitions => exact definition_progress
  | fields =>
    exact describedStep_progress (DerivesField.startsWithName fun _ => List.not_mem_nil)
      (stepUntil_sound (by simp) field_recognizes)
  | members =>
    exact describedStep_progress (DerivesMember.startsWithName fun _ => List.not_mem_nil)
      (stepUntil_sound (by simp) enumValue_recognizes)
  | interfaces => exact stepAfter_progress (by simp) name_recognizes
  | directives => exact stepAfter_progress (by simp) directive_recognizes
  | arguments =>
    exact stepUntil_progress (by simp) (arguments _) (argumentOf_recognizes (value_recognizes maxDepth))
  | items room => exact stepUntil_progress (by simp) (values room) (value_recognizes room)
  | entries room =>
    exact stepUntil_progress (by simp) (arguments _) (argumentOf_recognizes (value_recognizes room))

/-- Hence none of them runs forever, and the bound on rounds is never reached. -/
theorem loop_ends (loop : Loop step) (tokens : List Token) : LoopEnds step tokens :=
  loopEnds_of_progress loop.progress tokens

end

/-- The tokens as they are read: behind the last one, the end is found again and again. -/
def withEnds (ends : Nat) (tokens : List Token) : List Token :=
  tokens ++ List.replicate ends .eof

/-- The token starts neither a description nor a definition, and it is not the end. -/
structure StartsNothing (token : Token) : Prop where
  proper : token ≠ .eof
  text (text : String) : token ≠ .str text
  name (word : String) : token ≠ .name word

/-- The end that the lexer gives is the first of the ends. -/
theorem withEnds_end (ends : Nat) (tokens : List Token) :
    withEnds ends (tokens ++ [.eof]) = withEnds (ends + 1) tokens := by
  rw [withEnds, withEnds, List.append_assoc, List.replicate_succ, List.singleton_append]

theorem ParseError.unread_cases (cause : ParseError) :
    (∀ bad behind, cause.unread bad behind = behind) ∨ ∀ bad behind, cause.unread bad behind = bad :: behind := by
  unfold ParseError.unread
  split
  · exact Or.inl fun _ _ => rfl
  · exact Or.inr fun _ _ => rfl
  · exact Or.inl fun _ _ => rfl

/-- Where only the end is left, the document is empty, and nothing is taken. -/
theorem document_ended {tokens : List Token} (ended : tokens.headD .eof = .eof) :
    Reader.document.run tokens = .ok ⟨[]⟩ tokens := by
  have empty : Reader.document [] = .ok ⟨[]⟩ [] := rfl
  obtain ⟨front, takes, _, same⟩ := (document_diagnoses.everywhere []).success empty
  obtain ⟨rfl, _⟩ := List.append_eq_nil_iff.mp takes.split.symm
  exact same tokens ended

theorem definitionOf_nil (keyword : String) : ∃ cause, definitionOf keyword [] = .error cause [] := by
  unfold definitionOf
  repeat' split
  all_goals exact ⟨_, rfl⟩

/-- A failure that takes nothing is at a token that no definition starts with. Words are always taken. -/
theorem document_kept {bad : Token} {cause : ParseError} (proper : bad ≠ .eof)
    (failed : Reader.document.run [bad] = .error cause [bad]) :
    StartsNothing bad ∧ cause = .unexpected bad .definition := by
  cases bad with
  | str text => exact nomatch failed
  | name word =>
    obtain ⟨thrown, fails⟩ := definitionOf_nil word
    have step : definition [.name word] = .error thrown [] := by
      change (definitionOf word >>= fun found => pure (some found)) [] = _
      exact bind_of_error fails
    have loop : collect definition [.name word] = .error thrown [] := bind_of_error step
    cases failed.symm.trans (bind_of_error loop)
  | eof => exact absurd rfl proper
  | _ =>
    cases failed
    exact ⟨⟨by simp, by simp, by simp⟩, rfl⟩

/-- What a call makes of the tokens, however often the end is found behind them. -/
inductive Reading (tokens : List Token) : Prop
  | read (document : Document) :
      (∀ ends, Reader.document.run (withEnds (ends + 1) tokens) = .ok document (withEnds (ends + 1) [])) →
        Reading tokens
  | ended : (∀ ends, Reader.document.run (withEnds (ends + 1) tokens) = .error .unexpectedEnd (withEnds ends [])) →
        Reading tokens
  | failed {cause : ParseError} {rest : List Token} : cause ≠ .unexpectedEnd → rest <:+ tokens →
      (∀ ends, Reader.document.run (withEnds (ends + 1) tokens) = .error cause (withEnds (ends + 1) rest)) →
      (rest = tokens → ∃ found behind, tokens = found :: behind ∧ StartsNothing found ∧
        cause = .unexpected found .definition) → Reading tokens

/-- The token that does not fit is taken or not, and nothing behind it matters. -/
theorem reading_failed {front : List Token} {bad : Token} {cause : ParseError} (other : cause ≠ .unexpectedEnd)
    (fits : bad ≠ .eof)
    (final : ∀ again, Reader.document.run (front ++ bad :: again) = .error cause (cause.unread bad again))
    (behind : List Token) : Reading (front ++ bad :: behind) := by
  have fails (ends : Nat) : Reader.document.run (withEnds (ends + 1) (front ++ bad :: behind)) =
      .error cause (cause.unread bad (withEnds (ends + 1) behind)) := by
    rw [withEnds, List.append_assoc]
    exact final _
  rcases cause.unread_cases with taken | kept
  · have suffix : behind <:+ front ++ bad :: behind := ⟨front ++ [bad], (List.append_cons _ _ _).symm⟩
    refine .failed other suffix (fun ends => ?_) fun same => ?_
    · rw [fails, taken]
    · have longer := congrArg List.length same
      rw [List.length_append, List.length_cons] at longer
      omega
  · refine .failed other (List.suffix_append front _) (fun ends => ?_) fun same => ?_
    · rw [fails, kept]
      rfl
    · obtain rfl : front = [] := List.self_eq_append_left.mp same
      have alone : Reader.document.run [bad] = .error cause [bad] := kept bad [] ▸ final []
      obtain ⟨startsNothing, rfl⟩ := document_kept fits alone
      exact ⟨bad, behind, rfl, startsNothing, rfl⟩

/-- A call comes to the end, stops behind the token at fault, or stops at it. -/
theorem exists_reading {tokens : List Token} (proper : .eof ∉ tokens) : Reading tokens := by
  have diagnoses := document_diagnoses.everywhere (tokens ++ [.eof])
  cases outcome : Reader.document.run (tokens ++ [.eof]) with
  | ok document rest =>
    obtain ⟨_, _, _, ended⟩ := document_sound outcome
    obtain ⟨front, takes, _, same⟩ := diagnoses.success outcome
    obtain rfl := eq_of_takes proper takes ended
    exact .read document fun ends => same (withEnds (ends + 1) []) ended.symm
  | error cause rest =>
    cases diagnoses.failure outcome with
    | atEnd ended takes empty viable final =>
      obtain rfl := eq_of_takes proper takes empty
      subst ended
      exact .ended fun ends => final (withEnds (ends + 1) []) rfl
    | atToken other fits takes viable deep final =>
      obtain ⟨behind, rfl, _⟩ := split_front fits takes.split
      exact reading_failed other fits final behind

/-- Behind `tokens` comes the end. A call that starts behind the first `start` tokens takes those up to `finish`, which
comes to the end, or behind it, if the call reads a document or misses a token. It takes nothing only where nothing is
left or a token does not fit. -/
structure Moves (tokens : List Token) (start finish : Nat) (answer : Except ParseError Document) : Prop where
  answers (ends : Nat) : answerOf (Reader.document.run ((withEnds (ends + 1) tokens).drop start)) = answer
  leaves (ends : Nat) :
    leftBy (Reader.document.run ((withEnds (ends + 1) tokens).drop start)) = (withEnds (ends + 1) tokens).drop finish
  forwards : start ≤ finish
  inside : finish ≤ tokens.length + 1
  exhausts : (∃ document, answer = .ok document) ∨ answer = .error .unexpectedEnd → tokens.length ≤ finish
  kept : finish = start → answer = .ok ⟨[]⟩ ∨
    ∃ found, tokens[start]? = some found ∧ StartsNothing found ∧ answer = .error (.unexpected found .definition)

section
variable {tokens : List Token} {start : Nat}

theorem drop_withEnds (inside : start ≤ tokens.length) (ends : Nat) :
    (withEnds ends tokens).drop start = withEnds ends (tokens.drop start) :=
  List.drop_append_of_le_length inside

/-- Behind all tokens and the first end. -/
theorem drop_behind (ends : Nat) (tokens : List Token) :
    (withEnds (ends + 1) tokens).drop (tokens.length + 1) = withEnds ends [] := by
  rw [← List.drop_drop, drop_withEnds (Nat.le_refl _), List.drop_length]
  rfl

/-- At the end, or behind it, nothing is left. -/
theorem moves_ended (ended : tokens.length ≤ start) (inside : start ≤ tokens.length + 1) :
    Moves tokens start start (.ok ⟨[]⟩) := by
  have left (ends : Nat) : ((withEnds (ends + 1) tokens).drop start).headD .eof = .eof := by
    rcases Nat.le_or_eq_of_le_succ inside with before | rfl
    · obtain rfl := Nat.le_antisymm before ended
      rw [drop_withEnds (Nat.le_refl _), List.drop_length]
      rfl
    · rw [drop_behind]
      cases ends with
      | zero => rfl
      | succ ends => rfl
  have call (ends : Nat) := document_ended (left ends)
  exact ⟨fun ends => congrArg answerOf (call ends), fun ends => congrArg leftBy (call ends), Nat.le_refl _, inside,
    fun _ => ended, fun _ => Or.inl rfl⟩

/-- In front of the end, a call reads a document, misses a token, or fails at one. -/
theorem moves_inside (proper : .eof ∉ tokens) (inside : start < tokens.length) :
    ∃ finish answer, Moves tokens start finish answer := by
  have within := Nat.le_of_lt inside
  have left : .eof ∉ tokens.drop start := fun member => proper (List.mem_of_mem_drop member)
  cases exists_reading left with
  | read document same =>
    refine ⟨tokens.length, .ok document, fun ends => ?_, fun ends => ?_, by omega, by omega, fun _ => by omega,
      fun kept => by omega⟩
    · rw [drop_withEnds within, same]
      rfl
    · rw [drop_withEnds within, same, drop_withEnds (Nat.le_refl _), List.drop_length]
      rfl
  | ended same =>
    refine ⟨tokens.length + 1, .error .unexpectedEnd, fun ends => ?_, fun ends => ?_, by omega, by omega,
      fun _ => by omega, fun kept => by omega⟩
    · rw [drop_withEnds within, same]
      rfl
    · rw [drop_withEnds within, same, drop_behind]
      rfl
  | @failed cause rest other suffix same stays =>
    have whole : rest <:+ tokens := suffix.trans (List.drop_suffix start tokens)
    have short : rest.length ≤ tokens.length - start := List.length_drop ▸ suffix.length_le
    have dropped : tokens.drop (tokens.length - rest.length) = rest := (List.suffix_iff_eq_drop.mp whole).symm
    refine ⟨tokens.length - rest.length, .error cause, fun ends => ?_, fun ends => ?_, by omega, by omega, ?_,
      fun kept => ?_⟩
    · rw [drop_withEnds within, same]
      rfl
    · rw [drop_withEnds within, same, drop_withEnds (Nat.sub_le _ _), dropped]
      rfl
    · rintro (⟨document, success⟩ | ended)
      · cases success
      · exact absurd (Except.error.inj ended) other
    · rw [kept] at dropped
      obtain ⟨found, behind, starts, startsNothing, rfl⟩ := stays dropped.symm
      refine Or.inr ⟨found, ?_, startsNothing, rfl⟩
      rw [← List.head?_drop, starts]
      rfl

/-- Wherever a call starts, it goes on from there, and in the same way however often the end is found. -/
theorem call_moves (proper : .eof ∉ tokens) (inside : start ≤ tokens.length + 1) :
    ∃ finish answer, Moves tokens start finish answer := by
  by_cases ended : tokens.length ≤ start
  · exact ⟨start, _, moves_ended ended inside⟩
  · exact moves_inside proper (Nat.lt_of_not_le ended)

end

/-- How many tokens the calls have taken. -/
def positionAfter (ends : Nat) (tokens : List Token) (calls : Nat) : Nat :=
  (withEnds ends tokens).length - (stateAfter Reader.document.run (withEnds ends tokens) calls).length

section
variable {tokens : List Token}

/-- By induction on the calls, each of which moves on from where the one before it has come to. -/
theorem exists_place (proper : .eof ∉ tokens) (calls : Nat) : ∃ place ≤ tokens.length + 1, ∀ ends,
    stateAfter Reader.document.run (withEnds (ends + 1) tokens) calls = (withEnds (ends + 1) tokens).drop place := by
  induction calls with
  | zero => exact ⟨0, Nat.zero_le _, fun _ => rfl⟩
  | succ calls ih =>
    obtain ⟨place, inside, states⟩ := ih
    obtain ⟨finish, answer, moves⟩ := call_moves proper inside
    refine ⟨finish, moves.inside, fun ends => ?_⟩
    rw [stateAfter_succ, states, moves.leaves]

theorem positionAfter_eq {ends calls place : Nat} (inside : place ≤ tokens.length + 1)
    (left : stateAfter Reader.document.run (withEnds (ends + 1) tokens) calls =
      (withEnds (ends + 1) tokens).drop place) : positionAfter (ends + 1) tokens calls = place := by
  rw [positionAfter, left, List.length_drop, withEnds, List.length_append, List.length_replicate]
  omega

theorem positionAfter_end (ends : Nat) (tokens : List Token) (calls : Nat) :
    positionAfter ends (tokens ++ [.eof]) calls = positionAfter (ends + 1) tokens calls := by
  rw [positionAfter, positionAfter, withEnds_end]

/-- What is left behind a number of calls, and what the next one does. -/
structure Called (tokens : List Token) (calls start finish : Nat) (answer : Except ParseError Document) : Prop where
  left (ends : Nat) :
    stateAfter Reader.document.run (withEnds (ends + 1) tokens) calls = (withEnds (ends + 1) tokens).drop start
  moves : Moves tokens start finish answer

/-- For every call there is a place where it starts, one where it ends, and an answer. -/
theorem exists_called (proper : .eof ∉ tokens) (calls : Nat) :
    ∃ start finish answer, Called tokens calls start finish answer := by
  obtain ⟨start, inside, left⟩ := exists_place proper calls
  obtain ⟨finish, answer, moves⟩ := call_moves proper inside
  exact ⟨start, finish, answer, left, moves⟩

section
variable {calls start finish later : Nat} {answer : Except ParseError Document}

theorem Called.leaves (called : Called tokens calls start finish answer) (ends : Nat) :
    stateAfter Reader.document.run (withEnds (ends + 1) tokens) (calls + 1) =
      (withEnds (ends + 1) tokens).drop finish := by
  rw [stateAfter_succ, called.left, called.moves.leaves]

/-- The answer of a call does not depend on how many ends stand behind the tokens. -/
theorem Called.answered (called : Called tokens calls start finish answer) (ends : Nat) :
    answerAfter Reader.document.run (withEnds (ends + 1) tokens) calls = answer := by
  rw [answerAfter, called.left, called.moves.answers]

theorem Called.position (called : Called tokens calls start finish answer) (ends : Nat) :
    positionAfter (ends + 1) tokens calls = start :=
  positionAfter_eq (called.moves.forwards.trans called.moves.inside) (called.left ends)

theorem Called.next (called : Called tokens calls start finish answer) (ends : Nat) :
    positionAfter (ends + 1) tokens (calls + 1) = finish :=
  positionAfter_eq called.moves.inside (called.leaves ends)

/-- Where a call comes to the end, all others behind it read the empty document. -/
theorem Called.ended (called : Called tokens calls start finish answer) (ended : tokens.length ≤ finish) (ends : Nat)
    (behind : calls < later) : answerAfter Reader.document.run (withEnds (ends + 1) tokens) later = .ok ⟨[]⟩ := by
  have stays := moves_ended ended called.moves.inside
  have stuck : stateAfter Reader.document.run (withEnds (ends + 1) tokens) (calls + 1 + 1) =
      stateAfter Reader.document.run (withEnds (ends + 1) tokens) (calls + 1) := by
    rw [stateAfter_succ, called.leaves, stays.leaves]
  rw [answerAfter_stuck stuck behind, answerAfter, called.leaves, stays.answers]

/-- A call that takes nothing answers as all others do behind it. -/
theorem Called.stuck (called : Called tokens calls start start answer) (ends : Nat) (behind : calls ≤ later) :
    answerAfter Reader.document.run (withEnds (ends + 1) tokens) later = answer := by
  have stuck : stateAfter Reader.document.run (withEnds (ends + 1) tokens) (calls + 1) =
      stateAfter Reader.document.run (withEnds (ends + 1) tokens) calls := by
    rw [called.leaves, called.left]
  rw [answerAfter_stuck stuck behind, called.answered]

end

end

/-- What the next call behind a number of calls answers. -/
def answerFor (ends : Nat) (tokens : List Token) (calls : Nat) : Except ParseError Document :=
  answerAfter Reader.document.run (withEnds ends tokens) calls

/-- Calls on the tokens of a source, also those behind failures. What they have left starts at a position, which never
moves back nor behind the last token, the end, however often the end may be found there. Behind a call that reads a
document or misses a token, all others read the empty document. A call that stays at its position reads the empty
document, or it fails at the token there, which starts nothing, and so do all calls behind it. And no call goes on for
ever, as none of the loops in it does. -/
theorem parse_repeated (source : String) (tokens : List Token) (lexed : tokenize source = .ok tokens) (ends : Nat) :
    (∀ calls,
      stateAfter Reader.document.run (withEnds ends tokens) calls =
        (withEnds ends tokens).drop (positionAfter ends tokens calls) ∧
      positionAfter ends tokens calls ≤ positionAfter ends tokens (calls + 1) ∧
      positionAfter ends tokens calls ≤ tokens.length ∧
      positionAfter ends tokens calls = positionAfter 0 tokens calls ∧
      answerFor ends tokens calls = answerFor 0 tokens calls) ∧
    (∀ calls later, calls < later →
      (∃ document, answerFor ends tokens calls = .ok document) ∨ answerFor ends tokens calls = .error .unexpectedEnd →
        answerFor ends tokens later = .ok ⟨[]⟩) ∧
    (∀ calls, positionAfter ends tokens (calls + 1) = positionAfter ends tokens calls →
      answerFor ends tokens calls = .ok ⟨[]⟩ ∨
        ∃ found, tokens[positionAfter ends tokens calls]? = some found ∧ StartsNothing found ∧
          ∀ later, calls ≤ later → answerFor ends tokens later = .error (.unexpected found .definition)) ∧
    ∀ {α : Type} (step : Reader (Option α)), Loop step → ∀ left, LoopEnds step left := by
  obtain ⟨read, reads, rfl⟩ := Token.reads_of_tokenize lexed
  have proper := reads.proper
  have length : (read ++ [Token.eof]).length = read.length + 1 := List.length_append
  simp only [answerFor, positionAfter_end, withEnds_end, length]
  refine ⟨fun calls => ?_, fun calls later behind ended => ?_, fun calls stays => ?_,
    fun step loop left => loop_ends loop left⟩
  · obtain ⟨start, finish, answer, called⟩ := exists_called proper calls
    rw [called.position, called.position, called.next, called.answered, called.answered]
    exact ⟨called.left ends, called.moves.forwards, called.moves.forwards.trans called.moves.inside, rfl, rfl⟩
  · obtain ⟨start, finish, answer, called⟩ := exists_called proper calls
    rw [called.answered] at ended
    exact called.ended (called.moves.exhausts ended) ends behind
  · obtain ⟨start, finish, answer, called⟩ := exists_called proper calls
    rw [called.position, called.next] at stays
    subst stays
    rw [called.answered, called.position]
    rcases called.moves.kept rfl with empty | ⟨found, stands, startsNothing, rfl⟩
    · exact Or.inl empty
    · have inside := (List.getElem?_eq_some_iff.mp stands).1
      rw [List.getElem?_append_left inside]
      exact Or.inr ⟨found, stands, startsNothing, fun later behind => called.stuck ends behind⟩

/-- A description in front of a mark. -/
def markedText : List Char :=
  ['"', 'd', '"', '!']

/-- A keyword alone. -/
def keywordText : List Char :=
  ['t', 'y', 'p', 'e']

/-- A description without a definition leaves the calls at a mark, where each fails alike; an unexpected end leaves
nothing, and from then on an empty document is read. -/
theorem parse_repeated_marked :
    tokenize (String.ofList markedText) = .ok [.str "d", .bang, .eof] ∧
      (∀ later, 1 ≤ later → answerFor 0 [.str "d", .bang, .eof] later = .error (.unexpected .bang .definition)) ∧
    tokenize (String.ofList keywordText) = .ok [.name "type", .eof] ∧
      answerFor 2 [.name "type", .eof] 0 = .error .unexpectedEnd ∧
      ∀ later, 0 < later → answerFor 2 [.name "type", .eof] later = .ok ⟨[]⟩ := by
  have marked : tokenize (String.ofList markedText) = .ok [.str "d", .bang, .eof] := by
    rw [tokenize, String.toList_ofList]
    rfl
  have keyword : tokenize (String.ofList keywordText) = .ok [.name "type", .eof] := by
    rw [tokenize, String.toList_ofList]
    rfl
  refine ⟨marked, fun later behind => ?_, keyword, rfl, fun later behind => ?_⟩
  · rcases (parse_repeated _ _ marked 0).2.2.1 1 rfl with empty | ⟨found, stands, _, answers⟩
    · cases empty
    · cases stands
      exact answers later behind
  · exact (parse_repeated _ _ keyword 2).2.1 0 later behind (Or.inr rfl)

end EntityLayout
