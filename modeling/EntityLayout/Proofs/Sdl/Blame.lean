import EntityLayout.Proofs.Sdl.Recognition

/-!
# Failures at the first token that does not fit

A reader that looks one token ahead can fail at the first token that no item has in its place: the tokens in front
of it begin an item, and no token behind it changes the failure. `Diagnoses` says this of a reader and a grammar.
Sequences (`Diagnoses.bind`), choices (`Diagnoses.eat`) and repetitions (`Diagnoses.collect`) keep it.
-/
namespace EntityLayout

/-- The tokens that a failure at a token leaves. Where a definition should start, a token that is no word is only
looked at. -/
def ParseError.unread (cause : ParseError) (bad : Token) (behind : List Token) : List Token :=
  match cause with
  | .unexpected (.name _) .definition => behind
  | .unexpected _ .definition => bad :: behind
  | _ => behind

namespace Grammar
open Reader

section
variable {α β : Type} {Item Other : List Token → α → Prop} {First : List Token → β → Prop}
  {Beyond Further : List Token → Token → Prop} {reader : Reader α} {tokens : List Token} {cause : ParseError}

/-- The tokens begin an item. -/
def Viable (Item : List Token → α → Prop) (front : List Token) : Prop :=
  ∃ more item, Item (front ++ more) item

/-- What may stand behind the tokens of a beginning. -/
def After (front : List Token) (Item : List Token → α → Prop) : List Token → α → Prop :=
  fun tokens item => Item (front ++ tokens) item

theorem Viable.of_item {item : α} (derived : Item tokens item) : Viable Item tokens :=
  ⟨[], item, (List.append_nil tokens).symm ▸ derived⟩

theorem Viable.mono {front : List Token} (begins : ∀ {tokens value}, First tokens value → Viable Item tokens)
    (viable : Viable First front) : Viable Item front := by
  obtain ⟨more, value, derived⟩ := viable
  obtain ⟨further, item, derived⟩ := begins derived
  exact ⟨more ++ further, item, List.append_assoc front more further ▸ derived⟩

theorem Viable.append {front next : List Token} (viable : Viable (After front Item) next) :
    Viable Item (front ++ next) := by
  obtain ⟨more, item, derived⟩ := viable
  exact ⟨more, item, (List.append_assoc front next more).symm ▸ derived⟩

theorem after_append (front next : List Token) (Item : List Token → α → Prop) :
    After (front ++ next) Item = After next (After front Item) := by
  funext tokens item
  rw [After, After, After, List.append_assoc]

theorem after_nil {front : List Token} {item : α} : After front Item [] item ↔ Item front item := by
  rw [After, List.append_nil]

/-- Where a reader of items fails: at the end of the tokens, which it takes, or at a token that does not fit. A token may
fit and yet exceed the depth that is allowed in its place. -/
inductive Fault (reader : Reader α) (Item : List Token → α → Prop) (Beyond : List Token → Token → Prop)
    (tokens : List Token) (cause : ParseError) : Prop
  | atEnd {front last : List Token} :
      cause = .unexpectedEnd → Takes front tokens last → last.headD .eof = .eof → Viable Item front →
      (∀ other : List Token, other.headD .eof = .eof → reader (front ++ other) = .error cause other.tail) →
        Fault reader Item Beyond tokens cause
  | atToken {front behind : List Token} {bad : Token} :
      cause ≠ .unexpectedEnd → bad ≠ .eof → Takes front tokens (bad :: behind) → Viable Item front →
      (cause = .tooDeep → Beyond front bad) →
      (∀ other, reader (front ++ bad :: other) = .error cause (cause.unread bad other)) →
        Fault reader Item Beyond tokens cause

/-- What a reader makes of the tokens depends on the tokens of the item and the one behind them, and where it finds
no item, on the tokens up to the first that does not fit. -/
structure DiagnosesAt (reader : Reader α) (Item : List Token → α → Prop) (Beyond : List Token → Token → Prop)
    (tokens : List Token) : Prop where
  success {item : α} {rest : List Token} : reader tokens = .ok item rest →
    ∃ front, Takes front tokens rest ∧ Item front item ∧
      ∀ other, other.headD .eof = rest.headD .eof → reader (front ++ other) = .ok item other
  failure {cause : ParseError} {rest : List Token} : reader tokens = .error cause rest →
    Fault reader Item Beyond tokens cause

structure Diagnoses (reader : Reader α) (Item : List Token → α → Prop) (Beyond : List Token → Token → Prop) :
    Prop where
  possible : Viable Item []
  everywhere (tokens : List Token) : DiagnosesAt reader Item Beyond tokens

/-- A failure on the way to a part of an item is one on the way to the item. -/
theorem Fault.mono (items : ∀ {tokens item}, Item tokens item → Other tokens item)
    (deep : ∀ {front bad}, Beyond front bad → Further front bad) (fault : Fault reader Item Beyond tokens cause) :
    Fault reader Other Further tokens cause := by
  have begins {tokens : List Token} {item : α} (derived : Item tokens item) : Viable Other tokens :=
    .of_item (items derived)
  cases fault with
  | atEnd ended takes empty viable final => exact .atEnd ended takes empty (viable.mono begins) final
  | atToken cause proper takes viable exceeds final =>
    exact .atToken cause proper takes (viable.mono begins) (fun same => deep (exceeds same)) final

theorem DiagnosesAt.mono (items : ∀ {tokens item}, Item tokens item → Other tokens item)
    (deep : ∀ {front bad}, Beyond front bad → Further front bad)
    (diagnoses : DiagnosesAt reader Item Beyond tokens) : DiagnosesAt reader Other Further tokens := by
  refine ⟨fun success => ?_, fun failed => (diagnoses.failure failed).mono items deep⟩
  obtain ⟨front, takes, derived, same⟩ := diagnoses.success success
  exact ⟨front, takes, items derived, same⟩

theorem Diagnoses.mono (items : ∀ {tokens item}, Item tokens item → Other tokens item)
    (deep : ∀ {front bad}, Beyond front bad → Further front bad) (diagnoses : Diagnoses reader Item Beyond) :
    Diagnoses reader Other Further := by
  refine ⟨?_, fun tokens => (diagnoses.everywhere tokens).mono items deep⟩
  obtain ⟨more, item, derived⟩ := diagnoses.possible
  exact ⟨more, item, items derived⟩

theorem headD_append {front rest other : List Token} (same : other.headD .eof = rest.headD .eof) :
    (front ++ other).headD .eof = (front ++ rest).headD .eof := by
  cases front with
  | nil => exact same
  | cons head tail => rfl

/-- A reader may look at the next token and then do what another one does. -/
theorem DiagnosesAt.of_head {other : Reader α}
    (same : ∀ again, again.headD .eof = tokens.headD .eof → reader again = other again)
    (diagnoses : DiagnosesAt other Item Beyond tokens) : DiagnosesAt reader Item Beyond tokens := by
  refine ⟨fun {item rest} success => ?_, fun {cause rest} failed => ?_⟩
  · rw [same tokens rfl] at success
    obtain ⟨front, takes, derived, stable⟩ := diagnoses.success success
    refine ⟨front, takes, derived, fun again head => ?_⟩
    rw [same _ (takes.split ▸ headD_append head)]
    exact stable again head
  · rw [same tokens rfl] at failed
    cases diagnoses.failure failed with
    | atEnd ended takes empty viable final =>
      refine .atEnd ended takes empty viable fun again head => ?_
      rw [same _ (takes.split ▸ headD_append (head.trans empty.symm))]
      exact final again head
    | atToken cause proper takes viable deep final =>
      refine .atToken cause proper takes viable deep fun again => ?_
      rw [same _ (takes.split ▸ headD_append rfl)]
      exact final again

/-- In a sequence the first reader fails for both, or the second one behind what the first has taken. What the first
one takes has to begin an item of both. -/
theorem DiagnosesAt.bind {first : Reader β} {next : β → Reader α} (start : DiagnosesAt first First Beyond tokens)
    (possible : ∀ {front value}, First front value → Viable Item front)
    (goesOn : ∀ {front value middle}, Takes front tokens middle → First front value →
      DiagnosesAt (next value) (After front Item) (After front Beyond) middle) :
    DiagnosesAt (first >>= next) Item Beyond tokens := by
  refine ⟨fun {item rest} success => ?_, fun {cause rest} failed => ?_⟩
  · obtain ⟨value, middle, taken, success⟩ := bind_ok_iff.mp success
    obtain ⟨front, takes, derived, stable⟩ := start.success taken
    obtain ⟨behind, others, derived, stays⟩ := (goesOn takes derived).success success
    refine ⟨front ++ behind, takes.append others, derived, fun other head => ?_⟩
    rw [List.append_assoc, bind_of_ok (stable (behind ++ other) (others.split ▸ headD_append head))]
    exact stays other head
  · rcases bind_error_iff.mp failed with failed | ⟨value, middle, taken, failed⟩
    · cases start.failure failed with
      | atEnd ended takes empty viable final =>
        exact .atEnd ended takes empty (viable.mono possible) fun other head => bind_of_error (final other head)
      | atToken cause proper takes viable deep final =>
        exact .atToken cause proper takes (viable.mono possible) deep fun other => bind_of_error (final other)
    · obtain ⟨front, takes, derived, stable⟩ := start.success taken
      cases (goesOn takes derived).failure failed with
      | @atEnd behind last ended others empty viable final =>
        refine .atEnd ended (takes.append others) empty viable.append fun other head => ?_
        have same : other.headD .eof = last.headD .eof := head.trans empty.symm
        rw [List.append_assoc, bind_of_ok (stable (behind ++ other) (others.split ▸ headD_append same))]
        exact final other head
      | @atToken behind rest bad cause proper others viable deep final =>
        refine .atToken cause proper (takes.append others) viable.append deep fun other => ?_
        rw [List.append_assoc, bind_of_ok (stable (behind ++ bad :: other) (others.split ▸ headD_append rfl))]
        exact final other

theorem Diagnoses.bind {first : Reader β} {next : β → Reader α} (start : Diagnoses first First Beyond)
    (goesOn : ∀ {front value}, First front value →
      Diagnoses (next value) (After front Item) (After front Beyond)) :
    Diagnoses (first >>= next) Item Beyond := by
  have possible {front : List Token} {value : β} (derived : First front value) : Viable Item front :=
    (goesOn derived).possible
  refine ⟨start.possible.mono possible, fun tokens => ?_⟩
  exact (start.everywhere tokens).bind possible fun {_ _ middle} _ derived =>
    (goesOn derived).everywhere middle

theorem Diagnoses.pure {item : α} (derived : Item [] item) : Diagnoses (pure item) Item Beyond := by
  refine ⟨⟨[], item, derived⟩, fun tokens => ⟨fun success => ?_, fun failed => nomatch failed⟩⟩
  obtain ⟨rfl, rfl⟩ := pure_ok_iff.mp success
  exact ⟨[], .none, derived, fun _ _ => rfl⟩

theorem DiagnosesAt.map {reader : Reader β} {change : β → α} (diagnoses : DiagnosesAt reader First Beyond tokens)
    (items : ∀ {tokens value}, First tokens value → Item tokens (change value)) :
    DiagnosesAt (do return change (← reader)) Item Beyond tokens :=
  diagnoses.bind (fun derived => .of_item (items derived)) fun {_ _ middle} _ derived =>
    (Diagnoses.pure (after_nil.mpr (items derived))).everywhere middle

/-- A reader whose last part is read by another one. -/
theorem Diagnoses.map {reader : Reader β} {change : β → α} {Within : List Token → Token → Prop}
    (diagnoses : Diagnoses reader First Within)
    (items : ∀ {tokens value}, First tokens value → Item tokens (change value))
    (deep : ∀ {front bad}, Within front bad → Beyond front bad) :
    Diagnoses (do return change (← reader)) Item Beyond :=
  ⟨diagnoses.possible.mono fun derived => .of_item (items derived),
    fun tokens => ((diagnoses.everywhere tokens).mono id deep).map items⟩

theorem Diagnoses.fmap {reader : Reader β} {change : β → α} {Within : List Token → Token → Prop}
    (diagnoses : Diagnoses reader First Within)
    (items : ∀ {tokens value}, First tokens value → Item tokens (change value))
    (deep : ∀ {front bad}, Within front bad → Beyond front bad) : Diagnoses (change <$> reader) Item Beyond := by
  rw [map_eq_pure_bind]
  exact diagnoses.map items deep

/-- Behind a token a reader may do what another one does. -/
theorem DiagnosesAt.behind {inner : Reader α} {token : Token} (proper : token ≠ .eof)
    (same : ∀ again, reader (token :: again) = inner again)
    (diagnoses : DiagnosesAt inner (After [token] Item) (After [token] Beyond) tokens) :
    DiagnosesAt reader Item Beyond (token :: tokens) := by
  refine ⟨fun {item rest} success => ?_, fun {cause rest} failed => ?_⟩
  · rw [same] at success
    obtain ⟨front, takes, derived, stable⟩ := diagnoses.success success
    refine ⟨token :: front, takes.cons proper, derived, fun other head => ?_⟩
    rw [List.cons_append, same]
    exact stable other head
  · rw [same] at failed
    cases diagnoses.failure failed with
    | atEnd ended takes empty viable final =>
      exact .atEnd ended (takes.cons proper) empty viable.append fun other head => (same _).trans (final other head)
    | atToken cause fits takes viable deep final =>
      refine .atToken cause fits (takes.cons proper) viable.append deep fun other => ?_
      exact (same _).trans (final other)

theorem DiagnosesAt.ended (possible : Viable Item []) (empty : tokens.headD .eof = .eof)
    (fails : ∀ other : List Token, other.headD .eof = .eof → reader other = .error .unexpectedEnd other.tail) :
    DiagnosesAt reader Item Beyond tokens := by
  refine ⟨fun success => ?_, fun failed => ?_⟩
  · cases (fails tokens empty).symm.trans success
  · cases (fails tokens empty).symm.trans failed
    exact .atEnd rfl .none empty possible fails

/-- What a reader makes of the next token: it goes on behind it as another reader, or it fails there. -/
inductive Verdict (reader : Reader α) (Item : List Token → α → Prop) (Beyond : List Token → Token → Prop)
    (token : Token) : Prop
  | goesOn {inner : Reader α} :
      (∀ tokens, reader (token :: tokens) = inner tokens) →
      Diagnoses inner (After [token] Item) (After [token] Beyond) → Verdict reader Item Beyond token
  | fails (cause : ParseError) :
      (∀ tokens, reader (token :: tokens) = .error cause (cause.unread token tokens)) →
      cause ≠ .unexpectedEnd → (cause = .tooDeep → Beyond [] token) → Verdict reader Item Beyond token

/-- What is known of the next token is enough for all that starts with it. -/
theorem Verdict.everywhere {token : Token} (possible : Viable Item []) (proper : token ≠ .eof)
    (verdict : Verdict reader Item Beyond token) (tokens : List Token) :
    DiagnosesAt reader Item Beyond (token :: tokens) := by
  cases verdict with
  | goesOn same diagnoses => exact (diagnoses.everywhere tokens).behind proper same
  | fails cause fails other deep =>
    refine ⟨fun success => ?_, fun failed => ?_⟩
    · cases (fails tokens).symm.trans success
    · cases (fails tokens).symm.trans failed
      exact .atToken other proper .none possible deep fails

/-- A reader that decides by the next token. -/
theorem Diagnoses.of_verdict (possible : Viable Item [])
    (atEnd : ∀ tokens : List Token, tokens.headD .eof = .eof → DiagnosesAt reader Item Beyond tokens)
    (verdict : ∀ token, token ≠ .eof → Verdict reader Item Beyond token) : Diagnoses reader Item Beyond := by
  refine ⟨possible, fun tokens => ?_⟩
  cases tokens with
  | nil => exact atEnd [] rfl
  | cons token tokens =>
    by_cases proper : token = .eof
    · exact atEnd (token :: tokens) proper
    · exact (verdict token proper).everywhere possible proper tokens

/-- A reader that takes a token and decides by it. -/
theorem Diagnoses.of_advance {next : Token → Reader α} (possible : Viable Item [])
    (ended : ∀ tokens, next .eof tokens = .error .unexpectedEnd tokens)
    (verdict : ∀ token, token ≠ .eof → Verdict (advance >>= next) Item Beyond token) :
    Diagnoses (advance >>= next) Item Beyond := by
  refine .of_verdict possible (fun tokens empty => .ended possible empty fun other head => ?_) verdict
  exact (bind_of_ok (advance_ok_iff.mpr ⟨head, rfl⟩)).trans (ended other.tail)

theorem Verdict.unexpected {token : Token} {wanted : Expectation} (proper : token ≠ .eof)
    (other : wanted ≠ .definition)
    (fails : ∀ tokens, reader (token :: tokens) = .error (.atToken token wanted) tokens) :
    Verdict reader Item Beyond token := by
  have cause : ParseError.atToken token wanted = .unexpected token wanted := if_neg proper
  have taken (tokens : List Token) : ParseError.unread (.unexpected token wanted) token tokens = tokens := by
    cases wanted with
    | definition => exact absurd rfl other
    | name | type | value => cases token <;> rfl
  refine .fails (.unexpected token wanted) (fun tokens => ?_) (by simp) (by simp)
  rw [fails, cause, taken]

/-- A reader that goes on in one way behind a token and in another way where the token is missing. -/
theorem Diagnoses.eat {token : Token} (proper : token ≠ .eof) {next : Bool → Reader α}
    (present : Diagnoses (next true) (After [token] Item) (After [token] Beyond))
    (absent : Diagnoses (next false) Item Beyond) : Diagnoses (eat token >>= next) Item Beyond := by
  refine ⟨absent.possible, fun tokens => ?_⟩
  by_cases found : tokens.headD .eof = token
  · obtain ⟨behind, rfl⟩ := (headD_eq_iff proper).mp found
    exact (present.everywhere behind).behind proper fun _ => bind_of_ok eat_present
  · exact (absent.everywhere tokens).of_head fun again head => bind_of_ok (eat_absent (head ▸ found))

/-- A step finds an item or what stops the repetition. -/
inductive Step (Item : List Token → α → Prop) (Stop : List Token → Unit → Prop) : List Token → Option α → Prop
  | item {tokens : List Token} {item : α} : Item tokens item → Step Item Stop tokens (some item)
  | stop {tokens : List Token} : Stop tokens () → Step Item Stop tokens none

/-- A token behind some items and the beginning of a further one that it does not fit in. -/
inductive InMany (Item : List Token → α → Prop) (Beyond : List Token → Token → Prop) :
    List Token → Token → Prop
  | mk {front behind : List Token} {items : List α} {bad : Token} :
      Many Item front items → Beyond behind bad → InMany Item Beyond (front ++ behind) bad

theorem InMany.cons {front behind : List Token} {item : α} {bad : Token} (first : Item front item)
    (exceeds : InMany Item Beyond behind bad) : InMany Item Beyond (front ++ behind) bad := by
  obtain ⟨many, exceeds⟩ := exceeds
  rw [← List.append_assoc]
  exact .mk (.cons first many) exceeds

/-- Many items, and what stops them. -/
inductive ManyUntil (Item : List Token → α → Prop) (Stop : List Token → Unit → Prop) :
    List Token → List α → Prop
  | mk {front last : List Token} {items : List α} :
      Many Item front items → Stop last () → ManyUntil Item Stop (front ++ last) items

theorem ManyUntil.cons {Stop : List Token → Unit → Prop} {front behind : List Token} {item : α} {items : List α}
    (first : Item front item) (others : ManyUntil Item Stop behind items) :
    ManyUntil Item Stop (front ++ behind) (item :: items) := by
  obtain ⟨many, stop⟩ := others
  rw [← List.append_assoc]
  exact .mk (.cons first many) stop

/-- The rule for repetitions, by induction on the number of tokens: each round takes at least one. -/
theorem Diagnoses.collect {step : Reader (Option α)} {Stop : List Token → Unit → Prop}
    (steps : Diagnoses step (Step Item Stop) Beyond) (nonempty : Starts Item [])
    (stoppable : ∃ tokens, Stop tokens ()) :
    Diagnoses (collect step) (ManyUntil Item Stop) (InMany Item Beyond) := by
  have progress : Progress step := by
    refine @progress_of_sound α Item step nonempty fun {tokens item rest} taken => ?_
    obtain ⟨front, takes, derived, _⟩ := (steps.everywhere tokens).success taken
    cases derived with
    | item derived => exact ⟨front, takes, derived⟩
  obtain ⟨last, stop⟩ := stoppable
  have none : ManyUntil Item Stop last [] := .mk .nil stop
  have unrolled : Reader.collect step = round step (Reader.collect step) := funext (collect_eq progress)
  refine ⟨⟨last, [], none⟩, fun tokens => ?_⟩
  -- Each round shortens the tokens, so that the rounds behind it are covered by the induction.
  induction length : tokens.length using Nat.strongRecOn generalizing tokens with
  | _ count ih =>
    rw [unrolled]
    refine ((steps.everywhere tokens).mono id (InMany.mk .nil)).bind ?_ ?_
    · intro front answer derived
      cases derived with
      | item derived => exact ⟨last, _, none.cons derived⟩
      | stop stop => exact .of_item (.mk .nil stop)
    · intro front answer middle takes derived
      cases derived with
      | stop stop =>
        have done : ManyUntil Item Stop front [] := .mk .nil stop
        exact (Diagnoses.pure (after_nil.mpr done)).everywhere middle
      | item derived =>
        have shorter : middle.length < count := by
          obtain ⟨head, tail, rfl, _⟩ := nonempty derived
          rw [← length, takes.split, List.length_append, List.length_cons]
          omega
        have again := (ih middle.length shorter middle rfl).mono id (InMany.cons derived)
        exact again.map fun others => others.cons derived

end

end Grammar

end EntityLayout
