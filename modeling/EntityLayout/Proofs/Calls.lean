import Mathlib.Logic.Function.Iterate

/-!
# Repeated calls

A program that is called again goes on with the state that the call before it left, and a call that fails leaves
one as well. What every call keeps, holds after any number of calls, and where one call leaves the state as it was, so
do all later ones.
-/
namespace EntityLayout

variable {ε σ α : Type}

/-- What a call answers, apart from the state that it leaves. -/
def answerOf : EStateM.Result ε σ α → Except ε α
  | .ok value _ => .ok value
  | .error cause _ => .error cause

/-- What a call leaves, whether it fails or not. -/
def leftBy : EStateM.Result ε σ α → σ
  | .ok _ rest => rest
  | .error _ rest => rest

section
variable (call : σ → EStateM.Result ε σ α) (start : σ)

/-- The state behind a number of calls. -/
def stateAfter (calls : Nat) : σ :=
  (fun state => leftBy (call state))^[calls] start

/-- What the next call behind a number of calls answers. -/
def answerAfter (calls : Nat) : Except ε α :=
  answerOf (call (stateAfter call start calls))

@[simp] theorem stateAfter_zero : stateAfter call start 0 = start :=
  rfl

theorem stateAfter_succ (calls : Nat) :
    stateAfter call start (calls + 1) = leftBy (call (stateAfter call start calls)) :=
  Function.iterate_succ_apply' _ _ _

/-- Behind the first call, the others start with what it left. -/
theorem stateAfter_succ' (calls : Nat) :
    stateAfter call start (calls + 1) = stateAfter call (leftBy (call start)) calls :=
  Function.iterate_succ_apply _ _ _

/-- The answers behind a first call are those of a run from the state that this call leaves. -/
theorem answerAfter_succ' (calls : Nat) :
    answerAfter call start (calls + 1) = answerAfter call (leftBy (call start)) calls := by
  rw [answerAfter, stateAfter_succ', answerAfter]

end

section
variable {call : σ → EStateM.Result ε σ α} {start : σ}

/-- A first call that answers with an item, and further ones that answer with others, answer with all of these. -/
theorem answers_cons {β : Type} (answer : β → Except ε α) {item : β} {items : List β}
    (first : answerAfter call start 0 = answer item)
    (others : ∀ (calls : Nat) (inside : calls < items.length),
      answerAfter call (leftBy (call start)) calls = answer items[calls]) :
    ∀ (calls : Nat) (inside : calls < (item :: items).length),
      answerAfter call start calls = answer (item :: items)[calls] := by
  intro calls inside
  cases calls with
  | zero => exact first
  | succ calls =>
    rw [answerAfter_succ', List.getElem_cons_succ]
    exact others calls (Nat.lt_of_succ_lt_succ inside)

/-- What holds at first and is kept by every call, whether it succeeds or fails, holds after any number of calls. -/
theorem stateAfter_invariant (Inv : σ → Prop) (first : Inv start)
    (kept : ∀ state, Inv state → Inv (leftBy (call state))) (calls : Nat) : Inv (stateAfter call start calls) := by
  induction calls with
  | zero => exact first
  | succ calls ih =>
    rw [stateAfter_succ]
    exact kept _ ih

/-- Once a call has left the state as it was, all later ones do. -/
theorem stateAfter_stuck {calls later : Nat} (stuck : stateAfter call start (calls + 1) = stateAfter call start calls)
    (behind : calls ≤ later) : stateAfter call start later = stateAfter call start calls := by
  induction behind with
  | refl => rfl
  | step _ ih => rw [stateAfter_succ, ih, ← stateAfter_succ, stuck]

/-- Once a call has left the state as it was, all later ones give its answer. -/
theorem answerAfter_stuck {calls later : Nat} (stuck : stateAfter call start (calls + 1) = stateAfter call start calls)
    (behind : calls ≤ later) : answerAfter call start later = answerAfter call start calls := by
  rw [answerAfter, stateAfter_stuck stuck behind, answerAfter]

end

end EntityLayout
