import EntityLayout.Proofs.Sdl.Depth
import EntityLayout.Proofs.Sdl.Listing

/-!
# The parts of definitions

Directives, the fields and members of blocks, and the interfaces of a type are recognised by their
readers. A directive goes on to its arguments, and a field to its directives, as far as the tokens allow.
-/
namespace EntityLayout.Grammar
open Reader

/-- A directive may go on with its arguments only. -/
theorem directive_recognizes : Recognizes directive DerivesDirective [.openParen] := by
  have arguments := entries_recognizes .closeParen (by simp) (by simp) (value_recognizes maxDepth)
  refine ⟨?_, ?_⟩
  · intro tokens rest found success
    simp only [directive, bind_ok_iff, name_ok_iff] at success
    obtain ⟨name, _, rfl, eaten, middle, taken, success⟩ := success
    rcases (eat_ok_iff (by simp)).mp taken with ⟨rfl, rfl⟩ | ⟨rfl, rfl, _⟩
    · obtain ⟨entries, _, read, success⟩ := bind_ok_iff.mp success
      obtain ⟨rfl, rfl⟩ := pure_ok_iff.mp success
      obtain ⟨_, takes, ⟨many⟩, shallow⟩ := arguments.sound read
      have within := entriesNesting_le_iff.mp (Nat.le_of_lt_succ shallow)
      exact ⟨_, (takes.cons (by simp)).cons (by simp), .applied name many within⟩
    · obtain ⟨rfl, rfl⟩ := pure_ok_iff.mp success
      exact ⟨[.name name], .cons (by simp) .none, .bare name⟩
  · intro front rest found derived clear
    cases derived with
    | bare name =>
      have absent : rest.headD .eof ≠ .openParen := fun same => clear (List.mem_singleton.mpr same)
      refine bind_ok_iff.mpr ⟨name, rest, name_ok_iff.mpr rfl, ?_⟩
      exact bind_ok_iff.mpr ⟨false, rest, eat_absent absent, rfl⟩
    | @applied name tokens entries many within =>
      have shallow : entriesNesting entries < maxDepth + 1 :=
        Nat.lt_succ_of_le (entriesNesting_le_iff.mpr within)
      have read : itemsUntil .closeParen (argumentOf (value maxDepth)) (tokens ++ [.closeParen] ++ rest) =
          .ok entries rest :=
        arguments.complete ⟨.mk many, shallow⟩ List.not_mem_nil
      refine bind_ok_iff.mpr ⟨name, _, name_ok_iff.mpr rfl, ?_⟩
      refine bind_ok_iff.mpr ⟨true, _, eat_present, ?_⟩
      exact bind_ok_iff.mpr ⟨_, rest, read, rfl⟩

theorem directives_recognizes : Recognizes directives DerivesDirectives [.atSign, .openParen] :=
  itemsAfter_recognizes (by simp) (by simp) directive_recognizes

theorem name_recognizes : Recognizes name DerivesName [] := by
  refine ⟨?_, ?_⟩
  · intro tokens rest word success
    obtain rfl := name_ok_iff.mp success
    exact ⟨[.name word], .cons (by simp) .none, .mk word⟩
  · intro front rest word derived _
    obtain ⟨word⟩ := derived
    exact name_ok_iff.mpr rfl

/-- A field ends where its type has no mark to come and no directive follows. -/
theorem field_recognizes : Recognizes field DerivesField [.bang, .atSign, .openParen] := by
  refine ⟨?_, ?_⟩
  · intro tokens rest found success
    simp only [field, bind_ok_iff, name_ok_iff, expect_ok_iff, pure_ok_iff, ne_eq, reduceCtorEq,
      not_false_eq_true] at success
    obtain ⟨name, _, rfl, _, _, rfl, type, middle, typed, found, _, marked, rfl, rfl⟩ := success
    obtain ⟨typeTokens, first, derived, shallow⟩ := (type_recognizes maxDepth).sound typed
    obtain ⟨directiveTokens, second, many⟩ := directives_recognizes.sound marked
    exact ⟨_, ((first.append second).cons (by simp)).cons (by simp),
      .mk name derived (Nat.le_of_lt_succ shallow) many⟩
  · intro front rest found derived clear
    cases derived with
    | @mk name typeTokens directiveTokens type found derived shallow many =>
      have unmarked : (directiveTokens ++ rest).headD .eof ∉ [.bang] :=
        many.clear (Behind.starts (by simp)) fun member =>
          clear (List.mem_cons.mpr (Or.inl (List.mem_singleton.mp member)))
      have typed : Reader.type maxDepth (typeTokens ++ directiveTokens ++ rest) =
          .ok type (directiveTokens ++ rest) := by
        rw [List.append_assoc]
        exact (type_recognizes maxDepth).complete ⟨derived, Nat.lt_succ_of_le shallow⟩ unmarked
      have marked : directives (directiveTokens ++ rest) = .ok found rest :=
        directives_recognizes.complete many fun member => clear (List.mem_cons_of_mem _ member)
      refine bind_ok_iff.mpr ⟨name, _, name_ok_iff.mpr rfl, ?_⟩
      refine bind_ok_iff.mpr ⟨(), _, (expect_ok_iff (by simp)).mpr rfl, ?_⟩
      refine bind_ok_iff.mpr ⟨type, _, typed, ?_⟩
      exact bind_ok_iff.mpr ⟨found, rest, marked, rfl⟩

theorem enumValue_recognizes : Recognizes enumValue DerivesMember [.atSign, .openParen] := by
  refine ⟨?_, ?_⟩
  · intro tokens rest found success
    simp only [enumValue, bind_ok_iff, name_ok_iff, pure_ok_iff] at success
    obtain ⟨name, _, rfl, _, _, marked, rfl, rfl⟩ := success
    obtain ⟨tokens, takes, many⟩ := directives_recognizes.sound marked
    exact ⟨_, takes.cons (by simp), .mk name many⟩
  · intro front rest word derived clear
    obtain ⟨_, many⟩ := derived
    refine bind_ok_iff.mpr ⟨word, _, name_ok_iff.mpr rfl, ?_⟩
    exact bind_ok_iff.mpr ⟨_, rest, directives_recognizes.complete many clear, rfl⟩

/-- Where a type has no interfaces, the word that introduces them must not follow its name. -/
theorem implements_recognizes :
    Recognizes implements DerivesInterfaces [.name "implements", .ampersand] := by
  have others : Recognizes (itemsAfter .ampersand name) (Many (Behind .ampersand DerivesName)) [.ampersand] :=
    itemsAfter_recognizes (by simp) (by simp) name_recognizes
  refine ⟨?_, ?_⟩
  · intro tokens rest found success
    rw [implements, bind_ok_iff] at success
    obtain ⟨eaten, middle, taken, success⟩ := success
    rcases (eat_ok_iff (by simp)).mp taken with ⟨rfl, rfl⟩ | ⟨rfl, rfl, _⟩
    · simp only [↓reduceIte, bind_ok_iff, name_ok_iff, pure_ok_iff] at success
      obtain ⟨introduced, _, led, first, _, rfl, names, _, read, rfl, rfl⟩ := success
      obtain ⟨front, takes, many⟩ := others.sound read
      rcases (eat_ok_iff (by simp)).mp led with ⟨_, rfl⟩ | ⟨_, rfl, _⟩
      · exact ⟨_, ((takes.cons (by simp)).cons (by simp)).cons (by simp), .introduced first many⟩
      · exact ⟨_, (takes.cons (by simp)).cons (by simp), .plain first many⟩
    · obtain ⟨rfl, rfl⟩ := pure_ok_iff.mp success
      exact ⟨[], .none, .absent⟩
  · intro front rest found derived clear
    rw [List.mem_cons, List.mem_singleton, not_or] at clear
    have followed : rest.headD .eof ∉ [.ampersand] := fun member => clear.2 (List.mem_singleton.mp member)
    cases derived with
    | absent =>
      exact bind_ok_iff.mpr ⟨false, rest, eat_absent clear.1, rfl⟩
    | plain first many =>
      refine bind_ok_iff.mpr ⟨true, _, eat_present, ?_⟩
      refine bind_ok_iff.mpr ⟨false, _, eat_absent (by simp), ?_⟩
      refine bind_ok_iff.mpr ⟨first, _, name_ok_iff.mpr rfl, ?_⟩
      exact bind_ok_iff.mpr ⟨_, rest, others.complete many followed, rfl⟩
    | introduced first many =>
      refine bind_ok_iff.mpr ⟨true, _, eat_present, ?_⟩
      refine bind_ok_iff.mpr ⟨true, _, eat_present, ?_⟩
      refine bind_ok_iff.mpr ⟨first, _, name_ok_iff.mpr rfl, ?_⟩
      exact bind_ok_iff.mpr ⟨_, rest, others.complete many followed, rfl⟩

theorem DerivesField.startsWithName {avoided : List Token} (names : ∀ word, .name word ∉ avoided) :
    StartsWithName DerivesField avoided := by
  intro front item derived
  obtain ⟨name⟩ := derived
  exact ⟨name, _, rfl, names name⟩

theorem DerivesMember.startsWithName {avoided : List Token} (names : ∀ word, .name word ∉ avoided) :
    StartsWithName DerivesMember avoided := by
  intro front item derived
  obtain ⟨name⟩ := derived
  exact ⟨_, _, rfl, names _⟩

theorem fields_recognizes : Recognizes (block field) (Block DerivesField) [.openBrace] :=
  block_recognizes (by simp) (by simp) (DerivesField.startsWithName (by simp)) field_recognizes

theorem members_recognizes : Recognizes (block enumValue) (Block DerivesMember) [.openBrace] :=
  block_recognizes (by simp) (by simp) (DerivesMember.startsWithName (by simp)) enumValue_recognizes

end EntityLayout.Grammar
