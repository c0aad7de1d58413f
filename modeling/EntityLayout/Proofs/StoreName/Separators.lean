import EntityLayout.Proofs.StoreName.Words
import Mathlib.Data.List.TakeWhile

/-!
# Names joined by separators

A separator is a character that is neither a letter nor a number. The store name of two names with a separator
between them is their store names with an underscore between these, or the store name of one of them where the other
has no letter (`storeName_separated`). Which separators a name has, how many of them stand together and which ones
stand at its ends does not matter.
-/
namespace EntityLayout.StoreName

/-- Whether a name has a letter or a number. -/
def hasLetter (name : List Char) : Bool :=
  name.any isAlphanumeric

theorem hasLetter_cons (c : Char) (name : List Char) :
    hasLetter (c :: name) = (isAlphanumeric c || hasLetter name) :=
  List.any_cons

/-- Whether the outer run leaves out no code point between its ends and has all those of the inner one. -/
def covers (outer inner : CodeRun) : Bool :=
  outer.stride == 1 && outer.first ≤ inner.first && inner.last ≤ outer.last

theorem contains_of_covers {inner outer : CodeRun} (covering : covers outer inner = true) {code : Nat}
    (inside : inner.contains code = true) : outer.contains code = true := by
  simp only [covers, CodeRun.contains, Bool.and_eq_true, decide_eq_true_eq, beq_iff_eq] at covering inside ⊢
  obtain ⟨⟨stride, first⟩, last⟩ := covering
  obtain ⟨⟨low, high⟩, _⟩ := inside
  refine ⟨⟨Nat.le_trans first low, Nat.le_trans high last⟩, ?_⟩
  rw [stride, Nat.mod_one]

/-- The runs that are left over when each of the outer runs in turn takes away those in front that it covers. -/
def uncovered (inners outers : List CodeRun) : List CodeRun :=
  outers.foldl (fun left outer => left.dropWhile (covers outer)) inners

theorem covers_of_uncovered {inners outers : List CodeRun} (covered : uncovered inners outers = []) :
    ∀ inner ∈ inners, ∃ outer ∈ outers, covers outer inner = true := by
  induction outers generalizing inners with
  | nil =>
    obtain rfl : inners = [] := covered
    simp
  | cons outer outers ih =>
    intro inner member
    rw [← List.takeWhile_append_dropWhile (p := covers outer) (l := inners), List.mem_append] at member
    rcases member with taken | left
    · exact ⟨outer, List.mem_cons_self, List.mem_takeWhile_imp taken⟩
    · obtain ⟨other, among, covering⟩ := ih covered inner left
      exact ⟨other, List.mem_cons_of_mem outer among, covering⟩

/-- The table of small letters is within that of letters and numbers. -/
theorem lowercaseRuns_covered : uncovered lowercaseRuns alphanumericRuns = [] := by
  decide +kernel

/-- Hence every small letter is a letter. -/
theorem isAlphanumeric_of_isLowercase {c : Char} (lower : isLowercase c = true) : isAlphanumeric c = true := by
  obtain ⟨inner, known, inside⟩ := List.any_eq_true.mp lower
  obtain ⟨outer, among, covering⟩ := covers_of_uncovered lowercaseRuns_covered inner known
  exact List.any_eq_true.mpr ⟨outer, among, contains_of_covers covering inside⟩

theorem isLowercase_separator {c : Char} (separates : isAlphanumeric c = false) : isLowercase c = false := by
  cases lower : isLowercase c with
  | false => rfl
  | true => rw [isAlphanumeric_of_isLowercase lower] at separates; cases separates

/-- A separator behind a letter is like the end of the name to it, since neither is a small letter. -/
theorem startsWord_separator {before : Option Char} {c separator : Char} {front rest : List Char}
    (separates : isAlphanumeric separator = false) :
    startsWord before c (front ++ separator :: rest).head? = startsWord before c front.head? := by
  cases front with
  | nil => simp [startsWord, isLowercase_separator separates]
  | cons d front => rfl

/-- What is in front of a separator is spelled as if nothing came behind it. -/
theorem spell_append {c : Char} (separates : isAlphanumeric c = false) (front rest : List Char) (begun : Bool)
    (before : Option Char) :
    spell begun before (front ++ c :: rest) =
      spell begun before front ++ spell (begun || hasLetter front) (some c) rest := by
  induction front generalizing begun before with
  | nil => simp [spell, separates, hasLetter]
  | cons d front ih =>
    rw [List.cons_append, spell, spell, startsWord_separator separates, hasLetter_cons, ih, ih]
    cases isAlphanumeric d with
    | true => simp
    | false => simp

/-- A text without letters and numbers spells nothing. -/
theorem spell_separators {rest : List Char} (blank : hasLetter rest = false) (begun : Bool) (before : Option Char) :
    spell begun before rest = [] := by
  induction rest generalizing begun before with
  | nil => rfl
  | cons c rest ih =>
    rw [hasLetter_cons, Bool.or_eq_false_iff] at blank
    rw [spell, if_neg (by simp [blank.1]), ih blank.2]

/-- Behind a separator a new word starts, so that only the underscore in front of it tells whether the name has begun. -/
theorem spell_separated {c : Char} (separates : isAlphanumeric c = false) (begun : Bool) (rest : List Char) :
    spell begun (some c) rest =
      (if begun && hasLetter rest then ['_'] else []) ++ spell false none rest := by
  induction rest generalizing c begun with
  | nil => simp [spell, hasLetter]
  | cons d rest ih =>
    rw [spell, spell, hasLetter_cons]
    cases letter : isAlphanumeric d with
    | true => cases begun <;> simp [startsWord, separates]
    | false => simp [ih letter]

/-- Separators in front of a name are not spelled. -/
theorem spell_behind {gap : List Char} (blank : hasLetter gap = false) (rest : List Char) :
    spell false none (gap ++ rest) = spell false none rest := by
  induction gap with
  | nil => rfl
  | cons c gap ih =>
    rw [hasLetter_cons, Bool.or_eq_false_iff] at blank
    have same := spell_separated blank.1 false (gap ++ rest)
    rw [Bool.false_and, if_neg Bool.false_ne_true, List.nil_append] at same
    rw [List.cons_append, spell, if_neg (by simp [blank.1]), same, ih blank.2]

/-- Nor are separators behind it. -/
theorem spell_trailing {gap : List Char} (blank : hasLetter gap = false) (front : List Char) :
    spell false none (front ++ gap) = spell false none front := by
  cases gap with
  | nil => rw [List.append_nil]
  | cons c gap =>
    rw [hasLetter_cons, Bool.or_eq_false_iff] at blank
    rw [spell_append blank.1, spell_separators blank.2, List.append_nil]

/-- Reading on over a gap spells both sides apart, with an underscore where both have a letter. -/
theorem spell_joined {gap : List Char} (nonempty : gap ≠ []) (blank : hasLetter gap = false)
    (front rest : List Char) :
    spell false none (front ++ (gap ++ rest)) =
      spell false none front ++
        ((if hasLetter front && hasLetter rest then ['_'] else []) ++ spell false none rest) := by
  cases gap with
  | nil => exact absurd rfl nonempty
  | cons c gap =>
    rw [hasLetter_cons, Bool.or_eq_false_iff] at blank
    have letters : hasLetter (gap ++ rest) = hasLetter rest := by
      rw [hasLetter, List.any_append, ← hasLetter, ← hasLetter, blank.2, Bool.false_or]
    rw [List.cons_append, spell_append blank.1, spell_separated blank.1, Bool.false_or, letters,
      spell_behind blank.2]

end EntityLayout.StoreName

namespace EntityLayout

open StoreName

theorem toList_storeName (name : String) : (storeName name).toList = spell false none name.toList :=
  String.toList_ofList

/-- A text of separators only. -/
def IsGap (gap : String) : Prop :=
  gap ≠ "" ∧ hasLetter gap.toList = false

/-- The store names of two names with an underscore between them, less those that have no letter. -/
def joinedStoreNames (a b : String) : String :=
  if hasLetter a.toList = false then storeName b
  else if hasLetter b.toList = false then storeName a
  else storeName a ++ "_" ++ storeName b

/-- Any gap gives the same store name, so how many separators it has does not matter, nor which. -/
theorem storeName_gap {gap : String} (separates : IsGap gap) (a b : String) :
    storeName (a ++ gap ++ b) = joinedStoreNames a b := by
  have nonempty : gap.toList ≠ [] := fun empty => separates.1 (String.toList_eq_nil_iff.mp empty)
  have spelled := spell_joined nonempty separates.2 a.toList b.toList
  apply String.toList_inj.mp
  rw [toList_storeName, String.toList_append, String.toList_append, List.append_assoc, spelled, joinedStoreNames]
  cases first : hasLetter a.toList with
  | false => simp [spell_separators first, toList_storeName]
  | true =>
    cases second : hasLetter b.toList with
    | false => simp [spell_separators second, toList_storeName]
    | true => simp [toList_storeName]

/-- A gap at either end of a name leaves no trace. -/
theorem storeName_trimmed {gap : String} (blank : hasLetter gap.toList = false) (name : String) :
    storeName (gap ++ name) = storeName name ∧ storeName (name ++ gap) = storeName name := by
  unfold storeName
  rw [String.toList_append, String.toList_append, spell_behind blank, spell_trailing blank]
  exact ⟨rfl, rfl⟩

/-- A separator between two names becomes an underscore between their store names, unless one of them has no letter.
More separators, others in their place, and separators at the ends of a name change nothing. -/
theorem storeName_separated (a b : String) :
    (∀ c, isAlphanumeric c = false →
      storeName (a ++ String.singleton c ++ b) =
        if hasLetter a.toList = false then storeName b
        else if hasLetter b.toList = false then storeName a
        else storeName a ++ "_" ++ storeName b) ∧
    (∀ gap other, IsGap gap → IsGap other → storeName (a ++ gap ++ b) = storeName (a ++ other ++ b)) ∧
    ∀ gap, hasLetter gap.toList = false →
      storeName (gap ++ a) = storeName a ∧ storeName (a ++ gap) = storeName a := by
  refine ⟨fun c separates => ?_, fun gap other first second => ?_, fun gap blank => ?_⟩
  · have gap : IsGap (String.singleton c) := ⟨by simp, by simp [hasLetter, separates]⟩
    exact storeName_gap gap a b
  · rw [storeName_gap first, storeName_gap second]
  · exact storeName_trimmed blank a

/-- A digit at either side of the separator starts no other word: its small neighbour is on the other side. -/
theorem storeName_separated_fee :
    isAlphanumeric '-' = false ∧ IsGap "\u3000,_" ∧ IsGap "-" ∧ hasLetter "__".toList = false ∧
      storeName ("fee" ++ String.singleton '-' ++ "0X12") = storeName "fee" ++ "_" ++ storeName "0X12" ∧
      storeName ("fee" ++ "\u3000,_" ++ "0X12") = storeName ("fee" ++ "-" ++ "0X12") ∧
      storeName ("__" ++ "fee") = storeName "fee" ∧ storeName ("fee" ++ "__") = storeName "fee" := by
  have separates : isAlphanumeric '-' = false := by decide +kernel
  have several : IsGap "\u3000,_" := ⟨by decide, by decide +kernel⟩
  have one : IsGap "-" := ⟨by decide, by decide +kernel⟩
  have blank : hasLetter "__".toList = false := by decide +kernel
  have first : hasLetter "fee".toList = true := by decide +kernel
  have second : hasLetter "0X12".toList = true := by decide +kernel
  obtain ⟨joined, replaced, trimmed⟩ := storeName_separated "fee" "0X12"
  have underscore := joined '-' separates
  rw [first, second, if_neg (by decide), if_neg (by decide)] at underscore
  exact ⟨separates, several, one, blank, underscore, replaced _ _ several one, trimmed _ blank⟩

end EntityLayout
