import EntityLayout.Layout.Json
import EntityLayout.Sdl.Token.Scan
import Mathlib.Tactic.SplitIfs

/-!
# Reading compact JSON

A reader of JSON text without blanks, numbers and nulls. It undoes the writing of every value
(`ofText?_text`): strings because each character is escaped on its own, lists because a comma or a closing
bracket stands behind every item.
-/
namespace EntityLayout.Json

/-- Reads a string up to its closing quote; the opening one has been read. JSON has the escapes that strings
of a schema have. -/
def readChars : List Char → Option (List Char × List Char)
  | [] => none
  | '"' :: rest => some ([], rest)
  | '\\' :: 'u' :: a :: b :: c :: d :: rest => do
    let char ← Token.ofHexDigits? [a, b, c, d]
    let (chars, rest) ← readChars rest
    some (char :: chars, rest)
  | '\\' :: escape :: rest => do
    let char ← Token.ofEscape? escape
    let (chars, rest) ← readChars rest
    some (char :: chars, rest)
  | char :: rest => do
    let (chars, rest) ← readChars rest
    some (char :: chars, rest)

theorem ofHexDigits?_low : ∀ code : Fin 16,
    Token.ofHexDigits? ['0', '0', '0', Nat.digitChar code] = some (Char.ofNat code) := by
  decide

theorem ofHexDigits?_high : ∀ code : Fin 16,
    Token.ofHexDigits? ['0', '0', '1', Nat.digitChar code] = some (Char.ofNat (code + 16)) := by
  decide

/-- The four digits of a control character give it back. -/
theorem readChars_codePoint {char a b c d : Char} (digits : Token.ofHexDigits? [a, b, c, d] = some char)
    (rest : List Char) :
    readChars ('\\' :: 'u' :: a :: b :: c :: d :: rest) =
      (readChars rest).bind fun (chars, rest) => some (char :: chars, rest) := by
  rw [readChars, digits]
  rfl

theorem readChars_escapedChar (char : Char) (rest : List Char) :
    readChars (escapedChar char ++ rest) =
      (readChars rest).bind fun (chars, rest) => some (char :: chars, rest) := by
  unfold escapedChar
  split_ifs with quote backslash b f n r t low high
  · subst quote; rfl
  · subst backslash; rfl
  · subst b; rfl
  · subst f; rfl
  · subst n; rfl
  · subst r; rfl
  · subst t; rfl
  · have digits := ofHexDigits?_low ⟨char.toNat, low⟩
    rw [Char.ofNat_toNat] at digits
    exact readChars_codePoint digits rest
  · have digits := ofHexDigits?_high ⟨char.toNat - 16, by omega⟩
    rw [Nat.sub_add_cancel (by omega), Char.ofNat_toNat] at digits
    exact readChars_codePoint digits rest
  · rw [List.singleton_append, readChars] <;> simp_all

/-- Characters that were escaped one by one are read back up to the closing quotation mark. -/
theorem readChars_flatMap (chars rest : List Char) :
    readChars (chars.flatMap escapedChar ++ '"' :: rest) = some (chars, rest) := by
  induction chars with
  | nil => rw [List.flatMap_nil, List.nil_append, readChars]
  | cons char chars ih =>
    rw [List.flatMap_cons, List.append_assoc, readChars_escapedChar, ih]
    rfl

/-- Reads items with commas between them up to the mark `close`, one at least and at most `count`. -/
def readMany {α : Type} (close : Char) (read : List Char → Option (α × List Char)) :
    Nat → List Char → Option (List α × List Char)
  | 0, _ => none
  | count + 1, text => do
    let (item, rest) ← read text
    match rest with
    | [] => none
    | mark :: rest =>
      if mark = close then some ([item], rest)
      else if mark = ',' then do
        let (items, rest) ← readMany close read count rest
        some (item :: items, rest)
      else none

/-- Items between commas are read one by one, given fuel for each of them, until the closing bracket stands behind
one. -/
theorem readMany_separated {α : Type} {close : Char} {read : List Char → Option (α × List Char)}
    {write : α → List Char} {items : List α} {count : Nat} (comma : close ≠ ',') (nonempty : items ≠ [])
    (enough : items.length ≤ count) (reads : ∀ item ∈ items, ∀ rest, read (write item ++ rest) = some (item, rest))
    (rest : List Char) :
    readMany close read count (separated (items.map write) ++ close :: rest) = some (items, rest) := by
  induction items generalizing count with
  | nil => exact absurd rfl nonempty
  | cons item items ih =>
    obtain ⟨first, others⟩ := List.forall_mem_cons.mp reads
    obtain ⟨count, rfl⟩ := Nat.exists_eq_add_of_le' (Nat.lt_of_lt_of_le (Nat.zero_lt_succ _) enough)
    cases items with
    | nil => simp [readMany, separated, first]
    | cons second items =>
      have read := ih (List.cons_ne_nil _ _) (Nat.le_of_succ_le_succ enough) others
      simp [readMany, separated, first] at read ⊢
      simp [read, comma.symm]

theorem separated_cons (first : List Char) {rest : List (List Char)} (more : rest ≠ []) :
    separated (first :: rest) = first ++ ',' :: separated rest :=
  separated.eq_3 first rest more

theorem length_le_separated (texts : List (List Char)) : texts.length ≤ (separated texts).length + 1 := by
  induction texts using separated.induct with
  | case1 => exact Nat.zero_le _
  | case2 only => exact Nat.le_add_left _ _
  | case3 first rest more ih =>
    rw [separated_cons first more, List.length_append, List.length_cons, List.length_cons]
    omega

/-- The fuel that the reader gives itself, the length of the text, is enough for all items. -/
theorem readMany_body {α : Type} {close : Char} {read : List Char → Option (α × List Char)}
    {write : α → List Char} {items : List α} (comma : close ≠ ',') (nonempty : items ≠ [])
    (reads : ∀ item ∈ items, ∀ rest, read (write item ++ rest) = some (item, rest)) (rest : List Char) :
    readMany close read (separated (items.map write) ++ close :: rest).length
      (separated (items.map write) ++ close :: rest) = some (items, rest) := by
  have longer := length_le_separated (items.map write)
  refine readMany_separated comma nonempty ?_ reads rest
  rw [List.length_map] at longer
  rw [List.length_append, List.length_cons]
  omega

/-- An item is no longer than the list that it stands in, which bounds the depth of the items. -/
theorem length_le_separated_of_mem {texts : List (List Char)} {text : List Char} (member : text ∈ texts) :
    text.length ≤ (separated texts).length := by
  induction texts using separated.induct with
  | case1 => cases member
  | case2 only => exact List.mem_singleton.mp member ▸ Nat.le_refl _
  | case3 first rest more ih =>
    rw [separated_cons first more, List.length_append, List.length_cons]
    rcases List.mem_cons.mp member with rfl | member
    · omega
    · have inRest := ih member
      omega

/-- Reads a name and the value behind it. -/
def readEntry {α : Type} (read : List Char → Option (α × List Char)) :
    List Char → Option ((String × α) × List Char)
  | '"' :: text => do
    let (key, rest) ← readChars text
    match rest with
    | ':' :: rest => do
      let (value, rest) ← read rest
      some ((String.ofList key, value), rest)
    | _ => none
  | _ => none

/-- Reads a value whose lists and objects are nested less than `depth` deep. -/
def readValue : Nat → List Char → Option (Json × List Char)
  | 0, _ => none
  | depth + 1, text =>
    match text with
    | 't' :: 'r' :: 'u' :: 'e' :: rest => some (.bool true, rest)
    | 'f' :: 'a' :: 'l' :: 's' :: 'e' :: rest => some (.bool false, rest)
    | '"' :: rest => (readChars rest).map fun (chars, rest) => (.str (String.ofList chars), rest)
    | '[' :: ']' :: rest => some (.arr [], rest)
    | '[' :: rest =>
      (readMany ']' (readValue depth) rest.length rest).map fun (items, rest) => (.arr items, rest)
    | '\x7b' :: '\x7d' :: rest => some (.obj [], rest)
    | '\x7b' :: rest =>
      (readMany '\x7d' (readEntry (readValue depth)) rest.length rest).map fun (entries, rest) =>
        (.obj entries, rest)
    | _ => none

/-- The value that is written as the text, with nothing behind it. -/
def ofText? (text : String) : Option Json :=
  match readValue (text.toList.length + 1) text.toList with
  | some (json, []) => some json
  | _ => none

def entryText (entry : String × Json) : List Char :=
  stringText entry.1 ++ ':' :: entry.2.text

theorem itemTexts_eq_map (items : List Json) : itemTexts items = items.map text := by
  induction items with
  | nil => rfl
  | cons item items ih => rw [itemTexts, ih, List.map_cons]

theorem entryTexts_eq_map (entries : List (String × Json)) : entryTexts entries = entries.map entryText := by
  induction entries with
  | nil => rfl
  | cons entry entries ih => rw [entryTexts, ih, List.map_cons, entryText]

theorem readEntry_entryText {read : List Char → Option (Json × List Char)} {entry : String × Json}
    (reads : ∀ rest, read (entry.2.text ++ rest) = some (entry.2, rest)) (rest : List Char) :
    readEntry read (entryText entry ++ rest) = some (entry, rest) := by
  simp [entryText, stringText, readEntry, readChars_flatMap, reads]

/-- A value starts with no closing bracket, so that a list of values does not look empty. -/
theorem head?_text (json : Json) : json.text.head? ≠ some ']' := by
  cases json with
  | bool value => cases value <;> simp [text]
  | str | arr | obj => simp [text, stringText]

theorem head?_separated {first : List Char} (nonempty : first ≠ []) (more : List (List Char)) (rest : List Char) :
    (separated (first :: more) ++ rest).head? = first.head? := by
  obtain ⟨char, chars, rfl⟩ := List.exists_cons_of_ne_nil nonempty
  cases more <;> rfl

theorem text_ne_nil (json : Json) : json.text ≠ [] := by
  cases json with
  | bool value => cases value <;> exact List.cons_ne_nil _ _
  | str | arr | obj => exact List.cons_ne_nil _ _

/-- An entry starts with a quotation mark, so that it is not taken for the end of its object. -/
theorem head?_entryText (entry : String × Json) : (entryText entry).head? ≠ some '\x7d' := by
  simp [entryText, stringText]

theorem entryText_ne_nil (entry : String × Json) : entryText entry ≠ [] :=
  List.cons_ne_nil _ _

theorem readValue_arr {depth : Nat} {body rest : List Char} {items : List Json}
    (nonempty : body.head? ≠ some ']')
    (read : readMany ']' (readValue depth) body.length body = some (items, rest)) :
    readValue (depth + 1) ('[' :: body) = some (.arr items, rest) := by
  rw [readValue, read]
  · rfl
  · rintro rest rfl
    exact nonempty rfl

theorem readValue_obj {depth : Nat} {body rest : List Char} {entries : List (String × Json)}
    (nonempty : body.head? ≠ some '\x7d')
    (read : readMany '\x7d' (readEntry (readValue depth)) body.length body = some (entries, rest)) :
    readValue (depth + 1) ('\x7b' :: body) = some (.obj entries, rest) := by
  rw [readValue, read]
  · rfl
  · rintro rest rfl
    exact nonempty rfl

/-- Induction over a value through the items of lists and the values of objects. -/
@[elab_as_elim]
theorem induction_parts {motive : Json → Prop} (str : ∀ text, motive (.str text))
    (bool : ∀ value, motive (.bool value)) (arr : ∀ items, (∀ item ∈ items, motive item) → motive (.arr items))
    (obj : ∀ entries, (∀ entry ∈ entries, motive entry.2) → motive (.obj entries)) :
    ∀ json, motive json
  | .str text => str text
  | .bool value => bool value
  | .arr items => arr items fun item _ => induction_parts str bool arr obj item
  | .obj entries => obj entries fun entry member =>
    have : sizeOf entry.2 < sizeOf entries :=
      Nat.lt_of_le_of_lt (by cases entry; simp) (List.sizeOf_lt_of_mem member)
    induction_parts str bool arr obj entry.2

/-- Every value is read back from its text, whatever stands behind it. The induction is on the value, with the depth
left open: the length of the text is more than enough. -/
theorem readValue_text (json : Json) {depth : Nat} (enough : json.text.length ≤ depth) (rest : List Char) :
    readValue (depth + 1) (json.text ++ rest) = some (json, rest) := by
  induction json using induction_parts generalizing depth rest with
  | str string => simp [text, stringText, readValue, readChars_flatMap]
  | bool value => cases value <;> rfl
  | arr items ih =>
    cases items with
    | nil => rfl
    | cons item items =>
      -- The opening bracket uses up one of the depth, and every item is shorter than what stands behind it.
      rw [text, itemTexts_eq_map, List.length_append, List.length_cons] at enough
      obtain ⟨depth, rfl⟩ := Nat.exists_eq_add_one_of_ne_zero (Nat.ne_zero_of_lt enough)
      rw [text, itemTexts_eq_map, List.append_assoc, List.cons_append, List.singleton_append]
      refine readValue_arr ?_ (readMany_body (by decide) (List.cons_ne_nil _ _) (fun other member => ?_) rest)
      · rw [List.map_cons, head?_separated (text_ne_nil item)]
        exact head?_text item
      · have shorter := length_le_separated_of_mem (List.mem_map_of_mem (f := text) member)
        exact ih other member (by omega)
  | obj entries ih =>
    cases entries with
    | nil => rfl
    | cons entry entries =>
      rw [text, entryTexts_eq_map, List.length_append, List.length_cons] at enough
      obtain ⟨depth, rfl⟩ := Nat.exists_eq_add_one_of_ne_zero (Nat.ne_zero_of_lt enough)
      rw [text, entryTexts_eq_map, List.append_assoc, List.cons_append, List.singleton_append]
      refine readValue_obj ?_ (readMany_body (by decide) (List.cons_ne_nil _ _) (fun other member => ?_) rest)
      · rw [List.map_cons, head?_separated (entryText_ne_nil entry)]
        exact head?_entryText entry
      · have shorter := length_le_separated_of_mem (List.mem_map_of_mem (f := entryText) member)
        rw [entryText, List.length_append, List.length_cons] at shorter
        exact readEntry_entryText (ih other member (by omega))

/-- Reading undoes writing. -/
theorem ofText?_text (json : Json) : ofText? (String.ofList json.text) = some json := by
  have read := readValue_text json (Nat.le_refl _) []
  rw [List.append_nil] at read
  rw [ofText?, String.toList_ofList, read]

end EntityLayout.Json
