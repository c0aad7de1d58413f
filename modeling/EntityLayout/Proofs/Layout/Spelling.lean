import EntityLayout.Proofs.Layout.Accounting
import EntityLayout.Proofs.Layout.Correspondence
import EntityLayout.Proofs.Schema.Spelling

/-!
# Layouts and the spelling of names

Names of fields and of searches have a part in a layout only through their store names: documents that
differ in nothing but the spelling of such names have the same layouts (`layout_respelled`). Their errors may
differ, since these repeat the names as they are spelled.
-/
namespace EntityLayout
open List (Forall₂)

/-- A change of errors leaves every success as it is. -/
theorem mapError_eq_ok_iff {ε ε' α : Type} {check : Except ε α} {change : ε → ε'} {value : α} :
    check.mapError change = .ok value ↔ check = .ok value := by
  cases check <;> simp [Except.mapError]

/-- A layout is that of a document exactly if it is that of the document in another spelling. -/
theorem layout_respelled {document other : Document} (alike : document.Alike other) (layout : Layout) :
    Layout.ofDocument document = .ok layout ↔ Layout.ofDocument other = .ok layout := by
  have same := ofDocument_corresponds alike.corresponds
  calc
    Layout.ofDocument document = .ok layout ↔
        (Layout.ofDocument document).mapError NameKey.stored.ofError = .ok layout := mapError_eq_ok_iff.symm
    _ ↔ (Layout.ofDocument other).mapError NameKey.stored.ofError = .ok layout := by rw [same]
    _ ↔ Layout.ofDocument other = .ok layout := mapError_eq_ok_iff

/-- The schema of tokens in another spelling. -/
def respelledTokenSchema : Document where
  definitions := [
    .object {
      name := "Owner", implements := ["Holder"]
      directives := [⟨"entity", [⟨"immutable", .bool true⟩]⟩]
      fields := [
        ⟨"id", .nonNull (.named "ID"), []⟩,
        ⟨"owned_tokens", .nonNull (.list (.named "Token")), [⟨"derivedFrom", [⟨"field", .str "held-by"⟩]⟩]⟩] },
    .object {
      name := "Token", implements := [], directives := [⟨"entity", []⟩]
      fields := [
        ⟨"id", .nonNull (.named "ID"), []⟩,
        ⟨"Symbol", .named "String", []⟩,
        ⟨"HeldBy", .nonNull (.named "Holder"), []⟩] },
    .interface { name := "Holder", directives := [], fields := [] },
    .object {
      name := "_Schema_", implements := [], fields := []
      directives := [⟨"fulltext", [⟨"name", .str "token search"⟩, ⟨"language", .enum "en"⟩,
        ⟨"algorithm", .enum "rank"⟩, ⟨"include", .list [.object [⟨"entity", .str "token"⟩,
          ⟨"fields", .list [.object [⟨"name", .str "SYMBOL"⟩]]⟩]]⟩]⟩] }]

/-- Fields, the directive that derives one of them and a search, all of them spelled otherwise. -/
theorem layout_respelled_tokens :
    tokenSchema.Alike respelledTokenSchema ∧ Layout.ofDocument respelledTokenSchema = .ok tokenLayout := by
  have renamed {name other : String} (field : name ≠ idField) (field' : other ≠ idField)
      (same : storeName name = storeName other) : FieldNamesAlike name other := Or.inr ⟨field, field', same⟩
  have id : Field.Alike ⟨"id", .nonNull (.named "ID"), []⟩ ⟨"id", .nonNull (.named "ID"), []⟩ :=
    ⟨Or.inl rfl, rfl, .nil⟩
  have heldBy : storeName "heldBy" = storeName "held-by" := by decide +kernel
  have search : storeName "tokenSearch" = storeName "token search" := by decide +kernel
  have token : storeName "Token" = storeName "token" := by decide +kernel
  have symbol : storeName "symbol" = storeName "SYMBOL" := by decide +kernel
  have derived : Directive.Alike ⟨"derivedFrom", [⟨"field", .str "heldBy"⟩]⟩
      ⟨"derivedFrom", [⟨"field", .str "held-by"⟩]⟩ := ⟨rfl, .cons ⟨rfl, heldBy⟩ .nil⟩
  have included : (Leeway.entries .searchInclude).Alike
      (.object [⟨"entity", .str "Token"⟩, ⟨"fields", .list [.object [⟨"name", .str "symbol"⟩]]⟩])
      (.object [⟨"entity", .str "token"⟩, ⟨"fields", .list [.object [⟨"name", .str "SYMBOL"⟩]]⟩]) :=
    .cons ⟨rfl, token⟩ (.cons ⟨rfl, .cons (.cons ⟨rfl, symbol⟩ .nil) .nil⟩ .nil)
  have alike : tokenSchema.Alike respelledTokenSchema := by
    refine .cons (.object ⟨rfl, rfl, ?_, ?_⟩) (.cons (.object ⟨rfl, rfl, ?_, ?_⟩)
      (.cons (.interface ⟨rfl, .nil, .nil⟩) (.cons (.object ⟨rfl, rfl, ?_, .nil⟩) .nil)))
    · exact .cons ⟨rfl, .cons ⟨rfl, rfl⟩ .nil⟩ .nil
    · exact .cons id (.cons ⟨renamed (by decide) (by decide) (by decide +kernel), rfl, .cons derived .nil⟩ .nil)
    · exact .cons ⟨rfl, .nil⟩ .nil
    · exact .cons id (.cons ⟨renamed (by decide) (by decide) (by decide +kernel), rfl, .nil⟩
        (.cons ⟨renamed (by decide) (by decide) (by decide +kernel), rfl, .nil⟩ .nil))
    · exact .cons ⟨rfl, .cons ⟨rfl, search⟩ (.cons ⟨rfl, rfl⟩ (.cons ⟨rfl, rfl⟩
        (.cons ⟨rfl, .cons included .nil⟩ .nil)))⟩ .nil
  exact ⟨alike, (layout_respelled alike tokenLayout).mp tokenLayout_built⟩

end EntityLayout
