import SyntaxBridge.Proofs.Grammar.Identifier
import SyntaxBridge.Swift.Name

/-!
# Names of the types of categories

A category that is named by an identifier has a type of the same name unless it is predefined
(`typeName_of_isAsciiIdentifier`), and its list category has the type that starts with `List`
(`typeName_listOf`).
-/

namespace SyntaxBridge

namespace Swift

/-- The predefined categories. -/
def scalarNames : List String := scalarTypes.map (·.1)

/-- The predefined categories are named by identifiers. -/
theorem isAsciiIdentifier_of_mem_scalarNames {name : String} (h : name ∈ scalarNames) :
    IsAsciiIdentifier name := by
  have hnames : ∀ name ∈ scalarNames, IsAsciiIdentifier name := by decide
  exact hnames name h

/-- An identifier names the function that visits the category. -/
theorem listName_of_isAsciiIdentifier {name : String} (h : IsAsciiIdentifier name) :
    Category.listName name = name := by
  rw [Category.listName, h.element?_eq_none]

theorem listName_listOf {name : String} (h : name ≠ "") :
    Category.listName (Category.listOf name) = "List" ++ name := by
  rw [Category.listName, Category.element?_listOf h]

/-- The type of a list category. -/
theorem typeName_listOf {name : String} (h : name ≠ "") :
    typeName (Category.listOf name) = "List" ++ name := by
  rw [typeName, if_pos (Category.isList_iff.mpr ⟨name, h, rfl⟩), listName_listOf h]

/-- The type of a category that is not predefined has its name. -/
theorem typeName_of_isAsciiIdentifier {name : String} (h : IsAsciiIdentifier name)
    (hscalar : name ∉ scalarNames) : typeName name = name := by
  have hlookup : scalarTypes.lookup name = none := by
    rw [List.lookup_eq_none_iff]
    intro entry hentry
    have hne : entry.1 ≠ name := fun heq => hscalar (heq ▸ List.mem_map_of_mem hentry)
    exact bne_iff_ne.mpr hne.symm
  rw [typeName, h.isList_eq_false, if_neg Bool.false_ne_true, hlookup, Option.getD_none]

end Swift

end SyntaxBridge
