import SyntaxBridge.Proofs.Swift.Name
import SyntaxBridge.Proofs.Text.Cutting
import SyntaxBridge.Proofs.Text.Identifier
import SyntaxBridge.Swift.Name

/-!
# Characters of names

Names in the generated source are made from the identifiers of a grammar: they are put in lower
case, shortened, put behind `List`, numbered, and escaped. `IsNameText` holds of a text of the
characters that can come of it, which are those of identifiers, brackets and backquotes. No white
space, brace or colon is among them.
-/

namespace SyntaxBridge.Swift

/-- Whether a character is one of an identifier, a bracket or a backquote. -/
def isNameChar (c : Char) : Bool :=
  c.isAlphanum || ['_', '[', ']', '`'].contains c

/-- A text consists of characters of names. -/
def IsNameText (text : String) : Prop :=
  ∀ c ∈ text.toList, isNameChar c = true

instance (text : String) : Decidable (IsNameText text) :=
  decidable_of_iff (text.toList.all isNameChar = true) List.all_eq_true

variable {name label text a b : String}

theorem isNameText_append : IsNameText (a ++ b) ↔ IsNameText a ∧ IsNameText b := by
  simp only [IsNameText, String.toList_append, List.mem_append, or_imp, forall_and]

/-- No other character stands in a name. -/
theorem IsNameText.notMem (h : IsNameText text) {mark : Char} (hmark : isNameChar mark = false) :
    mark ∉ text.toList := by
  intro hmem
  rw [h mark hmem] at hmark
  exact Bool.noConfusion hmark

/-- Identifiers consist of characters of names. -/
theorem isNameText_of_isAsciiIdentifier (h : IsAsciiIdentifier name) : IsNameText name := by
  intro c hc
  by_contra hchar
  rw [isNameChar, Bool.or_eq_true, not_or] at hchar
  refine h.notMem ?_ hc
  have hunderscore : c ≠ '_' := by
    rintro rfl
    exact hchar.2 (by decide)
  simpa [hunderscore] using hchar.1

/-! ## Categories -/

theorem IsNameText.listOf (h : IsNameText name) : IsNameText (Category.listOf name) := by
  rw [Category.listOf, isNameText_append, isNameText_append]
  exact ⟨⟨by decide, h⟩, by decide⟩

/-- What stands between the brackets of a name is a name. -/
theorem IsNameText.of_element? (h : IsNameText name)
    (helement : Category.element? name = some text) : IsNameText text := by
  obtain ⟨-, rfl⟩ := Category.element?_eq_some_iff.mp helement
  rw [Category.listOf, isNameText_append, isNameText_append] at h
  exact h.1.2

theorem IsNameText.listName (h : IsNameText name) : IsNameText (Category.listName name) := by
  rw [Category.listName]
  split
  next inner helement =>
    refine isNameText_append.mpr ⟨by decide, h.of_element? helement⟩
  next => exact h

theorem IsNameText.typeName (h : IsNameText name) : IsNameText (typeName name) := by
  rw [Swift.typeName]
  split
  · exact h.listName
  · cases hscalar : scalarTypes.lookup name with
    | none => exact h
    | some type =>
      have hall : ∀ entry ∈ scalarTypes, IsNameText entry.2 := by decide
      obtain ⟨before, after, hentries, -⟩ := List.lookup_eq_some_iff.mp hscalar
      exact hall (name, type) (by simp [hentries])

/-! ## Lower case -/

/-- The characters of names are within ASCII. -/
theorem toNat_lt_of_isNameChar {c : Char} (h : isNameChar c = true) : c.toNat < 128 := by
  rw [isNameChar, Bool.or_eq_true] at h
  rcases h with h | h
  · exact Text.toNat_lt_of_isAlphanum h
  · rw [List.contains_iff_mem] at h
    simp only [List.mem_cons, List.not_mem_nil, or_false] at h
    rcases h with rfl | rfl | rfl | rfl <;> decide

/-- A character of a name is one in lower case, too. -/
theorem isNameChar_of_mem_lowerChar {c d : Char} (h : isNameChar c = true)
    (hd : d ∈ Text.lowerChar c) : isNameChar d = true := by
  have hascii := toNat_lt_of_isNameChar h
  rw [Text.lowerChar_of_ascii hascii, List.mem_singleton] at hd
  have htable : ∀ n < 128, isNameChar (Char.ofNat n) = true →
      isNameChar (Char.ofNat n).toLower = true := by decide
  have hc := htable c.toNat hascii
  rw [Char.ofNat_toNat] at hc
  exact hd ▸ hc h

/-- Putting a name in lower case leaves a name. The letter that looks at what stands around it is not
within ASCII. -/
theorem IsNameText.lower (h : IsNameText text) : IsNameText (lower text) := by
  have hlower (before cs : List Char) (hcs : ∀ c ∈ cs, isNameChar c = true) :
      ∀ d ∈ Text.lowerAfter before cs, isNameChar d = true := by
    induction cs generalizing before with
    | nil => exact List.forall_mem_nil _
    | cons c cs ih =>
      rw [List.forall_mem_cons] at hcs
      have hsigma : c ≠ Text.capitalSigma := by
        rintro rfl
        exact absurd hcs.1 (by decide)
      rw [Text.lowerAfter, if_neg fun hfinal => hsigma hfinal.1]
      intro d hd
      rcases List.mem_append.mp hd with hd | hd
      · exact isNameChar_of_mem_lowerChar hcs.1 hd
      · exact ih _ hcs.2 d hd
  intro d hd
  rw [Swift.lower, String.toList_ofList] at hd
  exact hlower [] text.toList h d hd

/-! ## Cases and members -/

/-- Dropping the name of a category from a label adds no character. -/
theorem subset_bareCaseName (type label : List Char) :
    dropUnderscore (dropTypeName type label) ⊆ label := by
  have htype : dropTypeName type label ⊆ label := by
    rw [dropTypeName]
    split
    · dsimp only
      split
      · exact List.drop_subset _ _
      · exact List.Subset.refl _
    · exact List.Subset.refl _
  refine List.Subset.trans ?_ htype
  generalize dropTypeName type label = rest
  unfold dropUnderscore
  split
  · exact List.subset_cons_self _ _
  · exact List.Subset.refl _

/-- The name of a case is a name, escaped or not. -/
theorem isNameText_caseName (type : String) (h : IsNameText label) :
    IsNameText (caseName type label) := by
  have hbare : IsNameText (String.ofList (bareCaseName type.toList label.toList)) := by
    have hkept : ∀ c ∈ dropUnderscore (dropTypeName type.toList label.toList),
        isNameChar c = true := fun c hc => h c (subset_bareCaseName _ _ hc)
    intro d hd
    rw [String.toList_ofList, bareCaseName] at hd
    cases hcs : dropUnderscore (dropTypeName type.toList label.toList) with
    | nil =>
      rw [hcs] at hd
      cases hd
    | cons c cs =>
      rw [hcs, List.forall_mem_cons] at hkept
      rw [hcs, Text.lowerFirst, List.mem_append] at hd
      rcases hd with hd | hd
      · exact isNameChar_of_mem_lowerChar hkept.1 hd
      · exact hkept.2 d hd
  rw [caseName]
  split
  · rw [escape, isNameText_append, isNameText_append]
    exact ⟨⟨by decide, hbare⟩, by decide⟩
  · exact hbare

/-- A number is written with digits. -/
theorem isNameText_toString (number : Nat) : IsNameText (toString number) := by
  intro c hc
  simp [isNameChar, Char.isAlphanum, Text.isDigit_of_mem_toString hc]

/-- The name of a member is a name. -/
theorem isNameText_memberName (construction : List String) (index : Nat) (h : IsNameText name) :
    IsNameText (memberName construction index name) := by
  rw [memberName]
  split
  · exact isNameText_append.mpr ⟨h.listName.lower, by decide⟩
  · rw [isNameText_append, isNameText_append]
    exact ⟨⟨h.listName.lower, by decide⟩, isNameText_toString _⟩

end SyntaxBridge.Swift
