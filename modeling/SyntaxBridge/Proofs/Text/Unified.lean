import SyntaxBridge.Grammar.Literal
import SyntaxBridge.Proofs.Text.Case
import SyntaxBridge.Proofs.Text.Lines
import SyntaxBridge.Proofs.Text.Splitting
import SyntaxBridge.Text.Digit
import SyntaxBridge.Text.Search

/-!
# Texts without carriage returns

A text that is written to a file is read back with a line feed for every line end. It is the same
text if no carriage return stands in it (`IsUnified.unifyLineEnds_eq`). None comes into a text by
cutting it into parts, and the line ends of a source stand between its lines
(`isLineEnd_of_mem_splitLines`). What puts texts together adds no line feed to them either, so that
is shown of both marks at once, where a text *lacks* a mark.
-/

namespace SyntaxBridge.Text

/-- A mark does not stand in a text. -/
def Lacks (mark : Char) (text : String) : Prop :=
  mark ∉ text.toList

instance (mark : Char) (text : String) : Decidable (Lacks mark text) :=
  inferInstanceAs (Decidable (mark ∉ text.toList))

/-- No carriage return stands in a text. -/
def IsUnified (text : String) : Prop :=
  '\r' ∉ text.toList

instance (text : String) : Decidable (IsUnified text) :=
  inferInstanceAs (Decidable ('\r' ∉ text.toList))

/-- The two characters that end a line. -/
abbrev IsLineMark (mark : Char) : Prop :=
  mark = '\n' ∨ mark = '\r'

/-- A character that ends a line is a control character. -/
theorem IsLineMark.control {mark : Char} (h : IsLineMark mark) :
    0 < mark.toNat ∧ mark.toNat < 32 := by
  rcases h with rfl | rfl <;> decide

variable {cs part : List Char} {mark : Char} {a b sep text : String} {texts : List String}

theorem lacks_ofList : Lacks mark (String.ofList cs) ↔ mark ∉ cs := by
  rw [Lacks, String.toList_ofList]

@[simp]
theorem lacks_append : Lacks mark (a ++ b) ↔ Lacks mark a ∧ Lacks mark b := by
  rw [Lacks, String.toList_append, List.mem_append, not_or]
  exact Iff.rfl

/-- Texts that are joined by a text add nothing to it. -/
theorem lacks_intercalate (hsep : Lacks mark sep) (h : ∀ text ∈ texts, Lacks mark text) :
    Lacks mark (sep.intercalate texts) := by
  induction texts with
  | nil => exact List.not_mem_nil
  | cons text texts ih =>
    rw [List.forall_mem_cons] at h
    cases texts with
    | nil => simpa using h.1
    | cons next texts =>
      rw [String.intercalate_cons_cons, lacks_append, lacks_append]
      exact ⟨⟨h.1, hsep⟩, ih h.2⟩

/-- A number is written without marks. -/
theorem lacks_toString (hmark : mark.isDigit = false) (number : Nat) :
    Lacks mark (toString number) := by
  intro hmem
  rw [isDigit_of_mem_toString hmem] at hmark
  cases hmark

theorem isUnified_ofList : IsUnified (String.ofList cs) ↔ '\r' ∉ cs :=
  lacks_ofList

@[simp]
theorem isUnified_append : IsUnified (a ++ b) ↔ IsUnified a ∧ IsUnified b :=
  lacks_append

theorem isUnified_intercalate (hsep : IsUnified sep) (h : ∀ text ∈ texts, IsUnified text) :
    IsUnified (sep.intercalate texts) :=
  lacks_intercalate hsep h

/-- A text without carriage returns is read as it was written. -/
theorem IsUnified.unifyLineEnds_eq (h : IsUnified text) :
    String.ofList (unifyLineEnds text.toList) = text := by
  rw [unifyLineEnds_eq_self h, String.ofList_toList]

/-! ## Lines -/

/-- No line end stands in a line. -/
theorem isLineEnd_of_mem_splitLines {line : List Char} (h : line ∈ splitLines cs) :
    ∀ c ∈ line, isLineEnd c = false := by
  fun_induction splitLines cs generalizing line with
  | case1 => cases h
  | case2 cs ih =>
    rcases List.mem_cons.mp h with rfl | h
    · exact List.forall_mem_nil _
    · exact ih h
  | case3 c cs _ _ ih =>
    rcases List.mem_cons.mp h with rfl | h
    · exact List.forall_mem_nil _
    · exact ih h
  | case4 c cs _ hend _ _ =>
    obtain rfl := List.mem_singleton.mp h
    exact List.forall_mem_singleton.mpr (by simpa using hend)
  | case5 c cs _ hend first lines hlines ih =>
    -- The character goes to the first of the lines, and the others stay.
    rw [hlines] at ih
    rcases List.mem_cons.mp h with rfl | h
    · exact List.forall_mem_cons.mpr ⟨by simpa using hend, ih List.mem_cons_self⟩
    · exact ih (List.mem_cons_of_mem _ h)

/-- No carriage return stands in a line. -/
theorem return_notMem_of_mem_splitLines {line : List Char} (h : line ∈ splitLines cs) :
    '\r' ∉ line :=
  fun hmem => absurd (isLineEnd_of_mem_splitLines h _ hmem) (by decide)

/-! ## Parts of a text -/

/-- The parts that a text is cut into are made of its characters. -/
theorem subset_of_mem_splitWhere {p : Char → Bool} (h : part ∈ splitWhere p cs) : part ⊆ cs := by
  induction cs generalizing part with
  | nil =>
    obtain rfl := List.mem_singleton.mp h
    exact List.Subset.refl _
  | cons c cs ih =>
    rw [splitWhere] at h
    split_ifs at h
    · rcases List.mem_cons.mp h with rfl | h
      · exact List.nil_subset _
      · exact List.subset_cons_of_subset _ (ih h)
    · split at h
      next =>
        obtain rfl := List.mem_singleton.mp h
        exact List.cons_subset_cons _ (List.nil_subset _)
      next first parts hparts =>
        rw [hparts] at ih
        rcases List.mem_cons.mp h with rfl | h
        · exact List.cons_subset_cons _ (ih List.mem_cons_self)
        · exact List.subset_cons_of_subset _ (ih (List.mem_cons_of_mem _ h))

/-- The words of a text are made of its characters. -/
theorem subset_of_mem_words (h : part ∈ words cs) : part ⊆ cs :=
  subset_of_mem_splitWhere (List.mem_of_mem_filter h)

/-- Both sides of a mark are made of the characters of the text. -/
theorem subset_of_cutAt? {mark before after : List Char}
    (h : cutAt? mark cs = some (before, after)) : before ⊆ cs ∧ after ⊆ cs := by
  rw [eq_append_of_cutAt? h]
  exact ⟨List.subset_append_left _ _, List.subset_append_of_subset_right _
    (List.subset_append_right _ _)⟩

/-- Dropping the digits at the end of a text adds no character. -/
theorem dropTrailingDigits_subset (cs : List Char) : dropTrailingDigits cs ⊆ cs := by
  obtain ⟨digits, _, hcs⟩ := exists_eq_dropEndWhile_append isDecimalDigit cs
  intro c hc
  rw [hcs]
  exact List.mem_append_left digits hc

/-- The first word of a text is made of its characters, and so is what follows it. -/
theorem firstWord_subset (cs : List Char) : (firstWord cs).1 ⊆ cs ∧ (firstWord cs).2 ⊆ cs := by
  have hstart : trimStart cs ⊆ cs := (List.dropWhile_sublist isBlank).subset
  refine ⟨fun c hc => hstart ((List.takeWhile_sublist _).subset hc), fun c hc => hstart ?_⟩
  exact (List.dropWhile_sublist _).subset ((List.dropWhile_sublist isBlank).subset hc)

end SyntaxBridge.Text

namespace SyntaxBridge.Literal

/-- What follows a literal is made of the characters of the text. -/
theorem subset_of_rest? {cs after : List Char} (h : rest? cs = some after) : after ⊆ cs := by
  fun_induction rest? cs with
  | case1 => cases h
  | case2 cs =>
    cases h
    exact List.subset_cons_self _ _
  | case3 => cases h
  | case4 c cs _ ih =>
    exact List.subset_cons_of_subset _ (List.subset_cons_of_subset _ (ih h))
  | case5 => cases h
  | case6 c cs _ _ _ ih => exact List.subset_cons_of_subset _ (ih h)

/-- What is left of a text without its literals are characters of the text, and spaces. -/
theorem subset_of_erase? {cs bare : List Char} (h : erase? cs = some bare) : bare ⊆ ' ' :: cs := by
  fun_induction erase? cs generalizing bare with
  | case1 =>
    cases h
    exact List.nil_subset _
  | case2 cs after hrest _ ih =>
    obtain ⟨rest, hbare, rfl⟩ := Option.map_eq_some_iff.mp h
    refine List.cons_subset.mpr ⟨List.mem_cons_self, List.Subset.trans (ih hbare) ?_⟩
    exact List.cons_subset_cons _ (List.subset_cons_of_subset _ (subset_of_rest? hrest))
  | case3 => cases h
  | case4 c cs _ ih =>
    obtain ⟨rest, hbare, rfl⟩ := Option.map_eq_some_iff.mp h
    refine List.cons_subset.mpr ⟨by simp, List.Subset.trans (ih hbare) ?_⟩
    exact List.cons_subset_cons _ (List.subset_cons_self _ _)

end SyntaxBridge.Literal
