import SyntaxBridge.Proofs.Grammar.Category
import SyntaxBridge.Proofs.Text.Identifier

/-!
# Names that are identifiers

An identifier consists of letters, digits and underscores within ASCII and does not start with a
digit. It names no list category, and no white space or mark stands in it.
-/

namespace SyntaxBridge

/-- A name of letters, digits and underscores within ASCII that does not start with a digit. -/
def IsAsciiIdentifier (name : String) : Prop :=
  ∃ c cs, name.toList = c :: cs ∧ (c.isAlpha || c == '_') = true ∧
    (cs.all fun d => d.isAlphanum || d == '_') = true

theorem isAsciiIdentifier_iff_of_toList_eq_cons {name : String} {c : Char} {cs : List Char}
    (h : name.toList = c :: cs) :
    IsAsciiIdentifier name ↔
      (c.isAlpha || c == '_') = true ∧ (cs.all fun d => d.isAlphanum || d == '_') = true := by
  constructor
  · rintro ⟨b, bs, hname, hb, hbs⟩
    cases h.symm.trans hname
    exact ⟨hb, hbs⟩
  · exact fun ⟨hc, hcs⟩ => ⟨c, cs, h, hc, hcs⟩

instance (name : String) : Decidable (IsAsciiIdentifier name) :=
  match h : name.toList with
  | [] => .isFalse fun ⟨_, _, hname, _⟩ => List.cons_ne_nil _ _ (hname.symm.trans h)
  | _ :: _ => decidable_of_iff _ (isAsciiIdentifier_iff_of_toList_eq_cons h).symm

/-- An identifier consists of characters of words. -/
theorem IsAsciiIdentifier.isAsciiWordChar {name : String} (h : IsAsciiIdentifier name) :
    ∀ c ∈ name.toList, Text.isAsciiWordChar c = true := by
  obtain ⟨c, cs, hname, hc, hcs⟩ := h
  rw [hname]
  refine List.forall_mem_cons.mpr ⟨?_, List.all_eq_true.mp hcs⟩
  rw [Text.isAsciiWordChar, Char.isAlphanum, Bool.or_right_comm, hc, Bool.true_or]

/-- The characters of an identifier are within ASCII. -/
theorem IsAsciiIdentifier.ascii {name : String} (h : IsAsciiIdentifier name) :
    ∀ c ∈ name.toList, c.toNat < 128 :=
  fun c hc => Text.toNat_lt_of_isAsciiWordChar (h.isAsciiWordChar c hc)

/-- An identifier holds no other characters. -/
theorem IsAsciiIdentifier.notMem {name : String} (h : IsAsciiIdentifier name) {mark : Char}
    (hmark : (mark.isAlphanum || mark == '_') = false) : mark ∉ name.toList := by
  intro hmem
  have hword := h.isAsciiWordChar mark hmem
  rw [Text.isAsciiWordChar, hmark] at hword
  cases hword

/-- An identifier is not the name of a list category. -/
theorem IsAsciiIdentifier.element?_eq_none {name : String} (h : IsAsciiIdentifier name) :
    Category.element? name = none :=
  Category.element?_eq_none_of_notMem (h.notMem (by decide))

theorem IsAsciiIdentifier.isList_eq_false {name : String} (h : IsAsciiIdentifier name) :
    Category.isList name = false := by
  rw [Category.isList, h.element?_eq_none, Option.isSome_none]

theorem IsAsciiIdentifier.ne_empty {name : String} (h : IsAsciiIdentifier name) : name ≠ "" := by
  rintro rfl
  obtain ⟨c, cs, hname, _⟩ := h
  cases hname

/-- Two identifiers in a row are an identifier. -/
theorem IsAsciiIdentifier.append {front name : String} (hfront : IsAsciiIdentifier front)
    (h : IsAsciiIdentifier name) : IsAsciiIdentifier (front ++ name) := by
  obtain ⟨b, bs, hb, hstart, hbs⟩ := hfront
  obtain ⟨c, cs, hname, hc, hcs⟩ := h
  refine ⟨b, bs ++ c :: cs, ?_, hstart, ?_⟩
  · rw [String.toList_append, hb, hname, List.cons_append]
  · have hfirst : (c.isAlphanum || c == '_') = true := by
      rw [Bool.or_eq_true] at hc ⊢
      exact hc.imp_left fun halpha => by rw [Char.isAlphanum, halpha, Bool.true_or]
    rw [List.all_append, hbs, List.all_cons, hfirst, hcs]
    rfl

/-- The type of the lists of a category is named by an identifier if the category is. -/
theorem IsAsciiIdentifier.list {name : String} (h : IsAsciiIdentifier name) :
    IsAsciiIdentifier ("List" ++ name) :=
  .append (by decide) h

/-- White space is no part of an identifier. -/
theorem IsAsciiIdentifier.isBlank_eq_false {name : String} (h : IsAsciiIdentifier name) :
    ∀ c ∈ name.toList, Text.isBlank c = false :=
  fun c hc => Text.isBlank_eq_false_of_isAsciiWordChar (h.isAsciiWordChar c hc)

end SyntaxBridge
