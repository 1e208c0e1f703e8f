import SyntaxBridge.Text.Blank
import SyntaxBridge.Text.Identifier

/-!
# Characters of identifiers

What starts an identifier may also go on with it (`isIdentifierPart_of_isIdentifierStart`), and is no
decimal digit (`isDecimalDigit_eq_false_of_isIdentifierStart`). No character of an identifier is
white space (`isBlank_eq_false_of_isIdentifierPart`).
-/

namespace SyntaxBridge.Text

variable {c : Char}

/-- The code points of the white space characters. -/
def blankCodes : List Nat :=
  [0x9, 0xa, 0xb, 0xc, 0xd, 0x1c, 0x1d, 0x1e, 0x1f, 0x20, 0x85, 0xa0, 0x1680, 0x2000, 0x2001, 0x2002,
    0x2003, 0x2004, 0x2005, 0x2006, 0x2007, 0x2008, 0x2009, 0x200a, 0x2028, 0x2029, 0x202f, 0x205f,
    0x3000]

/-- White space is one of a few code points. -/
theorem toNat_mem_blankCodes (h : isBlank c = true) : c.toNat ∈ blankCodes := by
  simp only [isBlank, Bool.or_eq_true, Bool.and_eq_true, decide_eq_true_eq, beq_iff_eq] at h
  simp only [blankCodes, List.mem_cons, List.not_mem_nil, or_false]
  omega

/-- No character of an identifier is white space. -/
theorem isBlank_eq_false_of_isIdentifierPart (h : isIdentifierPart c = true) :
    isBlank c = false := by
  have hcodes : ∀ n ∈ blankCodes, isIdentifierPart (Char.ofNat n) = false := by decide +kernel
  rw [Bool.eq_false_iff]
  intro hblank
  have hnone := hcodes c.toNat (toNat_mem_blankCodes hblank)
  rw [Char.ofNat_toNat, h] at hnone
  cases hnone

/-- Letters and digits are ASCII. -/
theorem toNat_lt_of_isAlphanum (h : c.isAlphanum = true) : c.toNat < 128 := by
  -- A letter or digit lies in one of three ranges.
  change (decide (c.val ≥ 'A'.val ∧ c.val ≤ 'Z'.val) ||
    (decide (c.val ≥ 'a'.val) && decide (c.val ≤ 'z'.val)) ||
    (decide (c.val ≥ '0'.val) && decide (c.val ≤ '9'.val))) = true at h
  simp only [Bool.or_eq_true, Bool.and_eq_true, decide_eq_true_eq, ge_iff_le,
    UInt32.le_iff_toNat_le] at h
  change ((65 ≤ c.toNat ∧ c.toNat ≤ 90) ∨ (97 ≤ c.toNat ∧ c.toNat ≤ 122)) ∨
    (48 ≤ c.toNat ∧ c.toNat ≤ 57) at h
  omega

/-- The letters, the digits and the underscore are ASCII. -/
theorem toNat_lt_of_isAsciiWordChar (h : isAsciiWordChar c = true) : c.toNat < 128 := by
  rw [isAsciiWordChar, Bool.or_eq_true, beq_iff_eq] at h
  rcases h with h | rfl
  · exact toNat_lt_of_isAlphanum h
  · decide

/-- The ASCII characters of words are characters of identifiers. -/
theorem isIdentifierPart_of_isAsciiWordChar (h : isAsciiWordChar c = true) :
    isIdentifierPart c = true := by
  rw [isIdentifierPart, if_pos (toNat_lt_of_isAsciiWordChar h), h]

/-- None of them is white space. -/
theorem isBlank_eq_false_of_isAsciiWordChar (h : isAsciiWordChar c = true) : isBlank c = false :=
  isBlank_eq_false_of_isIdentifierPart (isIdentifierPart_of_isAsciiWordChar h)

/-- What starts an identifier may also go on with it. -/
theorem isIdentifierPart_of_isIdentifierStart (h : isIdentifierStart c = true) :
    isIdentifierPart c = true := by
  rw [isIdentifierPart]
  split
  next hascii =>
    rw [isIdentifierStart, if_pos hascii] at h
    rw [isAsciiWordChar, Char.isAlphanum, Bool.or_right_comm, h, Bool.true_or]
  next => rw [h, Bool.true_or, Bool.true_or]

/-- Beyond ASCII, what starts identifiers lies in the gaps between the rows of digits. -/
theorem lt_or_le_of_mem_digitZeros {range : Nat × Nat} {first : Nat}
    (hrange : range ∈ letterRanges ++ letterNumberRanges ++ formerLetterRanges)
    (hfirst : first ∈ digitZeros) : range.2 < first ∨ first + 10 ≤ range.1 := by
  have hgaps : ((letterRanges ++ letterNumberRanges ++ formerLetterRanges).all fun range =>
      digitZeros.all fun first => Nat.blt range.2 first || Nat.ble (first + 10) range.1) = true := by
    decide +kernel
  have hgap := List.all_eq_true.mp (List.all_eq_true.mp hgaps range hrange) first hfirst
  simpa [Nat.blt_eq, Nat.ble_eq] using hgap

/-- No decimal digit starts an identifier. -/
theorem isDecimalDigit_eq_false_of_isIdentifierStart (h : isIdentifierStart c = true) :
    isDecimalDigit c = false := by
  rw [isIdentifierStart] at h
  rw [isDecimalDigit]
  split at h
  next hascii =>
    have hcodes : ∀ n < 128, ((Char.ofNat n).isAlpha || Char.ofNat n == '_') = true →
        (Char.ofNat n).isDigit = false := by decide +kernel
    rw [if_pos hascii, ← Char.ofNat_toNat c]
    exact hcodes c.toNat hascii (by rwa [Char.ofNat_toNat])
  next hascii =>
    have hstart : inRanges (letterRanges ++ letterNumberRanges ++ formerLetterRanges) c.toNat =
        true := by
      rw [isLetter, if_neg hascii, Bool.and_eq_true] at h
      rw [inRanges, List.any_append, List.any_append]
      exact h.1
    obtain ⟨range, hrange, hbounds⟩ := List.any_eq_true.mp hstart
    rw [if_neg hascii, List.any_eq_false]
    intro first hfirst hrow
    simp only [Bool.and_eq_true, decide_eq_true_eq] at hbounds hrow
    have hgap := lt_or_le_of_mem_digitZeros hrange hfirst
    omega

/-- An identifier holds no other characters. -/
theorem isIdentifierPart_of_isIdentifier {cs : List Char} (h : isIdentifier cs = true) :
    ∀ c ∈ cs, isIdentifierPart c = true := by
  cases cs with
  | nil => cases h
  | cons c cs =>
    obtain ⟨hstart, hparts⟩ := Bool.and_eq_true_iff.mp h
    exact List.forall_mem_cons.mpr
      ⟨isIdentifierPart_of_isIdentifierStart hstart, List.all_eq_true.mp hparts⟩

end SyntaxBridge.Text
