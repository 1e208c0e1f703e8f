import Mathlib.Logic.Basic
import SyntaxBridge.Text.Utf8

/-!
# Text that is written as bytes is read back

The bytes of a character are read as that character, whatever stands before and after them
(`decodeFrom_encodeChar`), so the bytes of a text are read as that text (`decode_encode`). The proof
has a case for each number of bytes: the first byte decides how the others are read, and the numbers
that they carry make up that of the character.
-/

namespace SyntaxBridge.Text

/-- A number below 256 is that of its byte. -/
private theorem toNat_toUInt8 {n : Nat} (h : n < 0x100) : n.toUInt8.toNat = n :=
  UInt8.toNat_ofNat_of_lt' h

variable {pos n : Nat} {bytes : List UInt8}

/-- The byte that continues a character with the last six bits of a number. -/
private abbrev continuation (m : Nat) : UInt8 :=
  (0x80 + m % 0x40).toUInt8

private theorem toNat_continuation (m : Nat) : (continuation m).toNat = 0x80 + m % 0x40 :=
  toNat_toUInt8 (by omega)

/-- A continuation lies in a range of bytes if its number lies in that of theirs. -/
private theorem continuation_mem {m : Nat} {low high : UInt8}
    (h : low.toNat ≤ 0x80 + m % 0x40 ∧ 0x80 + m % 0x40 ≤ high.toNat) :
    low ≤ continuation m ∧ continuation m ≤ high := by
  rwa [UInt8.le_iff_toNat_le, UInt8.le_iff_toNat_le, toNat_continuation]

/-- The widest range allows for every continuation. -/
private theorem continuation_mem_widest (m : Nat) :
    0x80 ≤ continuation m ∧ continuation m ≤ 0xbf :=
  continuation_mem ⟨Nat.le_add_right _ _, by simp; omega⟩

/-- The last byte of a character ends it. -/
private theorem decodeFrom_last {p : PartialChar} {m : Nat} (hlater : p.later = 0)
    (hmem : p.low ≤ continuation m ∧ continuation m ≤ p.high) :
    decodeFrom pos (some p) (continuation m :: bytes) =
      (Char.ofNat (p.bits * 0x40 + m % 0x40) :: ·) <$> decodeFrom (pos + 1) none bytes := by
  rw [decodeFrom, if_pos hmem, hlater, toNat_continuation, Nat.add_sub_cancel_left]

/-- Any other byte of a character adds six bits. -/
private theorem decodeFrom_next {p : PartialChar} {m later : Nat} (hlater : p.later = later + 1)
    (hmem : p.low ≤ continuation m ∧ continuation m ≤ p.high) :
    decodeFrom pos (some p) (continuation m :: bytes) =
      decodeFrom (pos + 1)
        (some ⟨p.start, p.first, p.length + 1, p.bits * 0x40 + m % 0x40, later, 0x80, 0xbf⟩)
        bytes := by
  rw [decodeFrom, if_pos hmem, hlater, toNat_continuation, Nat.add_sub_cancel_left]

/-- The first byte of several, by its number. -/
private theorem start?_eq (pos : Nat) (b : UInt8) :
    PartialChar.start? pos b =
      if 0xc2 ≤ b.toNat ∧ b.toNat ≤ 0xdf then some ⟨pos, b, 1, b.toNat - 0xc0, 0, 0x80, 0xbf⟩
      else if b.toNat = 0xe0 then some ⟨pos, b, 1, 0, 1, 0xa0, 0xbf⟩
      else if b.toNat = 0xed then some ⟨pos, b, 1, 0xd, 1, 0x80, 0x9f⟩
      else if 0xe1 ≤ b.toNat ∧ b.toNat ≤ 0xef then
        some ⟨pos, b, 1, b.toNat - 0xe0, 1, 0x80, 0xbf⟩
      else if b.toNat = 0xf0 then some ⟨pos, b, 1, 0, 2, 0x90, 0xbf⟩
      else if 0xf1 ≤ b.toNat ∧ b.toNat ≤ 0xf3 then
        some ⟨pos, b, 1, b.toNat - 0xf0, 2, 0x80, 0xbf⟩
      else if b.toNat = 0xf4 then some ⟨pos, b, 1, 4, 2, 0x80, 0x8f⟩
      else none := by
  simp [PartialChar.start?, UInt8.le_iff_toNat_le, ← UInt8.toNat_inj]

/-- The first byte of a character says how many follow, carries the first bits, and allows for the
second byte. -/
private structure Starts (pos : Nat) (b : UInt8) (bits later second : Nat) (p : PartialChar) :
    Prop where
  notAscii : ¬ b < 0x80
  start?_eq : PartialChar.start? pos b = some p
  bits_eq : p.bits = bits
  later_eq : p.later = later
  second_mem : p.low ≤ continuation second ∧ continuation second ≤ p.high

/-- A byte that starts several is none of a single one. -/
private theorem not_lt_ascii {m : Nat} (hlow : 0x80 ≤ m) (hhigh : m < 0x100) :
    ¬ m.toUInt8 < 0x80 := by
  rw [UInt8.lt_iff_toNat_lt, toNat_toUInt8 hhigh]
  exact Nat.not_lt.mpr hlow

private theorem exists_starts_two (pos : Nat) (hlow : 0x80 ≤ n) (hhigh : n < 0x800) :
    ∃ p, Starts pos (0xc0 + n / 0x40).toUInt8 (n / 0x40) 0 n p := by
  have hbyte : (0xc0 + n / 0x40).toUInt8.toNat = 0xc0 + n / 0x40 := toNat_toUInt8 (by omega)
  have hstart := start?_eq pos (0xc0 + n / 0x40).toUInt8
  rw [hbyte, if_pos (by omega)] at hstart
  exact ⟨_, not_lt_ascii (by omega) (by omega), hstart, Nat.add_sub_cancel_left _ _, rfl,
    continuation_mem_widest n⟩

private theorem exists_starts_three (pos : Nat) (hlow : 0x800 ≤ n) (hhigh : n < 0x10000)
    (hsurrogate : n < 0xd800 ∨ 0xdfff < n) :
    ∃ p, Starts pos (0xe0 + n / 0x1000).toUInt8 (n / 0x1000) 1 (n / 0x40) p := by
  have hbyte : (0xe0 + n / 0x1000).toUInt8.toNat = 0xe0 + n / 0x1000 := toNat_toUInt8 (by omega)
  have hascii : ¬ (0xe0 + n / 0x1000).toUInt8 < 0x80 := not_lt_ascii (by omega) (by omega)
  have hstart := start?_eq pos (0xe0 + n / 0x1000).toUInt8
  rw [hbyte, if_neg (by omega)] at hstart
  -- Two of the first bytes narrow the second one, against overlong forms and surrogates.
  by_cases hoverlong : n / 0x1000 = 0
  · rw [if_pos (by omega)] at hstart
    exact ⟨_, hascii, hstart, hoverlong.symm, rfl, continuation_mem (by simp; omega)⟩
  rw [if_neg (by omega)] at hstart
  by_cases hhalf : n / 0x1000 = 0xd
  · rw [if_pos (by omega)] at hstart
    exact ⟨_, hascii, hstart, hhalf.symm, rfl, continuation_mem (by simp; omega)⟩
  rw [if_neg (by omega), if_pos (by omega)] at hstart
  exact ⟨_, hascii, hstart, Nat.add_sub_cancel_left _ _, rfl, continuation_mem_widest _⟩

private theorem exists_starts_four (pos : Nat) (hlow : 0x10000 ≤ n) (hhigh : n < 0x110000) :
    ∃ p, Starts pos (0xf0 + n / 0x40000).toUInt8 (n / 0x40000) 2 (n / 0x1000) p := by
  have hbyte : (0xf0 + n / 0x40000).toUInt8.toNat = 0xf0 + n / 0x40000 := toNat_toUInt8 (by omega)
  have hascii : ¬ (0xf0 + n / 0x40000).toUInt8 < 0x80 := not_lt_ascii (by omega) (by omega)
  have hstart := start?_eq pos (0xf0 + n / 0x40000).toUInt8
  rw [hbyte, if_neg (by omega), if_neg (by omega), if_neg (by omega), if_neg (by omega)] at hstart
  -- Two of the first bytes narrow the second one, against overlong forms and too great numbers.
  by_cases hoverlong : n / 0x40000 = 0
  · rw [if_pos (by omega)] at hstart
    exact ⟨_, hascii, hstart, hoverlong.symm, rfl, continuation_mem (by simp; omega)⟩
  rw [if_neg (by omega)] at hstart
  by_cases hgreatest : n / 0x40000 = 4
  · rw [if_neg (by omega), if_pos (by omega)] at hstart
    exact ⟨_, hascii, hstart, hgreatest.symm, rfl, continuation_mem (by simp; omega)⟩
  rw [if_pos (by omega)] at hstart
  exact ⟨_, hascii, hstart, Nat.add_sub_cancel_left _ _, rfl, continuation_mem_widest _⟩

/-- A first byte of several is followed by the bytes of its character. -/
private theorem decodeFrom_starts {b : UInt8} {bits later second : Nat} {p : PartialChar}
    (h : Starts pos b bits later second p) :
    decodeFrom pos none (b :: bytes) = decodeFrom (pos + 1) (some p) bytes := by
  rw [decodeFrom, if_neg h.notAscii, h.start?_eq]

/-- The bytes of a character are read as that character. -/
theorem decodeFrom_encodeChar (c : Char) :
    decodeFrom pos none (encodeChar c ++ bytes) =
      (c :: ·) <$> decodeFrom (pos + (encodeChar c).length) none bytes := by
  have hvalid : c.toNat < 0xd800 ∨ 0xdfff < c.toNat ∧ c.toNat < 0x110000 := c.valid
  have hread {m : Nat} (h : m = c.toNat) : Char.ofNat m = c := h ▸ Char.ofNat_toNat c
  unfold encodeChar
  generalize c.toNat = n at hvalid hread
  dsimp only
  by_cases hone : n < 0x80
  · have hbyte : n.toUInt8.toNat = n := toNat_toUInt8 (by omega)
    have hascii : n.toUInt8 < 0x80 := by simpa [UInt8.lt_iff_toNat_lt, hbyte] using hone
    rw [if_pos hone, List.singleton_append, decodeFrom, if_pos hascii, hbyte, hread rfl]
    rfl
  by_cases htwo : n < 0x800
  · obtain ⟨p, hp⟩ := exists_starts_two pos (Nat.le_of_not_lt hone) htwo
    rw [if_neg hone, if_pos htwo, List.cons_append, List.singleton_append, decodeFrom_starts hp,
      decodeFrom_last hp.later_eq hp.second_mem, hp.bits_eq, hread (by omega)]
    rfl
  by_cases hthree : n < 0x10000
  · obtain ⟨p, hp⟩ := exists_starts_three pos (Nat.le_of_not_lt htwo) hthree (by omega)
    have hbits : (n / 0x1000 * 0x40 + n / 0x40 % 0x40) * 0x40 + n % 0x40 = n := by omega
    rw [if_neg hone, if_neg htwo, if_pos hthree, List.cons_append, List.cons_append,
      List.singleton_append, decodeFrom_starts hp, decodeFrom_next hp.later_eq hp.second_mem,
      decodeFrom_last rfl (continuation_mem_widest n), hp.bits_eq, hread hbits]
    rfl
  · obtain ⟨p, hp⟩ := exists_starts_four pos (Nat.le_of_not_lt hthree) (by omega)
    have hbits : ((n / 0x40000 * 0x40 + n / 0x1000 % 0x40) * 0x40 + n / 0x40 % 0x40) * 0x40 +
        n % 0x40 = n := by omega
    rw [if_neg hone, if_neg htwo, if_neg hthree, List.cons_append, List.cons_append,
      List.cons_append, List.singleton_append, decodeFrom_starts hp,
      decodeFrom_next hp.later_eq hp.second_mem, decodeFrom_next rfl (continuation_mem_widest _),
      decodeFrom_last rfl (continuation_mem_widest n), hp.bits_eq, hread hbits]
    rfl

/-- The bytes of a text are read as that text. -/
theorem decode_encode (cs : List Char) : decode (encode cs) = .ok cs := by
  have hfrom (pos : Nat) : decodeFrom pos none (encode cs) = .ok cs := by
    induction cs generalizing pos with
    | nil => rfl
    | cons c cs ih =>
      rw [encode, List.flatMap_cons, decodeFrom_encodeChar]
      exact congrArg _ (ih _)
  exact hfrom 0

end SyntaxBridge.Text
