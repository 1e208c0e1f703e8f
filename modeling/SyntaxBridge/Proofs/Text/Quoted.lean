import Mathlib.Data.List.Basic
import Mathlib.Data.Nat.Digits.Defs
import SyntaxBridge.Text.Quoted

/-!
# Reading back quoted text

A quoted text is unambiguous. Each character is shown in a way that can be told from what follows
it, and the closing quote is found as the first thing that shows no character. So a quoted text at
the start of a longer one determines both the text that was quoted and what comes after it.

## Main results

* `readChar_escapeChar`: a character inside quotes can be read back.
* `quote_append_inj`: what starts with a quoted text starts with that of one text only.
-/

namespace SyntaxBridge.Text

/-! ## Hexadecimal digits -/

/-- The number that a hexadecimal digit stands for. -/
def hexValue (c : Char) : Nat :=
  if c.isDigit then c.toNat - '0'.toNat else c.toNat - 'a'.toNat + 10

/-- The number that is written by hexadecimal digits, the most significant first. -/
def readHex (digits : List Char) : Nat :=
  digits.foldl (fun number c => 16 * number + hexValue c) 0

theorem readHex_append_singleton (digits : List Char) (c : Char) :
    readHex (digits ++ [c]) = 16 * readHex digits + hexValue c := by
  simp [readHex]

theorem hexValue_digitChar : ∀ d < 16, hexValue d.digitChar = d := by
  decide

/-- The digits of a number stand for it. -/
theorem readHex_toDigits (n : Nat) : readHex (Nat.toDigits 16 n) = n := by
  induction n using Nat.strongRecOn with
  | _ n ih =>
    rcases Nat.lt_or_ge n 16 with small | large
    · rw [Nat.toDigits_of_lt_base small]
      simpa [readHex] using hexValue_digitChar n small
    · have positive : 0 < n / 16 := Nat.div_pos large (by decide)
      have digit : n % 16 < 16 := Nat.mod_lt n (by decide)
      have split : Nat.toDigits 16 n = Nat.toDigits 16 (n / 16) ++ [(n % 16).digitChar] := by
        conv_lhs => rw [← Nat.div_add_mod n 16]
        rw [← Nat.toDigits_append_toDigits (by decide) positive digit,
          Nat.toDigits_of_lt_base digit]
      rw [split, readHex_append_singleton, ih _ (Nat.div_lt_self (by omega) (by decide)),
        hexValue_digitChar _ digit, Nat.div_add_mod]

/-- Zeros before the digits do not matter. -/
theorem readHex_hexDigits (width n : Nat) : readHex (hexDigits width n) = n := by
  have zeros (k : Nat) : readHex (List.replicate k '0') = 0 := by
    induction k with
    | zero => rfl
    | succ k ih => rw [List.replicate_succ', readHex_append_singleton, ih]; rfl
  unfold hexDigits
  rw [readHex, List.foldl_append]
  exact (congrArg (fun start => (Nat.toDigits 16 n).foldl _ start) (zeros _)).trans
    (readHex_toDigits n)

/-- A number that is not too large is written by as many digits as asked for. -/
theorem length_hexDigits {width n : Nat} (hwidth : 0 < width) (h : n < 16 ^ width) :
    (hexDigits width n).length = width := by
  have := (Nat.length_toDigits_le_iff (b := 16) (by decide) hwidth).mpr h
  simp only [hexDigits, List.length_append, List.length_replicate]
  omega

/-! ## Characters inside quotes -/

/-- Read the character that is shown at the start of what stands between quotes. -/
def readChar : List Char → Option (Char × List Char)
  | '\\' :: mark :: cs =>
    match mark with
    | 'n' => some ('\n', cs)
    | 'r' => some ('\r', cs)
    | 't' => some ('\t', cs)
    | 'x' => some (Char.ofNat (readHex (cs.take 2)), cs.drop 2)
    | 'u' => some (Char.ofNat (readHex (cs.take 4)), cs.drop 4)
    | 'U' => some (Char.ofNat (readHex (cs.take 8)), cs.drop 8)
    | c => some (c, cs)
  | c :: cs => some (c, cs)
  | [] => none

/-- Texts are shown between quotes of one of two kinds. -/
def IsQuote (c : Char) : Prop :=
  c = '\'' ∨ c = '"'

theorem isQuote_quoteFor (cs : List Char) : IsQuote (quoteFor cs) := by
  unfold quoteFor IsQuote
  split <;> simp

variable {q : Char}

/-- The code of a character, in as many digits as its mark asks for, is read back as the
character. -/
theorem ofNat_readHex_hexDigits (width : Nat) (hwidth : 0 < width) {c : Char}
    (h : c.toNat < 16 ^ width) (rest : List Char) :
    Char.ofNat (readHex ((hexDigits width c.toNat ++ rest).take width)) = c ∧
      (hexDigits width c.toNat ++ rest).drop width = rest := by
  have length := length_hexDigits hwidth h
  rw [List.take_left' length, List.drop_left' length, readHex_hexDigits]
  exact ⟨Char.ofNat_toNat c, rfl⟩

/-- What a character is shown as can be told from what follows it. -/
theorem readChar_escapeChar (hq : IsQuote q) (c : Char) (rest : List Char) :
    readChar (escapeChar q c ++ rest) = some (c, rest) := by
  unfold escapeChar
  split_ifs with special newline return_ tab printable byte word
  · rcases special with rfl | rfl
    · rcases hq with rfl | rfl <;> rfl
    · rfl
  · subst newline; rfl
  · subst return_; rfl
  · subst tab; rfl
  · have hne : c ≠ '\\' := fun h => special (Or.inr h)
    simp [readChar, hne]
  · obtain ⟨read, left⟩ := ofNat_readHex_hexDigits 2 (by decide) byte rest
    simp only [List.cons_append, readChar, read, left]
  · obtain ⟨read, left⟩ := ofNat_readHex_hexDigits 4 (by decide) word rest
    simp only [List.cons_append, readChar, read, left]
  · have bound : c.toNat < 16 ^ 8 := c.val.toNat_lt
    obtain ⟨read, left⟩ := ofNat_readHex_hexDigits 8 (by decide) bound rest
    simp only [List.cons_append, readChar, read, left]

/-- No character is shown as something that starts with the quote. -/
theorem escapeChar_append_ne (hq : IsQuote q) (c : Char) (rest after : List Char) :
    escapeChar q c ++ rest ≠ q :: after := by
  intro h
  -- Only the quote itself could be read off both sides, and it is escaped.
  have read := congrArg readChar h
  have closing : readChar (q :: after) = some (q, after) := by rcases hq with rfl | rfl <;> rfl
  rw [readChar_escapeChar hq, closing, Option.some.injEq, Prod.mk.injEq] at read
  obtain ⟨rfl, rfl⟩ := read
  rcases hq with rfl | rfl <;> simp [escapeChar] at h

/-! ## Texts between quotes -/

/-- What stands between quotes ends at the first thing that shows no character. -/
theorem flatMap_escapeChar_append_inj (hq : IsQuote q) {a b s t : List Char}
    (h : a.flatMap (escapeChar q) ++ q :: s = b.flatMap (escapeChar q) ++ q :: t) :
    a = b ∧ s = t := by
  induction a generalizing b with
  | nil =>
    cases b with
    | nil => simpa using h
    | cons d b =>
      rw [List.flatMap_cons, List.append_assoc] at h
      exact absurd h.symm (escapeChar_append_ne hq d _ _)
  | cons c a ih =>
    cases b with
    | nil =>
      rw [List.flatMap_cons, List.append_assoc] at h
      exact absurd h (escapeChar_append_ne hq c _ _)
    | cons d b =>
      rw [List.flatMap_cons, List.flatMap_cons, List.append_assoc, List.append_assoc] at h
      -- Both sides are read as a first character and what is left after it.
      have first := congrArg readChar h
      rw [readChar_escapeChar hq, readChar_escapeChar hq, Option.some.injEq, Prod.mk.injEq] at first
      obtain ⟨rfl, rest⟩ := first
      obtain ⟨rfl, rfl⟩ := ih rest
      exact ⟨rfl, rfl⟩

/-- What starts with a quoted text starts with that of one text only. -/
theorem quote_append_inj {a b s t : List Char} (h : quote a ++ s = quote b ++ t) :
    a = b ∧ s = t := by
  simp only [quote, List.cons_append, List.append_assoc, List.cons.injEq] at h
  obtain ⟨sameQuote, body⟩ := h
  rw [sameQuote] at body
  exact flatMap_escapeChar_append_inj (isQuote_quoteFor b) body

/-- A quoted text starts with a quote. -/
theorem exists_quote_eq (cs : List Char) : ∃ q rest, IsQuote q ∧ quote cs = q :: rest :=
  ⟨quoteFor cs, _, isQuote_quoteFor cs, rfl⟩

end SyntaxBridge.Text
