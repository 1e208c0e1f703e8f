/-!
# UTF-8

Writing text as bytes and reading it back. Reading stops at the first fault and says where the
broken sequence starts, how many of its bytes were good, and what was wrong with what came next.
A byte order mark is a character like any other.
-/

namespace SyntaxBridge.Text

/-- The bytes of a character. -/
def encodeChar (c : Char) : List UInt8 :=
  let n := c.toNat
  if n < 0x80 then [n.toUInt8]
  else if n < 0x800 then [(0xc0 + n / 0x40).toUInt8, (0x80 + n % 0x40).toUInt8]
  else if n < 0x10000 then
    [(0xe0 + n / 0x1000).toUInt8, (0x80 + n / 0x40 % 0x40).toUInt8, (0x80 + n % 0x40).toUInt8]
  else
    [(0xf0 + n / 0x40000).toUInt8, (0x80 + n / 0x1000 % 0x40).toUInt8,
      (0x80 + n / 0x40 % 0x40).toUInt8, (0x80 + n % 0x40).toUInt8]

/-- The bytes of a text. -/
def encode (cs : List Char) : List UInt8 :=
  cs.flatMap encodeChar

/-- What is wrong with a sequence of bytes. -/
inductive DecodeReason where
  /-- No character starts with this byte. -/
  | invalidStart
  /-- The next byte does not continue the character. -/
  | invalidContinuation
  /-- The bytes end in the middle of a character. -/
  | unexpectedEnd
  deriving DecidableEq, Repr

/-- The first fault of a sequence of bytes. -/
structure DecodeFault where
  /-- The position of the first byte of the broken character. -/
  start : Nat
  /-- The first byte of the broken character. -/
  first : UInt8
  /-- The number of its bytes that were good, at least one. -/
  length : Nat
  /-- What is wrong with it. -/
  reason : DecodeReason
  deriving DecidableEq, Repr

/-- A character of which some bytes have been read and at least one is missing. -/
structure PartialChar where
  /-- The position of the first byte. -/
  start : Nat
  /-- The first byte. -/
  first : UInt8
  /-- The number of bytes read. -/
  length : Nat
  /-- The bits read so far. -/
  bits : Nat
  /-- The number of bytes that are missing after the next one. -/
  later : Nat
  /-- The least value of the next byte. -/
  low : UInt8 := 0x80
  /-- The greatest value of the next byte. -/
  high : UInt8 := 0xbf
  deriving DecidableEq, Repr

/-- The character that a byte starts, if it starts one of several bytes. The range of the second
byte keeps out overlong forms, surrogates and numbers beyond the last code point. -/
def PartialChar.start? (pos : Nat) (b : UInt8) : Option PartialChar :=
  if 0xc2 ≤ b ∧ b ≤ 0xdf then some ⟨pos, b, 1, b.toNat - 0xc0, 0, 0x80, 0xbf⟩
  else if b = 0xe0 then some ⟨pos, b, 1, 0, 1, 0xa0, 0xbf⟩
  else if b = 0xed then some ⟨pos, b, 1, 0xd, 1, 0x80, 0x9f⟩
  else if 0xe1 ≤ b ∧ b ≤ 0xef then some ⟨pos, b, 1, b.toNat - 0xe0, 1, 0x80, 0xbf⟩
  else if b = 0xf0 then some ⟨pos, b, 1, 0, 2, 0x90, 0xbf⟩
  else if 0xf1 ≤ b ∧ b ≤ 0xf3 then some ⟨pos, b, 1, b.toNat - 0xf0, 2, 0x80, 0xbf⟩
  else if b = 0xf4 then some ⟨pos, b, 1, 4, 2, 0x80, 0x8f⟩
  else none

/-- The fault of a character that does not go on as it should. -/
def PartialChar.fault (p : PartialChar) (reason : DecodeReason) : DecodeFault :=
  ⟨p.start, p.first, p.length, reason⟩

/-- Read the bytes from a position on, in the middle of a character or not. -/
def decodeFrom (pos : Nat) : Option PartialChar → List UInt8 → Except DecodeFault (List Char)
  | none, [] => .ok []
  | some p, [] => .error (p.fault .unexpectedEnd)
  | none, b :: bytes =>
    if b < 0x80 then (Char.ofNat b.toNat :: ·) <$> decodeFrom (pos + 1) none bytes
    else
      match PartialChar.start? pos b with
      | some p => decodeFrom (pos + 1) (some p) bytes
      | none => .error ⟨pos, b, 1, .invalidStart⟩
  | some p, b :: bytes =>
    if p.low ≤ b ∧ b ≤ p.high then
      let bits := p.bits * 0x40 + (b.toNat - 0x80)
      match p.later with
      | 0 => (Char.ofNat bits :: ·) <$> decodeFrom (pos + 1) none bytes
      | later + 1 =>
        decodeFrom (pos + 1)
          (some ⟨p.start, p.first, p.length + 1, bits, later, 0x80, 0xbf⟩) bytes
    else .error (p.fault .invalidContinuation)

/-- Why a text cannot be encoded: the first characters in a row that have no bytes. -/
structure EncodeFault where
  /-- The position of the first of them. -/
  start : Nat
  /-- Their number, at least one. -/
  length : Nat
  /-- What the first of them is shown as. -/
  shown : String
  deriving DecidableEq, Repr

/-- The text that a sequence of bytes stands for. -/
def decode (bytes : List UInt8) : Except DecodeFault (List Char) :=
  decodeFrom 0 none bytes

/-- The wording of what is wrong. -/
def DecodeReason.message : DecodeReason → String
  | .invalidStart => "invalid start byte"
  | .invalidContinuation => "invalid continuation byte"
  | .unexpectedEnd => "unexpected end of data"

/-- The wording of a fault: a single byte is shown, of several only the positions. -/
def DecodeFault.message (f : DecodeFault) : String :=
  let place :=
    if f.length = 1 then
      "byte 0x" ++ String.ofList (Nat.toDigits 16 f.first.toNat) ++ " in position " ++
        toString f.start
    else
      "bytes in position " ++ toString f.start ++ "-" ++ toString (f.start + f.length - 1)
  "'utf-8' codec can't decode " ++ place ++ ": " ++ f.reason.message

/-- The wording of a fault: a single character is shown, of several only the positions. -/
def EncodeFault.message (f : EncodeFault) : String :=
  let place :=
    if f.length = 1 then "character '" ++ f.shown ++ "' in position " ++ toString f.start
    else "characters in position " ++ toString f.start ++ "-" ++ toString (f.start + f.length - 1)
  "'utf-8' codec can't encode " ++ place ++ ": surrogates not allowed"

end SyntaxBridge.Text
