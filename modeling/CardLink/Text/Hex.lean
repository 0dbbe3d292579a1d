/-!
# Bytes as hexadecimal text

Two digits a byte, most significant first. Writing uses lowercase digits; reading takes both
cases, and refuses a text of odd length before it looks at any digit, then the first byte that is
no digit. Main statement: `decode_encode`, what is written reads back.
-/

namespace CardLink.Text.Hex

/-- Why a text is not a row of bytes. -/
inductive Fault where
  /-- the length in bytes is odd -/
  | oddLength
  /-- the byte at this position is no digit; it is kept as the character of that code -/
  | badDigit (found : Char) (position : Nat)
deriving DecidableEq, Repr

/-- The digit for a number below sixteen. -/
def digit (n : Nat) : Char := Nat.digitChar n

/-- The value of a digit, given as a byte. -/
def value? (b : UInt8) : Option Nat :=
  let n := b.toNat
  if 48 ≤ n ∧ n ≤ 57 then some (n - 48)
  else if 97 ≤ n ∧ n ≤ 102 then some (n - 87)
  else if 65 ≤ n ∧ n ≤ 70 then some (n - 55)
  else none

/-- The two digits of a byte. -/
def byteDigits (b : UInt8) : List Char := [digit (b.toNat / 16), digit (b.toNat % 16)]

def encodeChars (bytes : List UInt8) : List Char := bytes.flatMap byteDigits

def encode (bytes : List UInt8) : String := String.ofList (encodeChars bytes)

/-- Reads digit pairs, the first of them standing at `position`. A digit without a partner does
not occur, since odd lengths are refused before. -/
def decodePairs (position : Nat) : List UInt8 → Except Fault (List UInt8)
  | hi :: lo :: rest =>
    match value? hi, value? lo with
    | none, _ => .error (.badDigit (Char.ofNat hi.toNat) position)
    | some _, none => .error (.badDigit (Char.ofNat lo.toNat) (position + 1))
    | some h, some l =>
      match decodePairs (position + 2) rest with
      | .error e => .error e
      | .ok bytes => .ok (UInt8.ofNat (16 * h + l) :: bytes)
  | _ => .ok []

/-- The bytes of a character in UTF-8. -/
def utf8 (s : String) : List UInt8 := s.toList.flatMap String.utf8EncodeChar

def decode (s : String) : Except Fault (List UInt8) :=
  let bytes := utf8 s
  if bytes.length % 2 = 1 then .error .oddLength else decodePairs 0 bytes

/-! ## What is written reads back -/

theorem utf8_digit : ∀ n : Fin 16, String.utf8EncodeChar (digit n) = [UInt8.ofNat (digit n).toNat] ∧
    value? (UInt8.ofNat (digit n).toNat) = some n.val := by decide

theorem utf8_encode_cons (b : UInt8) (bytes : List UInt8) :
    utf8 (encode (b :: bytes)) =
      UInt8.ofNat (digit (b.toNat / 16)).toNat :: UInt8.ofNat (digit (b.toNat % 16)).toNat ::
        utf8 (encode bytes) := by
  have hb := b.toNat_lt
  have hi := (utf8_digit ⟨b.toNat / 16, by omega⟩).1
  have lo := (utf8_digit ⟨b.toNat % 16, by omega⟩).1
  simp only at hi lo
  simp [utf8, encode, encodeChars, byteDigits, hi, lo]

theorem length_utf8_encode (bytes : List UInt8) : (utf8 (encode bytes)).length = 2 * bytes.length := by
  induction bytes with
  | nil => decide
  | cons b bytes ih => rw [utf8_encode_cons]; simp [ih]; omega

theorem decodePairs_encode (bytes : List UInt8) (position : Nat) :
    decodePairs position (utf8 (encode bytes)) = .ok bytes := by
  induction bytes generalizing position with
  | nil => rfl
  | cons b bytes ih =>
    have hb := b.toNat_lt
    have hi := (utf8_digit ⟨b.toNat / 16, by omega⟩).2
    have lo := (utf8_digit ⟨b.toNat % 16, by omega⟩).2
    simp only at hi lo
    have hsum : 16 * (b.toNat / 16) + b.toNat % 16 = b.toNat := Nat.div_add_mod ..
    simp [utf8_encode_cons, decodePairs, hi, lo, ih, hsum]

/-- What is written reads back. -/
theorem decode_encode (bytes : List UInt8) : decode (encode bytes) = .ok bytes := by
  simp [decode, length_utf8_encode, decodePairs_encode]

example : encode [0x0a, 0xff] = "0aff" := by decide

end CardLink.Text.Hex
