import RackElevation.Text.Utf8
import RackElevation.Uri.Host

/-
  Percent encoding

  Letters and digits of ASCII and the characters `_ . - ~` stand for
  themselves; every other character is written as the bytes of its UTF-8 form,
  each a percent sign and two upper-case hexadecimal digits.

  What is proved:
    1. `isEncoded_encode` — nothing else occurs in an encoded text.
-/

namespace RackElevation.Percent

/-- Whether a byte stands for itself. -/
def isPlain (b : UInt8) : Bool :=
  (0x30 ≤ b && b ≤ 0x39) || (0x41 ≤ b && b ≤ 0x5A) || (0x61 ≤ b && b ≤ 0x7A) ||
    b == 0x5F || b == 0x2E || b == 0x2D || b == 0x7E

/-- The upper-case hexadecimal digit of a value below 16. -/
def hexChar (n : Nat) : Char := Char.ofNat (if n < 10 then 0x30 + n else 0x37 + n)

/-- A byte as it is written. -/
def encodeByte (b : UInt8) : List Char :=
  if isPlain b then [Char.ofNat b.toNat] else ['%', hexChar (b.toNat / 16), hexChar (b.toNat % 16)]

/-- A text as it is written. -/
def encode (s : List Char) : List Char := (Utf8.encode s).flatMap encodeByte

/-- A text as it is written where some more characters of ASCII stand for themselves. -/
def encodeKeeping (kept : List Char) (s : List Char) : List Char :=
  (Utf8.encode s).flatMap fun b =>
    if b < 0x80 && kept.contains (Char.ofNat b.toNat) then [Char.ofNat b.toNat] else encodeByte b

/-- The value of a hexadecimal digit given as a byte. -/
def hexValue? (b : UInt8) : Option UInt8 :=
  if 0x30 ≤ b && b ≤ 0x39 then some (b - 0x30)
  else if 0x41 ≤ b && b ≤ 0x46 then some (b - 0x37)
  else if 0x61 ≤ b && b ≤ 0x66 then some (b - 0x57)
  else none

/-- The bytes that written bytes stand for; a percent sign without two digits stands for itself. -/
def decode : List UInt8 → List UInt8
  | [] => []
  | [a] => [a]
  | [a, b] => [a, b]
  | a :: b :: c :: r =>
    if a = 0x25 then
      match hexValue? b, hexValue? c with
      | some h, some l => (h * 16 + l) :: decode r
      | _, _ => a :: decode (b :: c :: r)
    else a :: decode (b :: c :: r)

/-- Whether a character may occur in an encoded text. -/
def isEncoded (c : Char) : Bool :=
  c.isAlphanum || c == '_' || c == '.' || c == '-' || c == '~' || c == '%'

theorem isEncoded_encodeByte {b : UInt8} {c : Char} (h : c ∈ encodeByte b) : isEncoded c = true := by
  have hall : ((List.range 256).all fun n => (encodeByte (UInt8.ofNat n)).all isEncoded) = true := by
    decide +kernel
  have hb := List.all_eq_true.1 hall b.toNat (List.mem_range.2 b.toNat_lt)
  rw [UInt8.ofNat_toNat] at hb
  exact List.all_eq_true.1 hb c h

theorem isEncoded_encode {s : List Char} {c : Char} (h : c ∈ encode s) : isEncoded c = true := by
  simp only [encode, List.mem_flatMap] at h
  obtain ⟨b, _, hb⟩ := h
  exact isEncoded_encodeByte hb

end RackElevation.Percent
