import RackElevation.Proofs.Text.Utf8
import RackElevation.Uri.Percent

/-
  Reading percent-encoded text back

  An encoded text is made of characters that stand for themselves and of escapes,
  each for one byte. A percent sign of the text itself is escaped like any other
  character, so every escape that is read is one that was written: the bytes of
  the text come back, and with them the text.

  What is proved:
    1. `encoded_encode` — how an encoded text is made up.
    2. `decode_encode`, `decodeText_encode` — the bytes and the text that it
       stands for.
    3. `encode_inj` — no two texts are encoded alike.
-/

namespace RackElevation.Percent

/-- Whether a character stands for itself in an encoded text. -/
def isUnreserved (c : Char) : Bool :=
  c.isAlphanum || c == '_' || c == '.' || c == '-' || c == '~'

/-- Whether a character is an upper-case hexadecimal digit. -/
def isUpperHex (c : Char) : Bool := c.isDigit || ('A' ≤ c && c ≤ 'F')

/-- Text made of characters that stand for themselves and of escapes, a percent sign with two
upper-case hexadecimal digits each. -/
inductive Encoded : List Char → Prop
  | nil : Encoded []
  | plain {c : Char} {r : List Char} (hc : isUnreserved c = true) (hr : Encoded r) :
      Encoded (c :: r)
  | escape {h l : Char} {r : List Char} (hh : isUpperHex h = true) (hl : isUpperHex l = true)
      (hr : Encoded r) : Encoded ('%' :: h :: l :: r)

/-- The text that an encoded text stands for. -/
def decodeText (s : List Char) : Except Utf8.Fault (List Char) :=
  Utf8.decode (decode (Utf8.encode s))

/-! ## One byte -/

/-- What holds of the byte of each number holds of each byte. -/
theorem forall_byte {P : UInt8 → Prop} (h : ∀ n < 256, P (UInt8.ofNat n)) (b : UInt8) : P b := by
  have hb := h b.toNat b.toNat_lt
  rwa [UInt8.ofNat_toNat] at hb

theorem plain_byte {b : UInt8} (h : isPlain b = true) :
    isUnreserved (Char.ofNat b.toNat) = true ∧ Utf8.encode [Char.ofNat b.toNat] = [b] ∧
      b ≠ 0x25 := by
  have hall : ∀ b : UInt8, isPlain b = true → isUnreserved (Char.ofNat b.toNat) = true ∧
      Utf8.encode [Char.ofNat b.toNat] = [b] ∧ b ≠ 0x25 := forall_byte (by decide +kernel)
  exact hall b h

theorem hex_digit {n : Nat} (hn : n < 16) : isUpperHex (hexChar n) = true ∧
    ∃ b, Utf8.encode [hexChar n] = [b] ∧ hexValue? b = some (UInt8.ofNat n) := by
  have hall : ∀ n < 16, isUpperHex (hexChar n) = true ∧
      Utf8.encode [hexChar n] = [UInt8.ofNat (hexChar n).toNat] ∧
        hexValue? (UInt8.ofNat (hexChar n).toNat) = some (UInt8.ofNat n) := by decide +kernel
  obtain ⟨hupper, hbytes, hvalue⟩ := hall n hn
  exact ⟨hupper, _, hbytes, hvalue⟩

theorem byte_of_digits (b : UInt8) :
    UInt8.ofNat (b.toNat / 16) * 16 + UInt8.ofNat (b.toNat % 16) = b :=
  forall_byte (P := fun b => UInt8.ofNat (b.toNat / 16) * 16 + UInt8.ofNat (b.toNat % 16) = b)
    (by decide +kernel) b

theorem encoded_encodeByte (b : UInt8) {r : List Char} (hr : Encoded r) :
    Encoded (encodeByte b ++ r) := by
  have hb := b.toNat_lt
  rw [encodeByte]
  split
  · next hplain => exact .plain (plain_byte hplain).1 hr
  · exact .escape (hex_digit (by omega)).1 (hex_digit (by omega)).1 hr

/-! ## Reading bytes -/

theorem decode_cons {b : UInt8} (hb : b ≠ 0x25) (r : List UInt8) :
    decode (b :: r) = b :: decode r := by
  match r with
  | [] => rfl
  | [_] => rfl
  | _ :: _ :: _ => rw [decode, if_neg hb]

theorem decode_escape {b c h l : UInt8} (hb : hexValue? b = some h) (hc : hexValue? c = some l)
    (r : List UInt8) : decode (0x25 :: b :: c :: r) = (h * 16 + l) :: decode r := by
  rw [decode, if_pos rfl, hb, hc]

/-- A byte is read back in front of whatever follows. -/
theorem decode_encodeByte (b : UInt8) (r : List UInt8) :
    decode (Utf8.encode (encodeByte b) ++ r) = b :: decode r := by
  have hb := b.toNat_lt
  rw [encodeByte]
  split
  · next hplain =>
    obtain ⟨_, hbytes, hne⟩ := plain_byte hplain
    rw [hbytes]
    exact decode_cons hne r
  · obtain ⟨_, c, hc, hhigh⟩ := hex_digit (n := b.toNat / 16) (by omega)
    obtain ⟨_, d, hd, hlow⟩ := hex_digit (n := b.toNat % 16) (by omega)
    have hbytes : Utf8.encode ['%', hexChar (b.toNat / 16), hexChar (b.toNat % 16)] =
        [0x25, c, d] := by
      calc Utf8.encode ['%', hexChar (b.toNat / 16), hexChar (b.toNat % 16)]
          = Utf8.encode ['%'] ++ (Utf8.encode [hexChar (b.toNat / 16)] ++
              Utf8.encode [hexChar (b.toNat % 16)]) := by simp [Utf8.encode]
        _ = [0x25] ++ ([c] ++ [d]) := by rw [hc, hd]; rfl
    rw [hbytes]
    exact (decode_escape hhigh hlow r).trans (by rw [byte_of_digits])

/-! ## Texts -/

theorem encoded_encode (s : List Char) : Encoded (encode s) := by
  rw [encode]
  induction Utf8.encode s with
  | nil => exact .nil
  | cons b bytes ih => exact encoded_encodeByte b ih

/-- The bytes of an encoded text stand for those of the text. -/
theorem decode_encode (s : List Char) : decode (Utf8.encode (encode s)) = Utf8.encode s := by
  rw [encode]
  induction Utf8.encode s with
  | nil => rfl
  | cons b bytes ih =>
    have hbytes : Utf8.encode ((b :: bytes).flatMap encodeByte) =
        Utf8.encode (encodeByte b) ++ Utf8.encode (bytes.flatMap encodeByte) := by
      rw [List.flatMap_cons, Utf8.encode, List.flatMap_append]
      rfl
    rw [hbytes, decode_encodeByte, ih]

theorem decodeText_encode (s : List Char) : decodeText (encode s) = .ok s := by
  rw [decodeText, decode_encode, Utf8.decode_encode]

theorem encode_inj {s t : List Char} : encode s = encode t ↔ s = t := by
  constructor
  · intro h
    have hdecoded := congrArg decodeText h
    rwa [decodeText_encode, decodeText_encode, Except.ok.injEq] at hdecoded
  · exact congrArg encode

end RackElevation.Percent
