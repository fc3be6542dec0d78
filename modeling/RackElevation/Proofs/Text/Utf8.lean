import RackElevation.Text.Utf8

/-
  Reading UTF-8 back

  The bytes of a character tell by the first of them how many there are, and none
  of them is refused: a form is overlong, a surrogate or beyond the last
  character only if its number is not that of a character written so. So the
  bytes of a text are cut into its characters again.

  What is proved:
    1. `firstPiece_one` to `firstPiece_four` — the four forms of a character.
    2. `pieces_encodeChar` — the bytes of a character are read in front of any
       others.
    3. `decode_encode` — the bytes of a text are those of this text only.
-/

namespace RackElevation.Utf8

/-! ## The forms of a character -/

section Forms

variable {a b c d : UInt8}

theorem mayFollow_of_bounds (hb : isContinuation b = true) (hE0 : a.toNat = 0xE0 → 0xA0 ≤ b.toNat)
    (hED : a.toNat = 0xED → b.toNat ≤ 0x9F) (hF0 : a.toNat = 0xF0 → 0x90 ≤ b.toNat)
    (hF4 : a.toNat = 0xF4 → b.toNat ≤ 0x8F) : mayFollow a b = true := by
  simp only [isContinuation, mayFollow, Bool.and_eq_true, decide_eq_true_eq, beq_iff_eq,
    ← UInt8.toNat_inj, UInt8.le_iff_toNat_le] at hb ⊢
  constructor
  · split
    · next h => exact hE0 h
    split
    · next h => exact hF0 h
    · exact hb.1
  · split
    · next h => exact hED h
    split
    · next h => exact hF4 h
    · exact hb.2

theorem firstPiece_one (ha : a.toNat < 0x80) (rest : List UInt8) :
    firstPiece a rest = (.char (Char.ofNat a.toNat), 0) := by
  unfold firstPiece
  simp only [UInt8.lt_iff_toNat_lt, UInt8.reduceToNat]
  rw [if_pos ha]

theorem firstPiece_two (ha : 0xC2 ≤ a.toNat) (ha' : a.toNat < 0xE0) (hb : isContinuation b = true)
    (rest : List UInt8) :
    firstPiece a (b :: rest) = (.char (Char.ofNat (a.toNat % 0x20 * 0x40 + low b)), 1) := by
  unfold firstPiece
  simp only [UInt8.lt_iff_toNat_lt, UInt8.reduceToNat, Bool.or_eq_true, decide_eq_true_eq]
  rw [if_neg (by omega), if_neg (by omega), if_pos ha', if_pos hb]

theorem firstPiece_three (ha : 0xE0 ≤ a.toNat) (ha' : a.toNat < 0xF0) (hb : mayFollow a b = true)
    (hc : isContinuation c = true) (rest : List UInt8) :
    firstPiece a (b :: c :: rest) =
      (.char (Char.ofNat (a.toNat % 0x10 * 0x1000 + low b * 0x40 + low c)), 2) := by
  unfold firstPiece
  simp only [UInt8.lt_iff_toNat_lt, UInt8.reduceToNat, Bool.or_eq_true, decide_eq_true_eq, hb, hc,
    Bool.not_true, Bool.false_eq_true, if_false]
  rw [if_neg (by omega), if_neg (by omega), if_neg (by omega), if_pos ha']

theorem firstPiece_four (ha : 0xF0 ≤ a.toNat) (ha' : a.toNat ≤ 0xF4) (hb : mayFollow a b = true)
    (hc : isContinuation c = true) (hd : isContinuation d = true) (rest : List UInt8) :
    firstPiece a (b :: c :: d :: rest) = (.char (Char.ofNat
      (a.toNat % 0x08 * 0x40000 + low b * 0x1000 + low c * 0x40 + low d)), 3) := by
  unfold firstPiece
  simp only [UInt8.lt_iff_toNat_lt, UInt8.reduceToNat, Bool.or_eq_true, decide_eq_true_eq, hb, hc,
    hd, Bool.not_true, Bool.false_eq_true, if_false]
  rw [if_neg (by omega), if_neg (by omega), if_neg (by omega), if_neg (by omega)]

end Forms

/-! ## Characters and texts -/

theorem toNat_bytes {n : Nat} (h : n < 0x100) : (UInt8.ofNat n).toNat = n :=
  UInt8.toNat_ofNat_of_lt' h

/-- Six bits make a byte that continues a character. -/
theorem isContinuation_ofNat (n : Nat) : isContinuation (UInt8.ofNat (n % 0x40 + 0x80)) = true := by
  have hbyte := toNat_bytes (n := n % 0x40 + 0x80) (by omega)
  simp only [isContinuation, UInt8.le_iff_toNat_le, hbyte, UInt8.reduceToNat, Bool.and_eq_true,
    decide_eq_true_eq]
  omega

theorem low_ofNat (n : Nat) : low (UInt8.ofNat (n % 0x40 + 0x80)) = n % 0x40 := by
  rw [low, toNat_bytes (by omega)]
  omega

/-- The bytes of a character make one piece, whatever follows them. -/
theorem firstPiece_encodeChar (c : Char) (rest : List UInt8) :
    ∃ a tail, String.utf8EncodeChar c = a :: tail ∧
      firstPiece a (tail ++ rest) = (.char c, tail.length) := by
  have hvalid : c.val.toNat < 0xD800 ∨ 0xDFFF < c.val.toNat ∧ c.val.toNat < 0x110000 := c.valid
  have hchar : Char.ofNat c.val.toNat = c := Char.ofNat_toNat c
  unfold String.utf8EncodeChar
  generalize c.val.toNat = v at hvalid hchar ⊢
  dsimp only
  -- the forms of one to four bytes
  split
  · have ha := toNat_bytes (n := v) (by omega)
    refine ⟨_, _, rfl, (firstPiece_one (by omega) _).trans ?_⟩
    rw [ha, hchar]
    rfl
  split
  · have ha := toNat_bytes (n := v / 0x40 % 0x20 + 0xC0) (by omega)
    have hv : (v / 0x40 % 0x20 + 0xC0) % 0x20 * 0x40 + v % 0x40 = v := by omega
    refine ⟨_, _, rfl, (firstPiece_two ?_ ?_ (isContinuation_ofNat v) _).trans ?_⟩
    · omega
    · omega
    · rw [ha, low_ofNat, hv, hchar]
      rfl
  split
  · have ha := toNat_bytes (n := v / 0x1000 % 0x10 + 0xE0) (by omega)
    have hb := toNat_bytes (n := v / 0x40 % 0x40 + 0x80) (by omega)
    have hv : (v / 0x1000 % 0x10 + 0xE0) % 0x10 * 0x1000 + v / 0x40 % 0x40 * 0x40 +
        v % 0x40 = v := by omega
    have hfollow := mayFollow_of_bounds (a := UInt8.ofNat (v / 0x1000 % 0x10 + 0xE0))
      (isContinuation_ofNat (v / 0x40)) (by omega) (by omega) (by omega) (by omega)
    refine ⟨_, _, rfl, (firstPiece_three ?_ ?_ hfollow (isContinuation_ofNat v) _).trans ?_⟩
    · omega
    · omega
    · rw [ha, low_ofNat, low_ofNat, hv, hchar]
      rfl
  · have ha := toNat_bytes (n := v / 0x40000 % 0x08 + 0xF0) (by omega)
    have hb := toNat_bytes (n := v / 0x1000 % 0x40 + 0x80) (by omega)
    have hv : (v / 0x40000 % 0x08 + 0xF0) % 0x08 * 0x40000 + v / 0x1000 % 0x40 * 0x1000 +
        v / 0x40 % 0x40 * 0x40 + v % 0x40 = v := by omega
    have hfollow := mayFollow_of_bounds (a := UInt8.ofNat (v / 0x40000 % 0x08 + 0xF0))
      (isContinuation_ofNat (v / 0x1000)) (by omega) (by omega) (by omega) (by omega)
    refine ⟨_, _, rfl, (firstPiece_four ?_ ?_ hfollow (isContinuation_ofNat (v / 0x40))
      (isContinuation_ofNat v) _).trans ?_⟩
    · omega
    · omega
    · rw [ha, low_ofNat, low_ofNat, low_ofNat, hv, hchar]
      rfl

theorem pieces_encodeChar (c : Char) (rest : List UInt8) :
    pieces (String.utf8EncodeChar c ++ rest) = .char c :: pieces rest := by
  obtain ⟨a, tail, hbytes, hpiece⟩ := firstPiece_encodeChar c rest
  rw [hbytes, List.cons_append, pieces, hpiece, List.drop_left]

theorem pieces_encode (s : List Char) : pieces (encode s) = s.map .char := by
  induction s with
  | nil => simp [encode, pieces]
  | cons c s ih =>
    have hs : encode (c :: s) = String.utf8EncodeChar c ++ encode s := List.flatMap_cons
    rw [hs, pieces_encodeChar, ih, List.map_cons]

theorem textOfPieces_chars (n : Nat) (s : List Char) : textOfPieces n (s.map .char) = .ok s := by
  induction s generalizing n with
  | nil => rfl
  | cons c s ih =>
    rw [List.map_cons, textOfPieces, ih]
    rfl

/-- The bytes of a text are those of this text. -/
theorem decode_encode (s : List Char) : decode (encode s) = .ok s := by
  rw [decode, pieces_encode, textOfPieces_chars]

end RackElevation.Utf8
