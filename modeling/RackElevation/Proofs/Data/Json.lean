import RackElevation.Data.Json
import RackElevation.Yaml.Cursor

/-
  Reading JSON text back

  Inside quotes every character is written in a way that tells where it ends, so
  a text in quotes is read back from whatever it stands in front of, and no two
  texts are written alike.

  What is proved:
    1. `readChar?_escapeChar` — a character inside quotes is read back.
    2. `quotedText_append_inj` — so is a text in quotes.
-/

namespace RackElevation.Json

open Text
open Yaml (hexValue hexNumber)

/-- The characters that are escaped by a letter, by that letter. -/
def shortEscapes : List (Char × Char) :=
  [('n', '\n'), ('r', '\r'), ('t', '\t'), ('b', '\x08'), ('f', '\x0c')]

/-- The first character of a text that is written by its code units, given the first of them and
what follows it. -/
def readUnits (n : Nat) (r : List Char) : Char × List Char :=
  if 0xD800 ≤ n ∧ n < 0xDC00 then
    let low := hexNumber ((r.drop 2).take 4)
    (Char.ofNat (0x10000 + (n - 0xD800) * 0x400 + (low - 0xDC00)), r.drop 6)
  else (Char.ofNat n, r)

/-- The first character of a text inside quotes, and what follows it. -/
def readChar? : List Char → Option (Char × List Char)
  | [] => none
  | '\\' :: 'u' :: r => some (readUnits (hexNumber (r.take 4)) (r.drop 4))
  | '\\' :: c :: r => some ((shortEscapes.lookup c).getD c, r)
  | c :: r => some (c, r)

theorem hexValue_digitChar : ∀ n < 16, hexValue (Nat.digitChar n) = n := by decide

theorem hexDigits_length (w n : Nat) : (hexDigits w n).length = w := by
  induction w generalizing n with
  | zero => rfl
  | succ w ih => rw [hexDigits, List.length_append, ih]; rfl

theorem hexNumber_hexDigits (w n : Nat) : hexNumber (hexDigits w n) = n % Nat.pow 16 w := by
  induction w generalizing n with
  | zero => exact (Nat.mod_one n).symm
  | succ w ih =>
    have hlast : hexNumber (hexDigits (w + 1) n) =
        16 * hexNumber (hexDigits w (n / 16)) + hexValue (Nat.digitChar (n % 16)) :=
      List.foldl_append ..
    have hpow : Nat.pow 16 (w + 1) = 16 * Nat.pow 16 w := Nat.mul_comm ..
    rw [hlast, ih, hexValue_digitChar _ (Nat.mod_lt n (by decide)), hpow]
    have := Nat.mod_mul (x := n) (a := 16) (b := Nat.pow 16 w)
    omega

/-- The number of a unit is read back from its digits. -/
theorem hexNumber_unit {n : Nat} (h : n < 0x10000) : hexNumber (hexDigits 4 n) = n := by
  have hwidth : Nat.pow 16 4 = 0x10000 := rfl
  rw [hexNumber_hexDigits, hwidth, Nat.mod_eq_of_lt h]

theorem readChar?_unitText {n : Nat} (h : n < 0x10000) (rest : List Char) :
    readChar? (unitText n ++ rest) = some (readUnits n rest) := by
  have htake : (hexDigits 4 n ++ rest).take 4 = hexDigits 4 n :=
    List.take_left' (hexDigits_length 4 n)
  have hdrop : (hexDigits 4 n ++ rest).drop 4 = rest := List.drop_left' (hexDigits_length 4 n)
  show some (readUnits (hexNumber ((hexDigits 4 n ++ rest).take 4))
    ((hexDigits 4 n ++ rest).drop 4)) = _
  rw [htake, hdrop, hexNumber_unit h]

/-- The two units of a character beyond the first 65536. -/
theorem readUnits_pair {k m : Nat} (hk : k < 0x400) (hm : m < 0x10000) (rest : List Char) :
    readUnits (0xD800 + k) (unitText m ++ rest) =
      (Char.ofNat (0x10000 + k * 0x400 + (m - 0xDC00)), rest) := by
  have hlow : ((unitText m ++ rest).drop 2).take 4 = hexDigits 4 m :=
    List.take_left' (hexDigits_length 4 m)
  have hrest : (hexDigits 4 m ++ rest).drop 4 = rest := List.drop_left' (hexDigits_length 4 m)
  have hbehind : (unitText m ++ rest).drop 6 = rest := hrest
  have hfirst : 0xD800 + k - 0xD800 = k := Nat.add_sub_cancel_left ..
  rw [readUnits, if_pos (by omega), hlow, hbehind, hexNumber_unit hm, hfirst]

/-- The number of a character is below the last one, and no code unit that goes in a pair. -/
theorem toNat_bounds (c : Char) :
    c.toNat < 0x110000 ∧ ¬(0xD800 ≤ c.toNat ∧ c.toNat < 0xDC00) := by
  have hvalid := c.valid
  rw [UInt32.isValidChar, Nat.isValidChar] at hvalid
  have hval : c.toNat = c.val.toNat := rfl
  omega

theorem readChar?_escapeChar (c : Char) (rest : List Char) :
    readChar? (escapeChar c ++ rest) = some (c, rest) := by
  obtain ⟨hlast, hpaired⟩ := toNat_bounds c
  unfold escapeChar
  -- the characters that are escaped by a letter
  iterate 7
    split
    · next hc =>
      subst hc
      rfl
  have hplain : c ≠ '\\' := by assumption
  split
  · rw [List.singleton_append, readChar?]
    · exact fun _ h _ => hplain h
    · exact fun _ _ h _ => hplain h
  split
  · next hsmall => rw [readChar?_unitText hsmall, readUnits, if_neg hpaired, Char.ofNat_toNat]
  · next hlarge =>
    have hnumber : 0x10000 + (c.toNat - 0x10000) / 0x400 * 0x400 +
        (0xDC00 + (c.toNat - 0x10000) % 0x400 - 0xDC00) = c.toNat := by omega
    rw [List.append_assoc, readChar?_unitText (by omega), readUnits_pair (by omega) (by omega),
      hnumber, Char.ofNat_toNat]

/-- A character inside quotes never starts with a quote. -/
theorem escapeChar_ne_quote (c : Char) (rest t : List Char) : escapeChar c ++ rest ≠ '"' :: t := by
  intro h
  have hread := congrArg readChar? h
  rw [readChar?_escapeChar, readChar?] at hread
  · obtain ⟨rfl, _⟩ := Prod.mk.inj (Option.some.inj hread)
    cases h
  · exact fun _ h _ => nomatch h
  · exact fun _ _ h _ => nomatch h

/-- Texts inside quotes that are written alike are the same text. -/
theorem escaped_append_inj {s t rest rest' : List Char}
    (h : s.flatMap escapeChar ++ '"' :: rest = t.flatMap escapeChar ++ '"' :: rest') :
    s = t ∧ rest = rest' := by
  induction s generalizing t with
  | nil =>
    cases t with
    | nil => exact ⟨rfl, (List.cons.inj h).2⟩
    | cons d t =>
      rw [List.flatMap_cons, List.append_assoc] at h
      exact absurd h.symm (escapeChar_ne_quote d _ _)
  | cons c s ih =>
    rw [List.flatMap_cons, List.append_assoc] at h
    cases t with
    | nil => exact absurd h (escapeChar_ne_quote c _ _)
    | cons d t =>
      rw [List.flatMap_cons, List.append_assoc] at h
      have hread := congrArg readChar? h
      rw [readChar?_escapeChar, readChar?_escapeChar] at hread
      obtain ⟨rfl, hrest⟩ := Prod.mk.inj (Option.some.inj hread)
      obtain ⟨rfl, hend⟩ := ih hrest
      exact ⟨rfl, hend⟩

theorem quotedText_append_inj {s t : String} {rest rest' : List Char}
    (h : (quotedText s).toList ++ rest = (quotedText t).toList ++ rest') :
    s = t ∧ rest = rest' := by
  have hlist : ∀ (u : String) (r : List Char),
      (quotedText u).toList ++ r = '"' :: (u.toList.flatMap escapeChar ++ '"' :: r) := by
    intro u r
    rw [quotedText, String.toList_ofList]
    simp
  rw [hlist, hlist] at h
  obtain ⟨htext, hrest⟩ := escaped_append_inj (List.cons.inj h).2
  exact ⟨String.toList_inj.1 htext, hrest⟩

end RackElevation.Json
