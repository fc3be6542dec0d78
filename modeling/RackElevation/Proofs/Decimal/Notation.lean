import Mathlib.Data.List.Basic
import Mathlib.Data.List.Induction
import RackElevation.Decimal.Numeral
import RackElevation.Proofs.Text.Runs

/-
  Integers as they are written

  The texts that denote integers: at least one digit of any script, after a sign
  or without one. A numeral is read as the number it denotes if it has at most
  4300 digits, and not at all if it has more.

  What is proved:
    1. `read_of_integer` — what becomes of a numeral that is read.
    2. `Integer.trimStart_eq` — an integer that a text starts with is left when
       the blanks before it are gone.
    3. `size_le_iff`, `valueOf_lt_tooLong` — the numbers that can be written are
       those below a power of ten, and so is every number that is read.
    4. `integer_toString` — a number is written as a numeral that denotes it.
    5. `eq_of_toString_eq` — no two numbers are written alike.
-/

namespace RackElevation

/-- The least number that has too many digits to be written. -/
def tooLong : Nat := Nat.pow 10 Numeral.maxDigits

namespace Numeral

open Text

/-- At least one digit of any script. -/
def Digits (s : List Char) : Prop := s ≠ [] ∧ ∀ c ∈ s, isDigit c = true

/-- Digits after an optional sign, and the number they stand for. -/
inductive Integer : List Char → List Char → Int → Prop
  | unsigned {digits : List Char} (h : Digits digits) :
      Integer digits digits (Numeral.valueOf digits)
  | plus {digits : List Char} (h : Digits digits) :
      Integer ('+' :: digits) digits (Numeral.valueOf digits)
  | minus {digits : List Char} (h : Digits digits) :
      Integer ('-' :: digits) digits (-(Numeral.valueOf digits : Int))

/-- After blanks, a text starts with an integer of these digits, and no digit comes after them. -/
def Leading (s digits : List Char) (n : Int) : Prop :=
  ∃ blanks number rest, s = blanks ++ (number ++ rest) ∧ Blanks blanks ∧
    Integer number digits n ∧ ∀ c ∈ rest.head?, isDigit c = false

theorem isBlank_of_isDigit {c : Char} (h : isDigit c = true) : isBlank c = false := by
  obtain ⟨n, hn⟩ := Option.isSome_iff_exists.1 h
  simp only [digitValue?, Option.map_eq_some_iff] at hn
  obtain ⟨first, hfirst, -⟩ := hn
  have hblock := List.find?_some hfirst
  simp only [Bool.and_eq_true, decide_eq_true_eq] at hblock
  -- no block of digits meets a range of blanks
  have hblocks : ∀ z ∈ digitZeros, ∀ k < 10, inRanges blankRanges (z + k) = false := by
    decide +kernel
  have hc := hblocks first (List.mem_of_find?_eq_some hfirst) (c.toNat - first) (by omega)
  rwa [Nat.add_sub_cancel' hblock.1] at hc

theorem Digits.head_ne {digits : List Char} (h : Digits digits) {c : Char}
    (hc : isDigit c = false) : digits.head? ≠ some c := by
  intro hhead
  have := h.2 c (List.mem_of_mem_head? hhead)
  rw [hc] at this
  cases this

theorem Digits.unbroken {digits : List Char} (h : Digits digits) : Unbroken digits :=
  unbroken_of_not_blank fun c hc => isBlank_of_isDigit (h.2 c hc)

/-- Digits at the end of a text are not trimmed. -/
theorem Digits.trim_append {digits : List Char} (h : Digits digits) {s : List Char}
    (hs : ∀ c ∈ s.head?, isBlank c = false) : trim (s ++ digits) = s ++ digits := by
  apply trim_of_not_blank
  · intro c hc
    rw [List.head?_append] at hc
    cases s with
    | nil => exact isBlank_of_isDigit (h.2 c (List.mem_of_mem_head? hc))
    | cons d r => exact hs c hc
  · intro c hc
    rw [List.getLast?_append_of_ne_nil _ h.1] at hc
    exact isBlank_of_isDigit (h.2 c (List.mem_of_mem_getLast? hc))

theorem Digits.trim_eq {digits : List Char} (h : Digits digits) : trim digits = digits :=
  h.trim_append (s := []) (fun _ hc => nomatch hc)

/-- A numeral of more digits than are read is a fault of its own. -/
theorem read_of_integer {s digits : List Char} {n : Int} (h : Integer s digits n) :
    read s = if maxDigits < digits.length
      then .error (.tooLongToRead digits.length) else .ok n := by
  cases h with
  | unsigned hd =>
    have hminus := hd.head_ne (c := '-') (by decide)
    have hplus := hd.head_ne (c := '+') (by decide)
    unfold read
    split
    · exact absurd rfl hminus
    · exact absurd rfl hplus
    · unfold readNat
      split <;> rfl
  | plus hd =>
    simp only [read, readNat]
    split <;> rfl
  | minus hd =>
    simp only [read, readNat]
    split <;> rfl

theorem Integer.suffix {s digits : List Char} {n : Int} (h : Integer s digits n) :
    digits <:+ s := by
  cases h with
  | unsigned => exact List.suffix_refl _
  | plus => exact List.suffix_cons _ _
  | minus => exact List.suffix_cons _ _

theorem Integer.digits {s digits : List Char} {n : Int} (h : Integer s digits n) :
    ∀ c ∈ digits, isDigit c = true := by
  cases h with
  | unsigned hd => exact hd.2
  | plus hd => exact hd.2
  | minus hd => exact hd.2

theorem Integer.head_not_blank {s digits : List Char} {n : Int} (h : Integer s digits n) :
    ∃ c r, s = c :: r ∧ isBlank c = false := by
  cases h with
  | unsigned hd =>
    obtain ⟨c, r, rfl⟩ := List.exists_cons_of_ne_nil hd.1
    exact ⟨c, r, rfl, isBlank_of_isDigit (hd.2 c List.mem_cons_self)⟩
  | plus => exact ⟨_, _, rfl, by decide⟩
  | minus => exact ⟨_, _, rfl, by decide⟩

theorem Integer.trimStart_eq {blanks s digits : List Char} {n : Int} (h : Integer s digits n)
    (hblanks : Blanks blanks) (rest : List Char) :
    trimStart (blanks ++ (s ++ rest)) = s ++ rest := by
  obtain ⟨c, r, rfl, hc⟩ := h.head_not_blank
  exact trimStart_append hblanks hc (r ++ rest)

/-! ## Numbers in digits -/

theorem size_le_iff_lt_pow {n k : Nat} (hk : 0 < k) : size n ≤ k ↔ n < Nat.pow 10 k :=
  Nat.length_toDigits_le_iff (by decide) hk

theorem size_le_iff {n : Nat} : size n ≤ maxDigits ↔ n < tooLong := by
  unfold tooLong
  exact size_le_iff_lt_pow (by decide)

theorem valueOf_lt (s : List Char) : valueOf s < Nat.pow 10 s.length := by
  -- a numeral is read from the left, so the last digit is the last one added
  induction s using List.reverseRecOn with
  | nil => exact Nat.one_pos
  | append_singleton s c ih =>
    have hdigit : (digitValue? c).getD 0 < 10 := by
      cases hc : digitValue? c with
      | none => exact Nat.succ_pos 9
      | some d => exact digitValue?_lt hc
    have hpow : Nat.pow 10 (s.length + 1) = Nat.pow 10 s.length * 10 := rfl
    rw [valueOf_append, List.length_append, List.length_singleton, hpow]
    omega

theorem valueOf_lt_pow {s : List Char} {k : Nat} (h : s.length ≤ k) : valueOf s < Nat.pow 10 k :=
  Nat.lt_of_lt_of_le (valueOf_lt s) (Nat.pow_le_pow_right (by decide) h)

/-- What is short enough to be read is below what is too long to be written. -/
theorem valueOf_lt_tooLong {s : List Char} (h : s.length ≤ maxDigits) : valueOf s < tooLong := by
  unfold tooLong
  exact valueOf_lt_pow h

theorem isDigit_of_ascii {c : Char} (h : c.isDigit = true) : isDigit c = true := by
  have hrange := Char.isDigit_iff_toNat.1 h
  have hlow : '0'.toNat = 48 := rfl
  have hhigh : '9'.toNat = 57 := rfl
  rw [isDigit, digitValue?, Option.isSome_map, List.find?_isSome]
  refine ⟨0x30, by decide, ?_⟩
  rw [Bool.and_eq_true, decide_eq_true_eq, decide_eq_true_eq]
  omega

theorem digits_digits (n : Nat) : Digits (digits n) := by
  refine ⟨Nat.toDigits_ne_nil, ?_⟩
  intro c hc
  exact isDigit_of_ascii (Nat.isDigit_of_mem_toDigits (by decide) (by decide) hc)

theorem toList_toString (n : Nat) : (toString (n : Int)).toList = digits n := by
  have htext : toString (n : Int) = toString n := rfl
  rw [htext, Nat.toString_eq_ofList_toDigits, String.toList_ofList]
  rfl

theorem toList_toString_negSucc (n : Nat) :
    (toString (Int.negSucc n)).toList = '-' :: digits (n + 1) := by
  have htext : toString (Int.negSucc n) = "-" ++ toString (n + 1) := rfl
  have hsign : "-".toList = ['-'] := rfl
  rw [htext, String.toList_append, hsign, Nat.toString_eq_ofList_toDigits, String.toList_ofList]
  rfl

theorem integer_toString (n : Int) : ∃ digits, Integer (toString n).toList digits n := by
  cases n with
  | ofNat m =>
    have hint := Integer.unsigned (digits_digits m)
    rw [valueOf_digits, ← toList_toString] at hint
    exact ⟨_, hint⟩
  | negSucc m =>
    have hint := Integer.minus (digits_digits (m + 1))
    rw [valueOf_digits, ← toList_toString_negSucc] at hint
    exact ⟨_, hint⟩

/-- A numeral denotes one number. -/
theorem Integer.unique {s digits digits' : List Char} {m n : Int} (h : Integer s digits m)
    (h' : Integer s digits' n) : m = n := by
  have hplus : isDigit '+' = false := by decide
  have hminus : isDigit '-' = false := by decide
  cases h with
  | unsigned h =>
    cases h' with
    | unsigned => rfl
    | plus => exact absurd rfl (h.head_ne hplus)
    | minus => exact absurd rfl (h.head_ne hminus)
  | plus =>
    cases h' with
    | unsigned h => exact absurd rfl (h.head_ne hplus)
    | plus => rfl
  | minus =>
    cases h' with
    | unsigned h => exact absurd rfl (h.head_ne hminus)
    | minus => rfl

/-- No two numbers are written alike. -/
theorem eq_of_toString_eq {m n : Int} (h : toString m = toString n) : m = n := by
  obtain ⟨_, hm⟩ := integer_toString m
  obtain ⟨_, hn⟩ := integer_toString n
  rw [h] at hm
  exact hm.unique hn

end Numeral

end RackElevation
