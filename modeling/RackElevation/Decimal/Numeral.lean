import RackElevation.Text.Digit

/-
  Numerals

  Integers in decimal. A numeral may use the digits of any script on the way in
  and is written in ASCII. Reading and writing stop at 4300 digits: a longer
  numeral is a fault of its own, which tells on the way in how long it was.

  What is proved:
    1. `valueOf_digits` — the digits of a number have it as their value.
    2. `readNat_digits` — a number short enough to be written is read back.
-/

namespace RackElevation.Numeral

open Text

/-- The longest numeral that is read or written. -/
def maxDigits : Nat := 4300

/-- Why a numeral is refused. -/
inductive Fault
  /-- The numeral to read has this many digits. -/
  | tooLongToRead (digits : Nat)
  /-- The number to write has too many digits. -/
  | tooLongToWrite
  deriving DecidableEq, Repr

/-- The sentence for a fault. -/
def Fault.message : Fault → String
  | .tooLongToRead n =>
    "Exceeds the limit (4300 digits) for integer string conversion: value has " ++ toString n ++
      " digits; use sys.set_int_max_str_digits() to increase the limit"
  | .tooLongToWrite =>
    "Exceeds the limit (4300 digits) for integer string conversion; " ++
      "use sys.set_int_max_str_digits() to increase the limit"

/-- The number a list of digits stands for, the most significant digit first. -/
def valueOf (digits : List Char) : Nat :=
  digits.foldl (fun n c => 10 * n + (digitValue? c).getD 0) 0

/-- The ASCII digits of a number, without leading zeros. -/
def digits (n : Nat) : List Char := Nat.toDigits 10 n

/-- The number of digits of a number. -/
def size (n : Nat) : Nat := (digits n).length

/-- Reads digits that are known to be digits. -/
def readNat (s : List Char) : Except Fault Nat :=
  if maxDigits < s.length then .error (.tooLongToRead s.length) else .ok (valueOf s)

/-- Reads digits after an optional sign. -/
def read (s : List Char) : Except Fault Int :=
  match s with
  | '-' :: r => (readNat r).map fun n => -(n : Int)
  | '+' :: r => (readNat r).map fun n => (n : Int)
  | r => (readNat r).map fun n => (n : Int)

/-- Writes a number. -/
def write (n : Int) : Except Fault String :=
  if maxDigits < size n.natAbs then .error .tooLongToWrite else .ok (toString n)

theorem valueOf_append (s : List Char) (c : Char) :
    valueOf (s ++ [c]) = 10 * valueOf s + (digitValue? c).getD 0 := by
  simp [valueOf]

theorem digitValue?_digitChar {d : Nat} (h : d < 10) : digitValue? (Nat.digitChar d) = some d := by
  have hd : d = 0 ∨ d = 1 ∨ d = 2 ∨ d = 3 ∨ d = 4 ∨ d = 5 ∨ d = 6 ∨ d = 7 ∨ d = 8 ∨ d = 9 := by
    omega
  rcases hd with rfl | rfl | rfl | rfl | rfl | rfl | rfl | rfl | rfl | rfl <;> decide

theorem valueOf_digits (n : Nat) : valueOf (digits n) = n := by
  induction n using Nat.strongRecOn with
  | ind n ih =>
    by_cases h : n < 10
    · rw [digits, Nat.toDigits_of_lt_base h]
      simp [valueOf, digitValue?_digitChar h]
    · have hlt : n % 10 < 10 := Nat.mod_lt n (by decide)
      have hsplit : digits n = digits (n / 10) ++ [Nat.digitChar (n % 10)] := by
        have := Nat.toDigits_append_toDigits (b := 10) (n := n / 10) (d := n % 10)
          (by decide) (by omega) hlt
        rw [Nat.div_add_mod, Nat.toDigits_of_lt_base hlt] at this
        exact this.symm
      rw [hsplit, valueOf_append, ih (n / 10) (by omega), digitValue?_digitChar hlt]
      simp; omega

theorem readNat_digits {n : Nat} (h : size n ≤ maxDigits) : readNat (digits n) = .ok n := by
  rw [readNat, if_neg (by rw [size] at h; omega), valueOf_digits]

end RackElevation.Numeral
