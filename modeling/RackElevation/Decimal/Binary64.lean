/-
  Binary fractions of 53 bits

  A finite number is a sign, a significand below 2^53 and a unit: its magnitude
  is `significand · 2^unit / 2^1074`. Every operation is its exact result in
  integers, rounded once to the nearest such number, a tie to the even
  significand; a result too large to be one is `none`.

  What is proved:
    1. `roundDiv_mul` — rounding a quotient without remainder changes nothing.
    2. `round_exact` — a number below 2^53 units of the smallest size is exact.
-/

namespace RackElevation

/-- A finite binary fraction. -/
structure Binary64 where
  negative : Bool
  significand : Nat
  unit : Nat
  deriving DecidableEq, Repr

namespace Binary64

/-- Why an operation has no finite result. -/
inductive Overflow
  /-- An integer is too large. -/
  | integer
  /-- A quotient of integers is too large. -/
  | quotient
  deriving DecidableEq, Repr

/-- The sentence for an overflow. -/
def Overflow.message : Overflow → String
  | .integer => "int too large to convert to float"
  | .quotient => "integer division result too large for a float"

/-- The quotient rounded to the nearest integer, a tie to the even one. -/
def roundDiv (num den : Nat) : Nat :=
  let q := num / den
  let r := num % den
  if 2 * r < den then q else if den < 2 * r then q + 1 else q + q % 2

/-- The smallest magnitude above zero is one over this. -/
def scale : Nat := Nat.pow 2 1074

/-- The unit in which `num` smallest magnitudes over `den` have at most 53 bits. -/
def unitFor (num den : Nat) : Nat :=
  if num / den < Nat.pow 2 53 then 0 else Nat.log2 (num / den) - 52

/-- The nearest fraction to `num` smallest magnitudes over `den`. -/
def roundScaled (negative : Bool) (num den : Nat) : Option Binary64 :=
  let unit := unitFor num den
  let m := roundDiv num (den * Nat.pow 2 unit)
  let x : Binary64 := if m = Nat.pow 2 53 then ⟨negative, Nat.pow 2 52, unit + 1⟩ else ⟨negative, m, unit⟩
  if 2045 < x.unit then none else some x

/-- The nearest fraction to `num / den` with the given sign. -/
def round (negative : Bool) (num den : Nat) : Option Binary64 :=
  roundScaled negative (num * scale) den

/-- The magnitude in smallest magnitudes. -/
def magnitude (x : Binary64) : Nat := x.significand * Nat.pow 2 x.unit

/-- The value in smallest magnitudes. -/
def scaled (x : Binary64) : Int := if x.negative then -(x.magnitude : Int) else x.magnitude

/-- The nearest fraction to an integer. -/
def ofInt? (n : Int) : Option Binary64 := round (n < 0) n.natAbs 1

/-- The nearest fraction to half of an integer. -/
def half? (n : Int) : Option Binary64 := round (n < 0) n.natAbs 2

/-- The sum, rounded. -/
def add? (x y : Binary64) : Option Binary64 :=
  let s := x.scaled + y.scaled
  roundScaled (s < 0 || (s == 0 && x.negative && y.negative)) s.natAbs 1

/-- The product, rounded. -/
def mul? (x y : Binary64) : Option Binary64 :=
  roundScaled (x.negative != y.negative) (x.magnitude * y.magnitude) scale

/-- The integer that the fraction is, if it is one. -/
def toInt? (x : Binary64) : Option Int :=
  if x.magnitude % scale = 0 then
    some (if x.negative then -((x.magnitude / scale : Nat) : Int) else (x.magnitude / scale : Nat))
  else none

theorem roundDiv_mul (a : Nat) {d : Nat} (h : 0 < d) : roundDiv (a * d) d = a := by
  simp [roundDiv, Nat.mul_div_cancel _ h, h]

theorem round_exact (negative : Bool) {n : Nat} (h : n < Nat.pow 2 53) :
    roundScaled negative n 1 = some ⟨negative, n, 0⟩ := by
  have hdiv : roundDiv n 1 = n := by simpa using roundDiv_mul n Nat.one_pos
  have hne : ¬ n = Nat.pow 2 53 := Nat.ne_of_lt h
  have hunit : unitFor n 1 = 0 := by
    unfold unitFor
    rw [Nat.div_one, if_pos h]
  unfold roundScaled
  have hden : 1 * Nat.pow 2 0 = 1 := rfl
  simp only [hunit, hden, hdiv, if_neg hne]
  simp

end Binary64

/-- A number as a floating-point literal can denote it. -/
inductive Real64
  | finite (x : Binary64)
  | infinite (negative : Bool)
  | undefined
  deriving DecidableEq, Repr

namespace Real64

/-- A rounded result with its sign, where a result too large is infinite. -/
def ofRounded (negative : Bool) (x : Option Binary64) : Real64 :=
  match x with
  | some x => .finite x
  | none => .infinite negative

/-- The number `m · 10^e`. Far outside the range the power is not computed. -/
def ofDecimal (negative : Bool) (m : Nat) (e : Int) : Real64 :=
  let top := (Nat.toDigits 10 m).length + e
  if m = 0 ∨ top < -330 then .finite ⟨negative, 0, 0⟩
  else if 320 < top then .infinite negative
  else if 0 ≤ e then ofRounded negative (Binary64.round negative (m * Nat.pow 10 e.toNat) 1)
  else ofRounded negative (Binary64.round negative m (Nat.pow 10 (-e).toNat))

end Real64

end RackElevation
