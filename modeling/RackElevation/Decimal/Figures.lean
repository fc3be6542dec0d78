import RackElevation.Decimal.Binary64
import RackElevation.Decimal.Numeral

/-
  Figures of a binary fraction

  The decimal figures of a fraction and where its point lies, chosen in one of
  two ways: the fewest figures that read back as the same fraction, or a given
  number of figures, rounded with a tie to the even figure. A style then says
  which numbers are written positionally, which with an exponent, and whether a
  whole number keeps its point.

  What is proved:
    1. `eq_dropZeros_append` — only zeros are dropped at the end of the figures.
-/

namespace RackElevation

/-- Figures `d₁d₂…` that stand for `0.d₁d₂… · 10^point`. -/
structure Figures where
  digits : List Char
  point : Int
  deriving DecidableEq, Repr

namespace Figures

/-- The figures without zeros at the end. -/
def dropZeros (s : List Char) : List Char := (s.reverse.dropWhile (· == '0')).reverse

/-- The place of the point for `num / den`: one more than the power of ten of its first figure. -/
def pointOf (num den : Nat) : Int :=
  if den ≤ num then Numeral.size (num / den)
  else 1 - (Numeral.size ((den - 1) / num) : Int)

/-- `num / den` times a power of ten, again as a quotient. -/
def shift (num den : Nat) (e : Int) : Nat × Nat :=
  if 0 ≤ e then (num * Nat.pow 10 e.toNat, den) else (num, den * Nat.pow 10 (-e).toNat)

/-- The figures of the number `c · 10^(point - n)`, for a `c` of `n` figures or one more. -/
def ofCount (c n : Nat) (point : Int) : Figures :=
  ⟨dropZeros (Numeral.digits c), point + (Numeral.size c - n : Int)⟩

/-- Whether `c · 10^e` rounds to the fraction. -/
def readsBack (x : Binary64) (c : Nat) (e : Int) : Bool :=
  let q := shift c 1 e
  Binary64.round x.negative q.1 q.2 == some x

/-- Of the two numbers of `n` figures next to the fraction, the nearest that reads back. -/
def hit? (x : Binary64) (point : Int) (n : Nat) : Option Figures :=
  let q := shift x.magnitude Binary64.scale (n - point)
  let c := q.1 / q.2
  let near := Binary64.roundDiv q.1 q.2
  let far := if near = c then c + 1 else c
  if readsBack x near (point - n) then some (ofCount near n point)
  else if readsBack x far (point - n) then some (ofCount far n point)
  else none

/-- The fewest figures that read back as the fraction. -/
def shortest (x : Binary64) : Figures :=
  if x.significand = 0 then ⟨['0'], 1⟩
  else
    let point := pointOf x.magnitude Binary64.scale
    ((List.range 17).findSome? fun n => hit? x point (n + 1)).getD ⟨['0'], 1⟩

/-- At most `n` figures, rounded, without zeros at the end. -/
def rounded (n : Nat) (x : Binary64) : Figures :=
  if x.significand = 0 then ⟨['0'], 1⟩
  else
    let point := pointOf x.magnitude Binary64.scale
    let q := shift x.magnitude Binary64.scale (n - point)
    ofCount (Binary64.roundDiv q.1 q.2) n point

/-- How figures are written: positionally if the point is above `low` and at most `high`, and with
`.0` after a whole number if `keepPoint`. -/
structure Style where
  low : Int
  high : Int
  keepPoint : Bool

/-- Figures with a point after the first `k`. -/
def withPoint (k : Nat) (digits : List Char) (keepPoint : Bool) : List Char :=
  if k < digits.length then digits.take k ++ '.' :: digits.drop k
  else
    let whole := digits ++ List.replicate (k - digits.length) '0'
    if keepPoint then whole ++ ['.', '0'] else whole

/-- An exponent with its sign and at least two figures. -/
def exponentText (e : Int) : List Char :=
  let d := Numeral.digits e.natAbs
  (if e < 0 then '-' else '+') :: (if d.length < 2 then '0' :: d else d)

/-- Figures written in a style. -/
def Style.write (s : Style) (f : Figures) : List Char :=
  if s.low < f.point ∧ f.point ≤ s.high then
    if 0 < f.point then withPoint f.point.toNat f.digits s.keepPoint
    else '0' :: '.' :: (List.replicate (-f.point).toNat '0' ++ f.digits)
  else withPoint 1 f.digits false ++ 'e' :: exponentText (f.point - 1)

/-- Full precision: positional from 0.0001 up to 16 figures before the point. -/
def full : Style := ⟨-4, 16, true⟩

/-- Six figures: positional from 0.0001 up to a million. -/
def brief : Style := ⟨-4, 6, false⟩

/-- Text after a minus sign if the number is negative. -/
def signed (negative : Bool) (s : List Char) : String :=
  String.ofList (if negative then '-' :: s else s)

theorem eq_dropZeros_append (s : List Char) : ∃ n, s = dropZeros s ++ List.replicate n '0' := by
  refine ⟨(s.reverse.takeWhile (· == '0')).length, ?_⟩
  have hz : s.reverse.takeWhile (· == '0') =
      List.replicate (s.reverse.takeWhile (· == '0')).length '0' := by
    rw [List.eq_replicate_iff]
    exact ⟨rfl, fun c hc => by simpa using List.all_eq_true.1 List.all_takeWhile c hc⟩
  have h := congrArg List.reverse (List.takeWhile_append_dropWhile (p := (· == '0')) (l := s.reverse))
  rw [List.reverse_append, List.reverse_reverse, hz, List.reverse_replicate] at h
  simpa [dropZeros] using h.symm

end Figures

/-- A fraction in full precision, with a point or an exponent. -/
def Binary64.fullText (x : Binary64) : String :=
  Figures.signed x.negative (Figures.full.write (Figures.shortest x))

/-- A number in full precision, a whole number without a point. -/
def Real64.plainText : Real64 → String
  | .finite x =>
    match x.toInt? with
    | some n => toString n
    | none => x.fullText
  | .infinite negative => if negative then "-inf" else "inf"
  | .undefined => "nan"

/-- A number in six figures. -/
def Real64.briefText : Real64 → String
  | .finite x => Figures.signed x.negative (Figures.brief.write (Figures.rounded 6 x))
  | .infinite negative => if negative then "-inf" else "inf"
  | .undefined => "nan"

end RackElevation
