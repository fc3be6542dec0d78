import RackElevation.Proofs.Decimal.Overflow
import RackElevation.Proofs.Decimal.Literal

/-
  Halves

  A number whose binary digits fit a fraction is its own rounding, whatever the
  quotient by which it was reached. So a sum of integers and halves is computed
  without an error as long as it stays below 2^50, and it is written with all
  its figures: an integer never rounds to a half, so the figure after the point
  cannot be left out.

  What is proved:
    1. `roundScaled_exact` — what fits a fraction is rounded to itself.
    2. `scale_dvd_of_round` — an integer is rounded to an integer.
    3. `plainText_half` — a half of an odd number is written with a five after
       the point.
-/

namespace RackElevation

namespace Binary64

/-- The fraction of a magnitude that fits one. -/
def exact (negative : Bool) (v : Nat) : Binary64 :=
  ⟨negative, v / Nat.pow 2 (unitFor v 1), unitFor v 1⟩

theorem unitFor_mul (v : Nat) {den : Nat} (hden : 0 < den) : unitFor (v * den) den = unitFor v 1 := by
  rw [unitFor, unitFor, Nat.mul_div_cancel v hden, Nat.div_one]

section Exact

variable {m e : Nat} (hm : m < Nat.pow 2 53)

include hm

/-- A magnitude of at most 53 bits needs no unit larger than its own. -/
theorem unitFor_le : unitFor (m * Nat.pow 2 e) 1 ≤ e := by
  have hlt : m * Nat.pow 2 e < Nat.pow 2 (53 + e) := by
    rw [pow_split]
    exact Nat.mul_lt_mul_of_pos_right hm (pow_pos e)
  rcases unitFor_spec (m * Nat.pow 2 e) 1 with ⟨hzero, _⟩ | ⟨_, hle, _⟩
  · omega
  · rw [Nat.div_one] at hle
    have hpow : unitFor (m * Nat.pow 2 e) 1 + 52 < 53 + e :=
      (Nat.pow_lt_pow_iff_right (by decide)).1 (Nat.lt_of_le_of_lt hle hlt)
    omega

theorem magnitude_exact (negative : Bool) :
    (exact negative (m * Nat.pow 2 e)).magnitude = m * Nat.pow 2 e := by
  have hdvd : Nat.pow 2 (unitFor (m * Nat.pow 2 e) 1) ∣ m * Nat.pow 2 e :=
    Nat.dvd_mul_left_of_dvd (Nat.pow_dvd_pow 2 (unitFor_le hm)) m
  exact Nat.div_mul_cancel hdvd

/-- What fits a fraction is rounded to itself. -/
theorem roundScaled_exact (he : e ≤ 2045) (negative : Bool) {den : Nat} (hden : 0 < den) :
    roundScaled negative (m * Nat.pow 2 e * den) den = some (exact negative (m * Nat.pow 2 e)) := by
  have hunit := unitFor_le hm (e := e)
  have hwhole := magnitude_exact hm (e := e) negative
  have hspec := unitFor_spec (m * Nat.pow 2 e) 1
  rw [exact, magnitude] at hwhole
  rw [roundScaled, unitFor_mul _ hden, exact]
  dsimp only at hwhole ⊢
  generalize m * Nat.pow 2 e = v at hunit hwhole hspec ⊢
  generalize unitFor v 1 = unit at hunit hwhole hspec ⊢
  -- the quotient by the unit has no remainder, so it is not rounded
  have hround : roundDiv (v * den) (den * Nat.pow 2 unit) = v / Nat.pow 2 unit := by
    have hproduct : v * den = v / Nat.pow 2 unit * (den * Nat.pow 2 unit) := by
      conv => lhs; rw [← hwhole]
      ac_rfl
    rw [hproduct]
    exact roundDiv_mul _ (Nat.mul_pos hden (pow_pos unit))
  have hlt : v / Nat.pow 2 unit < Nat.pow 2 53 := by
    apply Nat.div_lt_of_lt_mul
    rw [← pow_split]
    rw [Nat.div_one] at hspec
    rcases hspec with ⟨rfl, hlt⟩ | ⟨_, _, hlt⟩
    · exact hlt
    · exact hlt
  have hfits : ¬2045 < unit := by omega
  rw [hround, if_neg (Nat.ne_of_lt hlt), if_neg hfits]

end Exact

/-- The magnitude of a result, whether or not it was carried into the next unit. -/
theorem magnitude_of_roundScaled {negative : Bool} {num den : Nat} {x : Binary64}
    (h : roundScaled negative num den = some x) :
    x.magnitude =
      roundDiv num (den * Nat.pow 2 (unitFor num den)) * Nat.pow 2 (unitFor num den) := by
  unfold roundScaled at h
  dsimp only at h
  generalize roundDiv num (den * Nat.pow 2 (unitFor num den)) = m at h ⊢
  generalize unitFor num den = unit at h ⊢
  by_cases hcarry : m = Nat.pow 2 53
  · simp only [if_pos hcarry, Option.ite_none_left_eq_some, Option.some.injEq] at h
    obtain ⟨_, rfl⟩ := h
    have hnext : Nat.pow 2 52 * Nat.pow 2 (unit + 1) = Nat.pow 2 53 * Nat.pow 2 unit := by
      rw [← pow_split, ← pow_split]
      congr 1
      omega
    rw [hcarry]
    exact hnext
  · simp only [if_neg hcarry, Option.ite_none_left_eq_some, Option.some.injEq] at h
    obtain ⟨_, rfl⟩ := h
    rfl

/-- A multiple of a power of two is rounded to one. -/
theorem dvd_of_roundScaled {negative : Bool} {n k : Nat} {x : Binary64}
    (h : roundScaled negative (n * Nat.pow 2 k) 1 = some x) : Nat.pow 2 k ∣ x.magnitude := by
  rw [magnitude_of_roundScaled h, Nat.one_mul]
  generalize unitFor (n * Nat.pow 2 k) 1 = unit
  rcases Nat.le_total unit k with hunit | hunit
  · -- the unit divides the power, so nothing is rounded
    have hproduct : n * Nat.pow 2 k = n * Nat.pow 2 (k - unit) * Nat.pow 2 unit := by
      rw [Nat.mul_assoc, ← pow_split, Nat.sub_add_cancel hunit]
    rw [hproduct, roundDiv_mul _ (pow_pos unit), ← hproduct]
    exact Nat.dvd_mul_left _ n
  · exact Nat.dvd_mul_left_of_dvd (Nat.pow_dvd_pow 2 hunit) _

theorem scale_dvd_of_round {negative : Bool} {n : Nat} {x : Binary64}
    (h : round negative n 1 = some x) : scale ∣ x.magnitude := by
  obtain ⟨k, hk⟩ := scale_eq_pow
  rw [round, hk] at h
  rw [hk]
  exact dvd_of_roundScaled h

/-! ## Sums of halves -/

/-- The magnitude of a half. -/
def halfScale : Nat := Nat.pow 2 1073

theorem scale_eq : scale = halfScale * 2 := by decide +kernel

theorem halfScale_pos : 0 < halfScale := by decide +kernel

theorem halfScale_eq_pow : ∃ e ≤ 2045, halfScale = Nat.pow 2 e := ⟨1073, by decide, by decide +kernel⟩

/-- The fraction of `n` halves. -/
def halves (n : Nat) : Binary64 := exact false (n * halfScale)

theorem magnitude_halves {n : Nat} (hn : n < Nat.pow 2 53) : (halves n).magnitude = n * halfScale := by
  obtain ⟨e, _, he⟩ := halfScale_eq_pow
  rw [halves, he]
  exact magnitude_exact hn false

theorem roundScaled_halves {n : Nat} (hn : n < Nat.pow 2 53) {den : Nat} (hden : 0 < den) :
    roundScaled false (n * halfScale * den) den = some (halves n) := by
  obtain ⟨e, hle, he⟩ := halfScale_eq_pow
  rw [halves, he]
  exact roundScaled_exact hn hle false hden

theorem half?_eq {n : Nat} (hn : n < Nat.pow 2 53) : half? n = some (halves n) := by
  have hnum : n * scale = n * halfScale * 2 := by rw [scale_eq, Nat.mul_assoc]
  have hsign : decide ((n : Int) < 0) = false := decide_eq_false (by omega)
  rw [half?, round, Int.natAbs_natCast, hsign, hnum, roundScaled_halves hn (by decide)]

theorem ofInt?_eq {n : Nat} (hn : 2 * n < Nat.pow 2 53) : ofInt? n = some (halves (2 * n)) := by
  have hnum : n * scale = 2 * n * halfScale * 1 := by
    rw [scale_eq, Nat.mul_one, Nat.mul_comm 2 n, Nat.mul_assoc, Nat.mul_comm halfScale]
  have hsign : decide ((n : Int) < 0) = false := decide_eq_false (by omega)
  rw [ofInt?, round, Int.natAbs_natCast, hsign, hnum, roundScaled_halves hn (by decide)]

theorem add?_halves {a b : Nat} (h : a + b < Nat.pow 2 53) :
    (halves a).add? (halves b) = some (halves (a + b)) := by
  have hscaled : ∀ {n : Nat}, n < Nat.pow 2 53 → (halves n).scaled = (n * halfScale : Nat) := by
    intro n hn
    rw [← magnitude_halves hn]
    rfl
  have hsum : (halves a).scaled + (halves b).scaled = ((a + b) * halfScale * 1 : Nat) := by
    rw [hscaled (by omega), hscaled (by omega), Nat.mul_one, Nat.add_mul]
    rfl
  have hsign : decide ((((a + b) * halfScale * 1 : Nat) : Int) < 0) = false := decide_eq_false (by omega)
  have hnegative : (halves a).negative = false := rfl
  rw [add?, hsum, hsign, hnegative, Int.natAbs_natCast, Bool.and_false, Bool.false_and, Bool.or_false,
    roundScaled_halves h (by decide)]

/-- An odd number of halves is no integer. -/
theorem not_scale_dvd_halves {k : Nat} (hk : 2 * k + 1 < Nat.pow 2 53) :
    ¬scale ∣ (halves (2 * k + 1)).magnitude := by
  intro h
  rw [magnitude_halves hk, scale_eq, Nat.mul_comm (2 * k + 1)] at h
  have htwo := Nat.dvd_of_mul_dvd_mul_left halfScale_pos h
  omega

end Binary64

namespace Figures

open Binary64

/-! ## Figures that do not suffice -/

section Fraction

variable {x : Binary64} (hx : ¬scale ∣ x.magnitude)

include hx

/-- What is no integer is not read back from one. -/
theorem not_readsBack (c : Nat) {e : Int} (he : 0 ≤ e) : readsBack x c e = false := by
  rw [readsBack, shift, if_pos he]
  dsimp only
  rw [beq_eq_false_iff_ne]
  intro hround
  exact hx (scale_dvd_of_round hround)

theorem hit?_eq_none {point : Int} {n : Nat} (hn : n ≤ point) : hit? x point n = none := by
  have hnone : ∀ c, ¬readsBack x c (point - n) = true := by
    intro c
    rw [not_readsBack hx c (by omega)]
    exact Bool.false_ne_true
  unfold hit?
  dsimp only
  rw [if_neg (hnone _), if_neg (hnone _)]

end Fraction

theorem hit?_near {x : Binary64} {point e : Int} {n num den : Nat} (he : n - point = e)
    (hshift : shift x.magnitude scale e = (num, den))
    (hread : readsBack x (roundDiv num den) (-e) = true) :
    hit? x point n = some (ofCount (roundDiv num den) n point) := by
  subst he
  rw [Int.neg_sub] at hread
  unfold hit?
  rw [hshift]
  exact if_pos hread

/-- What is no integer is written with its figures. -/
theorem plainText_of_not_dvd {x : Binary64} (hsign : x.negative = false) (hx : ¬scale ∣ x.magnitude) :
    (Real64.finite x).plainText = String.ofList (full.write (shortest x)) := by
  have hint : x.toInt? = none := by
    rw [toInt?, if_neg fun hzero => hx (Nat.dvd_of_mod_eq_zero hzero)]
  simp only [Real64.plainText, hint]
  rw [fullText, signed, hsign, if_neg Bool.false_ne_true]

/-- The first hit of a search decides. -/
theorem findSome?_range {α : Type} {f : Nat → Option α} {a : α} {i : Nat} (hi : f i = some a)
    (hbefore : ∀ j < i, f j = none) {n : Nat} (hn : i < n) : (List.range n).findSome? f = some a := by
  obtain ⟨m, rfl⟩ := Nat.exists_eq_add_of_lt hn
  have hsplit : List.range (i + m + 1) = List.range i ++ i :: (List.range m).map (i + 1 + ·) := by
    rw [Nat.add_assoc, List.range_add, List.range_succ_eq_map, List.map_cons, List.map_map]
    congr 2
    apply List.map_congr_left
    intro j _
    show i + (j + 1) = i + 1 + j
    omega
  rw [List.findSome?_eq_some_iff]
  exact ⟨List.range i, i, _, hsplit, hi, fun j hj => hbefore j (List.mem_range.1 hj)⟩

/-! ## The figures of a half -/

theorem ten_halves (k : Nat) : (2 * k + 1) * halfScale * 10 = (10 * k + 5) * scale := by
  have hfive : 10 * k + 5 = (2 * k + 1) * 5 := by omega
  rw [scale_eq, hfive]
  generalize 2 * k + 1 = n
  rw [Nat.mul_assoc, Nat.mul_assoc, Nat.mul_left_comm 5]

theorem digits_five {k : Nat} (hpos : 0 < k) :
    Numeral.digits (10 * k + 5) = Numeral.digits k ++ ['5'] :=
  (Nat.toDigits_append_toDigits (by decide) hpos (by decide)).symm

theorem size_five {k : Nat} (hpos : 0 < k) : Numeral.size (10 * k + 5) = Numeral.size k + 1 := by
  rw [Numeral.size, digits_five hpos, List.length_append]
  rfl

section Half

variable {k : Nat} (hk : 2 * k + 1 < Nat.pow 2 53)

include hk

theorem readsBack_halves : readsBack (halves (2 * k + 1)) (10 * k + 5) (-1) = true := by
  have hshift : shift (10 * k + 5) 1 (-1) = (10 * k + 5, 10) := if_neg (by decide)
  have hnegative : (halves (2 * k + 1)).negative = false := rfl
  rw [readsBack, hshift, hnegative, Binary64.round, ← ten_halves, roundScaled_halves hk (by decide)]
  exact beq_self_eq_true _

theorem size_le_sixteen : Numeral.size k ≤ 16 := by
  have hlt : k < 10 ^ 16 := Nat.lt_trans (by omega : k < Nat.pow 2 53) (by decide)
  exact (Nat.length_toDigits_le_iff (by decide) (by decide)).2 hlt

/-- Up to sixteen figures before the point are written as they are. -/
theorem write_five :
    full.write ⟨Numeral.digits k ++ ['5'], Numeral.size k⟩ = Numeral.digits k ++ ['.', '5'] := by
  have hsize := size_le_sixteen hk
  have hpositive : 0 < Numeral.size k := List.length_pos_iff.2 Nat.toDigits_ne_nil
  have hstyle : full.low < (Numeral.size k : Int) ∧ (Numeral.size k : Int) ≤ full.high := by
    show (-4 : Int) < _ ∧ _ ≤ (16 : Int)
    omega
  have hpoint : (0 : Int) < Numeral.size k := Int.ofNat_lt.2 hpositive
  have hlength : Numeral.size k < (Numeral.digits k ++ ['5']).length := by
    rw [List.length_append]
    exact Nat.lt_succ_self _
  rw [Style.write, if_pos hstyle, if_pos hpoint, Int.toNat_natCast, withPoint, if_pos hlength,
    Numeral.size, List.take_left, List.drop_left]

variable (hpos : 0 < k)

include hpos

theorem pointOf_halves : pointOf (halves (2 * k + 1)).magnitude scale = Numeral.size k := by
  rw [magnitude_halves hk]
  have hdiv : (2 * k + 1) * halfScale / scale = k := by
    rw [scale_eq, Nat.mul_comm (2 * k + 1), Nat.mul_div_mul_left _ _ halfScale_pos]
    omega
  have hle : scale ≤ (2 * k + 1) * halfScale := by
    rw [scale_eq, Nat.mul_comm]
    exact Nat.mul_le_mul_right _ (by omega)
  rw [pointOf, if_pos hle, hdiv]

/-- One figure after the point is enough for a half. -/
theorem hit?_halves :
    hit? (halves (2 * k + 1)) (Numeral.size k) (Numeral.size k + 1) =
      some ⟨Numeral.digits k ++ ['5'], Numeral.size k⟩ := by
  have hone : ((Numeral.size k + 1 : Nat) : Int) - Numeral.size k = 1 := by omega
  have hshift : shift (halves (2 * k + 1)).magnitude scale 1 = ((10 * k + 5) * scale, scale) := by
    rw [magnitude_halves hk, ← ten_halves]
    exact if_pos (by decide)
  have hread := readsBack_halves hk
  rw [← roundDiv_mul (10 * k + 5) scale_pos] at hread
  rw [hit?_near hone hshift hread, roundDiv_mul _ scale_pos, ofCount, size_five hpos, digits_five hpos,
    dropZeros]
  simp

theorem shortest_halves :
    shortest (halves (2 * k + 1)) = ⟨Numeral.digits k ++ ['5'], Numeral.size k⟩ := by
  have hmagnitude := magnitude_halves hk
  have hne : (halves (2 * k + 1)).significand ≠ 0 := by
    intro hzero
    rw [magnitude, hzero, Nat.zero_mul] at hmagnitude
    have hhalf := halfScale_pos
    have hmul := Nat.mul_pos (by omega : 0 < 2 * k + 1) hhalf
    omega
  have hsize := size_le_sixteen hk
  -- with fewer figures it would have to be an integer
  have hbefore : ∀ j < Numeral.size k, hit? (halves (2 * k + 1)) (Numeral.size k) (j + 1) = none :=
    fun j hj => hit?_eq_none (not_scale_dvd_halves hk) (by omega)
  have hfind := findSome?_range (n := 17)
    (f := fun n => hit? (halves (2 * k + 1)) (Numeral.size k) (n + 1))
    (hit?_halves hk hpos) hbefore (by omega)
  rw [shortest_eq_getD hne, pointOf_halves hk hpos, hfind, Option.getD_some]

/-- A half of an odd number is written with a five after the point. -/
theorem plainText_half :
    (Real64.finite (halves (2 * k + 1))).plainText = String.ofList (Numeral.digits k ++ ['.', '5']) := by
  rw [plainText_of_not_dvd rfl (not_scale_dvd_halves hk), shortest_halves hk hpos, write_five hk]

end Half

end Figures

end RackElevation
