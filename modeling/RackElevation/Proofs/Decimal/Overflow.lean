import RackElevation.Decimal.Binary64

/-
  Results that are too large

  A quotient is rounded to no finite fraction exactly if it is at least halfway
  between the largest fraction and the power of two above it: the largest has an
  odd significand, so a tie goes up. A small number added to a fraction never
  reaches that point.

  What is proved:
    1. `roundScaled_eq_none_iff` — the exact bound for a quotient.
    2. `ofInt?_isSome_iff`, `half?_isSome_iff` — the exact bounds for an integer
       and for half of one.
    3. `add?_isSome` — a fraction stays finite when a small one is added.
-/

namespace RackElevation.Binary64

/-- The largest magnitude whose unit is at most `last + 1`. -/
def largestIn (last : Nat) : Nat := (Nat.pow 2 53 - 1) * Nat.pow 2 (last + 1)

/-- Halfway between the largest magnitude in the unit `last + 1` and the power of two above it. -/
def tooLargeIn (last : Nat) : Nat := (Nat.pow 2 54 - 1) * Nat.pow 2 last

/-- The largest magnitude of a fraction. -/
def largest : Nat := largestIn 2044

/-- The least count of smallest magnitudes that is too large to be rounded to a fraction. -/
def tooLarge : Nat := tooLargeIn 2044

/-! ## Rounding a quotient -/

theorem roundDiv_cases (num den : Nat) :
    (2 * (num % den) < den ∧ roundDiv num den = num / den) ∨
    (den < 2 * (num % den) ∧ roundDiv num den = num / den + 1) ∨
    (2 * (num % den) = den ∧ roundDiv num den = num / den + num / den % 2) := by
  rcases Nat.lt_trichotomy (2 * (num % den)) den with hlt | heq | hgt
  · exact .inl ⟨hlt, by simp [roundDiv, hlt]⟩
  · exact .inr (.inr ⟨heq, by simp [roundDiv, heq]⟩)
  · exact .inr (.inl ⟨hgt, by simp [roundDiv, hgt, Nat.lt_asymm hgt]⟩)

theorem roundDiv_le {num den k : Nat} (h : num / den < k) : roundDiv num den ≤ k := by
  rcases roundDiv_cases num den with ⟨_, hround⟩ | ⟨_, hround⟩ | ⟨_, hround⟩ <;> omega

/-- Above an odd number a tie is rounded up. -/
theorem lt_roundDiv_iff {num den c : Nat} (hc : c % 2 = 1) (hden : 0 < den) :
    c < roundDiv num den ↔ (2 * c + 1) * den ≤ 2 * num := by
  have hnum : den * (num / den) + num % den = num := Nat.div_add_mod num den
  have hmod : num % den < den := Nat.mod_lt num hden
  have hexpand : (2 * c + 1) * den = 2 * (den * c) + den := by
    rw [Nat.add_mul, Nat.one_mul, Nat.mul_assoc, Nat.mul_comm c den]
  have hround := roundDiv_cases num den
  rw [hexpand]
  -- the quotient is below, at or above `c`, and only at `c` does the remainder decide
  rcases Nat.lt_trichotomy (num / den) c with hlt | heq | hgt
  · have hstep : den * (num / den) + den ≤ den * c := by
      rw [← Nat.mul_succ]
      exact Nat.mul_le_mul_left den hlt
    omega
  · rw [heq] at hnum hround
    omega
  · have hstep : den * c + den ≤ den * (num / den) := by
      rw [← Nat.mul_succ]
      exact Nat.mul_le_mul_left den hgt
    omega

section Units

variable {num den : Nat}

/-- The unit is the least one in which the quotient has at most 53 bits. -/
theorem unitFor_spec (num den : Nat) :
    (unitFor num den = 0 ∧ num / den < Nat.pow 2 53) ∨
    (0 < unitFor num den ∧ Nat.pow 2 (unitFor num den + 52) ≤ num / den ∧
      num / den < Nat.pow 2 (unitFor num den + 53)) := by
  by_cases hsmall : num / den < Nat.pow 2 53
  · exact .inl ⟨if_pos hsmall, hsmall⟩
  · have hunit : unitFor num den = Nat.log2 (num / den) - 52 := if_neg hsmall
    have hle : Nat.pow 2 53 ≤ num / den := Nat.le_of_not_lt hsmall
    have hne : num / den ≠ 0 := Nat.ne_of_gt (Nat.lt_of_lt_of_le (Nat.two_pow_pos 53) hle)
    have hlog : 53 ≤ Nat.log2 (num / den) := (Nat.le_log2 hne).2 hle
    have hlow : unitFor num den + 52 = Nat.log2 (num / den) := by omega
    have hhigh : unitFor num den + 53 = Nat.log2 (num / den) + 1 := by omega
    refine .inr ⟨by omega, ?_, ?_⟩
    · rw [hlow]
      exact Nat.log2_self_le hne
    · rw [hhigh]
      exact Nat.lt_log2_self

theorem pow_pos (k : Nat) : 0 < Nat.pow 2 k := Nat.two_pow_pos k

theorem pow_split (a b : Nat) : Nat.pow 2 (a + b) = Nat.pow 2 a * Nat.pow 2 b := Nat.pow_add 2 a b

theorem div_unit_lt (num den : Nat) :
    num / (den * Nat.pow 2 (unitFor num den)) < Nat.pow 2 53 := by
  rw [← Nat.div_div_eq_div_mul]
  rcases unitFor_spec num den with ⟨hunit, hlt⟩ | ⟨_, _, hlt⟩
  · rwa [hunit, show Nat.pow 2 0 = 1 from rfl, Nat.div_one]
  · apply Nat.div_lt_of_lt_mul
    rwa [← pow_split]

/-- A quotient has no fraction if its unit is beyond the last, or if it is rounded up from the last
significand of the last unit. -/
theorem roundScaled_eq_none (negative : Bool) (num den : Nat) :
    roundScaled negative num den = none ↔
      2045 < unitFor num den ∨ unitFor num den = 2045 ∧
        Nat.pow 2 53 - 1 < roundDiv num (den * Nat.pow 2 (unitFor num den)) := by
  have hle := roundDiv_le (div_unit_lt num den)
  have hpos : 0 < Nat.pow 2 53 := pow_pos 53
  unfold roundScaled
  dsimp only
  generalize roundDiv num (den * Nat.pow 2 (unitFor num den)) = m at hle ⊢
  generalize unitFor num den = unit
  -- rounding up to the next power of two costs one more unit
  by_cases hm : m = Nat.pow 2 53
  · simp only [if_pos hm, ite_eq_left_iff, reduceCtorEq, imp_false, Decidable.not_not]
    omega
  · simp only [if_neg hm, ite_eq_left_iff, reduceCtorEq, imp_false, Decidable.not_not]
    omega

section Last

variable {last : Nat}

/-- Below the last unit a quotient is not too large. -/
theorem lt_of_unit_lt (hden : 0 < den) (h : unitFor num den < last + 1) :
    num < tooLargeIn last * den := by
  have hlt : num / den < Nat.pow 2 (53 + last) := by
    rcases unitFor_spec num den with ⟨_, hlt⟩ | ⟨_, _, hlt⟩
    · exact Nat.lt_of_lt_of_le hlt (Nat.pow_le_pow_right (by decide) (by omega))
    · exact Nat.lt_of_lt_of_le hlt (Nat.pow_le_pow_right (by decide) (by omega))
  have hle : Nat.pow 2 (53 + last) ≤ tooLargeIn last := by
    rw [pow_split, tooLargeIn]
    exact Nat.mul_le_mul_right _ (by decide)
  calc num < Nat.pow 2 (53 + last) * den := (Nat.div_lt_iff_lt_mul hden).1 hlt
    _ ≤ tooLargeIn last * den := Nat.mul_le_mul_right den hle

/-- Beyond the last unit a quotient is too large. -/
theorem le_of_lt_unit (hden : 0 < den) (h : last + 1 < unitFor num den) :
    tooLargeIn last * den ≤ num := by
  have hle : Nat.pow 2 (54 + last) ≤ num / den := by
    rcases unitFor_spec num den with ⟨_, _⟩ | ⟨_, hle, _⟩
    · omega
    · exact Nat.le_trans (Nat.pow_le_pow_right (by decide) (by omega)) hle
  have hlarge : tooLargeIn last ≤ Nat.pow 2 (54 + last) := by
    rw [pow_split, tooLargeIn]
    exact Nat.mul_le_mul_right _ (Nat.sub_le _ 1)
  calc tooLargeIn last * den ≤ Nat.pow 2 (54 + last) * den :=
        Nat.mul_le_mul_right den hlarge
    _ ≤ num := (Nat.le_div_iff_mul_le hden).1 hle

/-- In the last unit a quotient is too large if it is rounded up from the last significand. -/
theorem lt_roundDiv_last_iff (hden : 0 < den) :
    Nat.pow 2 53 - 1 < roundDiv num (den * Nat.pow 2 (last + 1)) ↔
      tooLargeIn last * den ≤ num := by
  have hodd : (Nat.pow 2 53 - 1) % 2 = 1 := by decide
  have hhalf : 2 * (Nat.pow 2 53 - 1) + 1 = Nat.pow 2 54 - 1 := by decide
  have hunit : 0 < den * Nat.pow 2 (last + 1) := Nat.mul_pos hden (pow_pos (last + 1))
  have htwice : (Nat.pow 2 54 - 1) * (den * Nat.pow 2 (last + 1)) =
      2 * (tooLargeIn last * den) := by
    rw [tooLargeIn, show Nat.pow 2 (last + 1) = Nat.pow 2 last * 2 from rfl]
    ac_rfl
  rw [lt_roundDiv_iff hodd hunit, hhalf, htwice]
  omega

/-- What the largest magnitude lacks to be too large. -/
theorem largestIn_add (last : Nat) : largestIn last + Nat.pow 2 last = tooLargeIn last := by
  have hodd : 2 * (Nat.pow 2 53 - 1) + 1 = Nat.pow 2 54 - 1 := by decide
  rw [largestIn, tooLargeIn, ← hodd, show Nat.pow 2 (last + 1) = Nat.pow 2 last * 2 from rfl]
  generalize Nat.pow 2 last = p
  generalize Nat.pow 2 53 - 1 = q
  rw [Nat.add_mul, Nat.one_mul]
  congr 1
  ac_rfl

/-- A quotient is too large beyond the last unit, and in it if it is rounded up. -/
theorem beyond_last_iff (hden : 0 < den) :
    (last + 1 < unitFor num den ∨ unitFor num den = last + 1 ∧
      Nat.pow 2 53 - 1 < roundDiv num (den * Nat.pow 2 (unitFor num den))) ↔
      tooLargeIn last * den ≤ num := by
  -- below the last unit nothing overflows, beyond it everything does
  rcases Nat.lt_trichotomy (unitFor num den) (last + 1) with hlt | heq | hgt
  · have hfits := lt_of_unit_lt hden hlt
    omega
  · rw [heq, lt_roundDiv_last_iff hden]
    omega
  · have hlarge := le_of_lt_unit hden hgt
    omega

/-- What is small beside the largest magnitude does not make it too large. -/
theorem add_lt_tooLargeIn {a b : Nat} (ha : a ≤ largestIn last) (hb : b < Nat.pow 2 last) :
    a + b < tooLargeIn last := by
  have htop := largestIn_add last
  omega

theorem magnitude_le_largestIn {x : Binary64} (hs : x.significand < Nat.pow 2 53)
    (hu : x.unit ≤ last + 1) : x.magnitude ≤ largestIn last :=
  Nat.mul_le_mul (Nat.le_sub_one_of_lt hs) (Nat.pow_le_pow_right (by decide) hu)

end Last

theorem roundScaled_eq_none_iff {negative : Bool} (hden : 0 < den) :
    roundScaled negative num den = none ↔ tooLarge * den ≤ num := by
  rw [roundScaled_eq_none, tooLarge, ← beyond_last_iff hden]

theorem magnitude_le {negative : Bool} {x : Binary64} (h : roundScaled negative num den = some x) :
    x.magnitude ≤ largest := by
  have hle := roundDiv_le (div_unit_lt num den)
  unfold roundScaled at h
  dsimp only at h
  generalize roundDiv num (den * Nat.pow 2 (unitFor num den)) = m at hle h
  generalize unitFor num den = unit at h
  by_cases hm : m = Nat.pow 2 53
  · simp only [if_pos hm, Option.ite_none_left_eq_some, Option.some.injEq] at h
    obtain ⟨hunit, rfl⟩ := h
    exact magnitude_le_largestIn (by decide : Nat.pow 2 52 < Nat.pow 2 53) (Nat.le_of_not_lt hunit)
  · simp only [if_neg hm, Option.ite_none_left_eq_some, Option.some.injEq] at h
    obtain ⟨hunit, rfl⟩ := h
    exact magnitude_le_largestIn (Nat.lt_of_le_of_ne hle hm) (Nat.le_of_not_lt hunit)

end Units

/-! ## Integers and halves -/

theorem isSome_iff_lt {negative : Bool} {num den : Nat} (hden : 0 < den) :
    (roundScaled negative num den).isSome = true ↔ num < tooLarge * den := by
  rw [Option.isSome_iff_ne_none, Ne, roundScaled_eq_none_iff hden, Nat.not_le]

/-- The least magnitude of an integer that is too large to be rounded to a fraction. -/
def tooLargeInt : Nat := Nat.pow 2 1024 - Nat.pow 2 970

theorem scale_eq_pow : ∃ k, scale = Nat.pow 2 k := ⟨1074, by decide +kernel⟩

theorem scale_pos : 0 < scale := by decide +kernel

theorem tooLarge_eq : tooLarge = tooLargeInt * scale := by decide +kernel

theorem ofInt?_isSome_iff {n : Int} : (ofInt? n).isSome = true ↔ n.natAbs < tooLargeInt := by
  rw [ofInt?, round, isSome_iff_lt Nat.one_pos, tooLarge_eq, Nat.mul_one]
  exact Nat.mul_lt_mul_right scale_pos

theorem half?_isSome_iff {n : Int} : (half? n).isSome = true ↔ n.natAbs < 2 * tooLargeInt := by
  rw [half?, round, isSome_iff_lt (by decide : 0 < 2), tooLarge_eq, Nat.mul_right_comm,
    Nat.mul_comm tooLargeInt 2]
  exact Nat.mul_lt_mul_right scale_pos

/-! ## Sums -/

theorem natAbs_add_le (x y : Binary64) :
    (x.scaled + y.scaled).natAbs ≤ x.magnitude + y.magnitude := by
  unfold scaled
  split <;> split <;> omega

/-- A sum with a small fraction stays finite. -/
theorem add?_isSome {x y : Binary64} (hx : x.magnitude ≤ largest)
    (hy : y.magnitude < Nat.pow 2 2044) : (x.add? y).isSome = true := by
  unfold largest at hx
  rw [add?, isSome_iff_lt Nat.one_pos, Nat.mul_one, tooLarge]
  generalize 2044 = last at hx hy ⊢
  exact Nat.lt_of_le_of_lt (natAbs_add_le x y) (add_lt_tooLargeIn hx hy)

end RackElevation.Binary64
