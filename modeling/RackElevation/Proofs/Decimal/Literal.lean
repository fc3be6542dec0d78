import RackElevation.Decimal.Figures
import RackElevation.Proofs.Decimal.Notation
import RackElevation.Proofs.Text.Escaping

/-
  Numbers as they are written

  The text of a number consists of digits, signs, a point and the letter of an
  exponent. None of them is special in a document, so a number stands there as
  it is.

  What is proved:
    1. `literal_integer` — the text of an integer needs no escaping.
    2. `literal_plainText`, `literal_briefText` — nor does the text of a fraction.
-/

namespace RackElevation

/-- Every character of a text is written as it stands. -/
def Entity.Literal (s : String) : Prop := ∀ c ∈ s.toList, Entity.isPlain c = true

instance (s : String) : Decidable (Entity.Literal s) :=
  List.decidableBAll _ s.toList

/-- Whether a character may stand in the text of a number. -/
def isNumberChar (c : Char) : Bool := c.isDigit || c == '-' || c == '+' || c == '.' || c == 'e'

open Entity

theorem literal_append {s t : String} (hs : Literal s) (ht : Literal t) : Literal (s ++ t) := by
  intro c hc
  rw [String.toList_append] at hc
  exact (List.mem_append.1 hc).elim (hs c) (ht c)

theorem isPlain_of_isDigit {c : Char} (h : c.isDigit = true) : isPlain c = true := by
  have hdrop : ¬isDropped c = true := by
    intro hd
    simp only [isDropped, Bool.and_eq_true, decide_eq_true_eq] at hd
    have hlow : c.toNat < 32 := hd.1.1.1
    have hhigh : 48 ≤ c.toNat := (Char.isDigit_iff_toNat.1 h).1
    omega
  have hne : ∀ d : Char, d.isDigit = false → c ≠ d := by
    rintro d hd rfl
    rw [h] at hd
    exact Bool.noConfusion hd
  simp only [isPlain, escapeChar, if_neg hdrop, if_neg (hne '&' rfl), if_neg (hne '<' rfl),
    if_neg (hne '>' rfl), if_neg (hne '"' rfl), if_neg (hne '\'' rfl), beq_self_eq_true]

theorem isPlain_of_isNumberChar {c : Char} (h : isNumberChar c = true) : isPlain c = true := by
  simp only [isNumberChar, Bool.or_eq_true, beq_iff_eq] at h
  rcases h with (((h | rfl) | rfl) | rfl) | rfl
  · exact isPlain_of_isDigit h
  all_goals decide

theorem isNumberChar_of_isDigit {c : Char} (h : c.isDigit = true) : isNumberChar c = true := by
  simp [isNumberChar, h]

/-! ## Integers -/

theorem isDigit_of_mem_digits {n : Nat} {c : Char} (h : c ∈ Numeral.digits n) : c.isDigit = true :=
  Nat.isDigit_of_mem_toDigits (by decide) (by decide) h

theorem mem_toString_int {n : Int} {c : Char} (h : c ∈ (toString n).toList) :
    isNumberChar c = true := by
  have hdigits : ∀ m : Nat, c ∈ Numeral.digits m → isNumberChar c = true :=
    fun m hm => isNumberChar_of_isDigit (isDigit_of_mem_digits hm)
  cases n with
  | ofNat m =>
    rw [Int.ofNat_eq_natCast, Numeral.toList_toString] at h
    exact hdigits m h
  | negSucc m =>
    rw [Numeral.toList_toString_negSucc] at h
    rcases List.mem_cons.1 h with rfl | h
    · rfl
    · exact hdigits _ h

theorem literal_integer (n : Int) : Literal (toString n) :=
  fun _ h => isPlain_of_isNumberChar (mem_toString_int h)

/-! ## Fractions -/

theorem mem_of_mem_dropZeros {s : List Char} {c : Char} (h : c ∈ Figures.dropZeros s) : c ∈ s := by
  have h := (List.dropWhile_suffix _).subset (List.mem_reverse.1 h)
  exact List.mem_reverse.1 h

theorem isDigit_of_hit? {x : Binary64} {point : Int} {n : Nat} {f : Figures}
    (h : Figures.hit? x point n = some f) : ∀ c ∈ f.digits, c.isDigit = true := by
  obtain ⟨k, rfl⟩ : ∃ k, f = Figures.ofCount k n point := by
    unfold Figures.hit? at h
    extract_lets q c near far at h
    split at h
    · exact ⟨near, (Option.some.inj h).symm⟩
    split at h
    · exact ⟨far, (Option.some.inj h).symm⟩
    · exact absurd h (by simp)
  exact fun c hc => isDigit_of_mem_digits (mem_of_mem_dropZeros hc)

/-- Zero stands in where no figures are found. -/
theorem isDigit_of_mem_getD {found : Option Figures}
    (h : ∀ f, found = some f → ∀ c ∈ f.digits, c.isDigit = true) :
    ∀ c ∈ (found.getD ⟨['0'], 1⟩).digits, c.isDigit = true := by
  cases found with
  | none => exact List.forall_mem_singleton.2 rfl
  | some f => exact h f rfl

theorem shortest_eq_getD {x : Binary64} (h : x.significand ≠ 0) :
    Figures.shortest x = ((List.range 17).findSome? fun n =>
      Figures.hit? x (Figures.pointOf x.magnitude Binary64.scale) (n + 1)).getD ⟨['0'], 1⟩ := by
  rw [Figures.shortest, if_neg h]

theorem isDigit_of_mem_shortest (x : Binary64) :
    ∀ c ∈ (Figures.shortest x).digits, c.isDigit = true := by
  by_cases hx : x.significand = 0
  · rw [Figures.shortest, if_pos hx]
    exact List.forall_mem_singleton.2 rfl
  · rw [shortest_eq_getD hx]
    apply isDigit_of_mem_getD
    intro f hf
    obtain ⟨n, _, hn⟩ := List.exists_of_findSome?_eq_some hf
    exact isDigit_of_hit? hn

theorem isNumberChar_withPoint {k : Nat} {s : List Char} {keepPoint : Bool}
    (hs : ∀ c ∈ s, c.isDigit = true) :
    ∀ c ∈ Figures.withPoint k s keepPoint, isNumberChar c = true := by
  have hmem : ∀ c ∈ s, isNumberChar c = true := fun c hc => isNumberChar_of_isDigit (hs c hc)
  intro c hc
  unfold Figures.withPoint at hc
  split at hc
  · rcases List.mem_append.1 hc with hc | hc
    · exact hmem c (List.mem_of_mem_take hc)
    rcases List.mem_cons.1 hc with rfl | hc
    · rfl
    · exact hmem c (List.mem_of_mem_drop hc)
  · have hwhole : ∀ c ∈ s ++ List.replicate (k - s.length) '0', isNumberChar c = true := by
      intro c hc
      rcases List.mem_append.1 hc with hc | hc
      · exact hmem c hc
      · rw [List.eq_of_mem_replicate hc]
        rfl
    split at hc
    · rcases List.mem_append.1 hc with hc | hc
      · exact hwhole c hc
      · simp only [List.mem_cons, List.not_mem_nil, or_false] at hc
        rcases hc with rfl | rfl <;> rfl
    · exact hwhole c hc

theorem isNumberChar_exponentText {e : Int} : ∀ c ∈ Figures.exponentText e, isNumberChar c = true := by
  intro c hc
  have hdigits : ∀ c ∈ Numeral.digits e.natAbs, isNumberChar c = true :=
    fun c hc => isNumberChar_of_isDigit (isDigit_of_mem_digits hc)
  simp only [Figures.exponentText] at hc
  rcases List.mem_cons.1 hc with rfl | hc
  · split <;> rfl
  split at hc
  · rcases List.mem_cons.1 hc with rfl | hc
    · rfl
    · exact hdigits c hc
  · exact hdigits c hc

theorem isNumberChar_write {s : Figures.Style} {f : Figures} (hf : ∀ c ∈ f.digits, c.isDigit = true) :
    ∀ c ∈ s.write f, isNumberChar c = true := by
  intro c hc
  unfold Figures.Style.write at hc
  split at hc
  · split at hc
    · exact isNumberChar_withPoint hf c hc
    · simp only [List.mem_cons, List.mem_append] at hc
      rcases hc with rfl | rfl | hc | hc
      · rfl
      · rfl
      · rw [List.eq_of_mem_replicate hc]
        rfl
      · exact isNumberChar_of_isDigit (hf c hc)
  · rcases List.mem_append.1 hc with hc | hc
    · exact isNumberChar_withPoint hf c hc
    rcases List.mem_cons.1 hc with rfl | hc
    · rfl
    · exact isNumberChar_exponentText c hc

theorem isDigit_of_mem_rounded (n : Nat) (x : Binary64) :
    ∀ c ∈ (Figures.rounded n x).digits, c.isDigit = true := by
  unfold Figures.rounded
  split
  · exact List.forall_mem_singleton.2 rfl
  · exact fun c hc => isDigit_of_mem_digits (mem_of_mem_dropZeros hc)

theorem isNumberChar_signed {negative : Bool} {s : List Char}
    (h : ∀ c ∈ s, isNumberChar c = true) :
    ∀ c ∈ (Figures.signed negative s).toList, isNumberChar c = true := by
  intro c hc
  rw [Figures.signed, String.toList_ofList] at hc
  split at hc
  · rcases List.mem_cons.1 hc with rfl | hc
    · rfl
    · exact h c hc
  · exact h c hc

theorem isNumberChar_plainText (x : Binary64) :
    ∀ c ∈ (Real64.finite x).plainText.toList, isNumberChar c = true := by
  cases hx : x.toInt? with
  | some n =>
    have htext : (Real64.finite x).plainText = toString n := by simp only [Real64.plainText, hx]
    rw [htext]
    exact fun c hc => mem_toString_int hc
  | none =>
    have htext : (Real64.finite x).plainText = x.fullText := by simp only [Real64.plainText, hx]
    rw [htext]
    exact isNumberChar_signed (isNumberChar_write (isDigit_of_mem_shortest x))

theorem isNumberChar_briefText (x : Binary64) :
    ∀ c ∈ (Real64.finite x).briefText.toList, isNumberChar c = true :=
  isNumberChar_signed (isNumberChar_write (isDigit_of_mem_rounded 6 x))

theorem literal_plainText (x : Binary64) : Literal (Real64.finite x).plainText :=
  fun c hc => isPlain_of_isNumberChar (isNumberChar_plainText x c hc)

theorem literal_briefText (x : Real64) : Literal x.briefText := by
  cases x with
  | finite x => exact fun c hc => isPlain_of_isNumberChar (isNumberChar_briefText x c hc)
  | infinite negative => cases negative <;> decide
  | undefined => decide

end RackElevation
