/-
  Lines of a text

  A line ends at CR LF, at a lone CR or at LF; the last line is what follows the
  last of these, so a text always has at least one line.

  What is proved:
    1. `lines_ne_nil` — a text has at least one line.
    2. `not_mem_break_of_mem_lines` — no line holds a line break.
-/

namespace RackElevation.Text

/-- Puts a character in front of the first line. -/
def consFirst (c : Char) : List (List Char) → List (List Char)
  | [] => [[c]]
  | l :: ls => (c :: l) :: ls

/-- The lines of a text, without their line breaks. -/
def lines : List Char → List (List Char)
  | [] => [[]]
  | '\r' :: '\n' :: r => [] :: lines r
  | c :: r => if c = '\r' ∨ c = '\n' then [] :: lines r else consFirst c (lines r)

/-- The text with every line break turned into LF. -/
def unifyBreaks : List Char → List Char
  | [] => []
  | '\r' :: '\n' :: r => '\n' :: unifyBreaks r
  | c :: r => (if c = '\r' then '\n' else c) :: unifyBreaks r

theorem lines_ne_nil (s : List Char) : lines s ≠ [] := by
  fun_induction lines s with
  | case1 => simp
  | case2 => simp
  | case3 => simp
  | case4 c r _ _ _ => cases h : lines r <;> simp [consFirst]

theorem not_mem_break_of_mem_lines {s l : List Char} (h : l ∈ lines s) :
    '\r' ∉ l ∧ '\n' ∉ l := by
  fun_induction lines s generalizing l with
  | case1 => simp_all
  | case2 r ih => rcases List.mem_cons.1 h with rfl | h <;> simp_all
  | case3 c r _ _ ih => rcases List.mem_cons.1 h with rfl | h <;> simp_all
  | case4 c r _ hc ih =>
    have hc' : '\r' ≠ c ∧ '\n' ≠ c := ⟨fun e => hc (Or.inl e.symm), fun e => hc (Or.inr e.symm)⟩
    cases hl : lines r with
    | nil => simp_all [consFirst]
    | cons x xs =>
      rw [hl] at h ih
      rcases List.mem_cons.1 h with rfl | h
      · have := ih (l := x) (by simp)
        simp_all
      · exact ih (by simp [h])

end RackElevation.Text
