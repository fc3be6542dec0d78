import Mathlib.Data.List.DropRight
import RackElevation.Proofs.Text.Runs

/-
  Trimming

  A trimmed text starts and ends with characters that are not blank, so trimming
  it again changes nothing. Trimming does not look past such a character: what
  stands before one keeps its end, and what stands after one keeps its start.

  What is proved:
    1. `trimEnd_append_cons`, `trim_append_cons` — a character that is not blank
       protects what stands before it.
    2. `trim_trimEnd`, `trim_trim` — trimming an end first, or twice, makes no
       difference.
-/

namespace RackElevation.Text

theorem trimEnd_append_cons {c : Char} (hc : isBlank c = false) (s t : List Char) :
    trimEnd (s ++ c :: t) = s ++ c :: trimEnd t := by
  have hreverse : (s ++ c :: t).reverse = t.reverse ++ c :: s.reverse := by simp
  rw [trimEnd, hreverse, List.dropWhile_append]
  by_cases hempty : (t.reverse.dropWhile isBlank).isEmpty = true
  · have ht : trimEnd t = [] := by
      rw [trimEnd, List.isEmpty_iff.1 hempty, List.reverse_nil]
    have hstop : ¬isBlank c = true := by simp [hc]
    rw [if_pos hempty, List.dropWhile_cons_of_neg hstop, ht]
    simp
  · rw [if_neg hempty, trimEnd]
    simp

theorem trimEnd_cons {c : Char} (hc : isBlank c = false) (t : List Char) :
    trimEnd (c :: t) = c :: trimEnd t := trimEnd_append_cons hc [] t

theorem trimEnd_blanks {s : List Char} (h : Blanks s) : trimEnd s = [] :=
  List.rdropWhile_eq_nil_iff.2 h

theorem trimEnd_trimEnd (s : List Char) : trimEnd (trimEnd s) = trimEnd s :=
  List.rdropWhile_idempotent isBlank s

theorem trimStart_blanks {s : List Char} (h : Blanks s) : trimStart s = [] :=
  List.dropWhile_eq_nil_iff.2 h

theorem trim_blanks {s : List Char} (h : Blanks s) : trim s = [] := by
  rw [trim, trimStart_blanks h]
  rfl

/-- A text is blank, or it has a first character that is not. -/
theorem blanks_or_cons (s : List Char) :
    Blanks s ∨ ∃ blanks c r, s = blanks ++ c :: r ∧ Blanks blanks ∧ isBlank c = false := by
  cases hs : trimStart s with
  | nil => exact .inl (List.dropWhile_eq_nil_iff.1 hs)
  | cons c r =>
    obtain ⟨blanks, hsplit, hblanks⟩ := eq_blanks_append hs
    have hc : isBlank c = false := by
      have hhead := head_dropWhile (p := isBlank) s c
      rw [trimStart] at hs
      rw [hs] at hhead
      exact hhead rfl
    exact .inr ⟨blanks, c, r, hsplit, hblanks, hc⟩

/-- What is left of a text starts with its first character that is not blank. -/
theorem trim_append_blanks {blanks : List Char} (h : Blanks blanks) {c : Char}
    (hc : isBlank c = false) (r : List Char) : trim (blanks ++ c :: r) = c :: trimEnd r := by
  rw [trim, trimStart_append h hc, trimEnd_cons hc]

theorem trim_trimEnd (s : List Char) : trim (trimEnd s) = trim s := by
  rcases blanks_or_cons s with h | ⟨blanks, c, r, rfl, hblanks, hc⟩
  · rw [trimEnd_blanks h, trim_blanks h]
    rfl
  · rw [trimEnd_append_cons hc, trim_append_blanks hblanks hc, trim_append_blanks hblanks hc,
      trimEnd_trimEnd]

theorem trim_trim (s : List Char) : trim (trim s) = trim s := by
  rcases blanks_or_cons s with h | ⟨blanks, c, r, rfl, hblanks, hc⟩
  · rw [trim_blanks h]
    rfl
  · rw [trim_append_blanks hblanks hc]
    have htrim := trim_append_blanks blanks_nil hc (trimEnd r)
    rwa [trimEnd_trimEnd, List.nil_append] at htrim

theorem trim_blank_cons {c : Char} (hc : isBlank c = true) (s : List Char) :
    trim (c :: s) = trim s := by
  rw [trim, trimStart, List.dropWhile_cons_of_pos hc]
  rfl

/-- A text that starts with no blank keeps all that stands before a character that is not blank. -/
theorem trim_append_cons {s : List Char} {c : Char} (hc : isBlank c = false)
    (hs : ∀ d ∈ s.head?, isBlank d = false) (t : List Char) :
    trim (s ++ c :: t) = s ++ c :: trimEnd t := by
  have hstart : trimStart (s ++ c :: t) = s ++ c :: t := by
    cases s with
    | nil => exact trimStart_of_not_blank t hc
    | cons d s => exact trimStart_of_not_blank _ (hs d rfl)
  rw [trim, hstart, trimEnd_append_cons hc]

theorem trim_trimEnd_cons {c : Char} (hc : isBlank c = true) (s : List Char) :
    trim (trimEnd (c :: s)) = trim s := by
  rw [trim_trimEnd, trim_blank_cons hc]

/-- What is left of a text starts as the text does. -/
theorem head_trimEnd {s : List Char} : ∀ c ∈ (trimEnd s).head?, c ∈ s.head? := by
  intro c hc
  have hprefix : trimEnd s <+: s := List.rdropWhile_prefix isBlank s
  obtain ⟨r, hr⟩ := hprefix
  rw [← hr, List.head?_append, Option.mem_def.1 hc]
  rfl

end RackElevation.Text
