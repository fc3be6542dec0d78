/-
  Blank characters

  The characters that count as blank space wherever text is trimmed or blank
  space may stand between two parts of a line: the Unicode spaces, the line and
  paragraph separators, and the control characters U+0009–U+000D and
  U+001C–U+001F. Zero-width characters are not blank.

  What is proved:
    1. `trim_of_not_blank` — text with no blank character at either end is its
       own trimming.
    2. `isBlank_of_isWhitespace` — the ASCII blanks are among them.
-/

namespace RackElevation.Text

/-- Inclusive ranges of the code points of blank characters. -/
def blankRanges : List (Nat × Nat) :=
  [(0x09, 0x0D), (0x1C, 0x20), (0x85, 0x85), (0xA0, 0xA0), (0x1680, 0x1680),
   (0x2000, 0x200A), (0x2028, 0x2029), (0x202F, 0x202F), (0x205F, 0x205F),
   (0x3000, 0x3000)]

/-- Whether a code point lies in one of the ranges. -/
def inRanges (ranges : List (Nat × Nat)) (n : Nat) : Bool :=
  ranges.any fun r => r.1 ≤ n && n ≤ r.2

/-- Whether a character is blank space. -/
def isBlank (c : Char) : Bool := inRanges blankRanges c.toNat

/-- The text without the blanks it starts with. -/
def trimStart (s : List Char) : List Char := s.dropWhile isBlank

/-- The text without the blanks it ends with. -/
def trimEnd (s : List Char) : List Char := (s.reverse.dropWhile isBlank).reverse

/-- The text without the blanks at either end. -/
def trim (s : List Char) : List Char := trimEnd (trimStart s)

/-- Whether nothing is left of the text once it is trimmed. -/
def isBlankText (s : List Char) : Bool := s.all isBlank

theorem isBlank_of_isWhitespace (c : Char) (h : c.isWhitespace = true) : isBlank c = true := by
  simp only [Char.isWhitespace, Bool.or_eq_true, decide_eq_true_eq] at h
  rcases h with ((h | h) | h) | h <;> subst h <;> decide

theorem trimStart_of_not_blank {c : Char} (s : List Char) (h : isBlank c = false) :
    trimStart (c :: s) = c :: s := by
  simp [trimStart, h]

theorem trimEnd_of_not_blank {c : Char} (s : List Char) (h : isBlank c = false) :
    trimEnd (s ++ [c]) = s ++ [c] := by
  simp [trimEnd, h]

theorem trim_of_not_blank {s : List Char} (hfirst : ∀ c, s.head? = some c → isBlank c = false)
    (hlast : ∀ c, s.getLast? = some c → isBlank c = false) : trim s = s := by
  cases s with
  | nil => rfl
  | cons c r =>
    rw [trim, trimStart_of_not_blank r (hfirst c rfl)]
    have hne : c :: r ≠ [] := by simp
    have hl := hlast _ (List.getLast?_eq_some_getLast hne)
    rw [← List.dropLast_concat_getLast hne]
    exact trimEnd_of_not_blank _ hl

end RackElevation.Text
