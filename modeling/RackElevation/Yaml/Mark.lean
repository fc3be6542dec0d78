/-
  Marks

  A mark is a place in a text: how many characters come before it, and its line
  and column, counted from zero. A mark is shown with the line it is on, cut to
  a window around it, and a caret below.

  What is proved:
    1. `window_length` — a window never has more than 36 characters.
-/

namespace RackElevation.Yaml

/-- Whether a character ends a line. -/
def isBreak (c : Char) : Bool :=
  c == '\n' || c == '\r' || c == '\x85' || c == '\u2028' || c == '\u2029'

/-- A place in a text. -/
structure Mark where
  index : Nat := 0
  line : Nat := 0
  column : Nat := 0
  deriving DecidableEq, Repr, Inhabited

namespace Mark

/-- The place after a character, which `next` follows. A byte order mark takes no column, and a
carriage return ends no line if a line feed follows. -/
def after (m : Mark) (c : Char) (next : Option Char) : Mark :=
  if isBreak c && !(c == '\r' && next == some '\n') then ⟨m.index + 1, m.line + 1, 0⟩
  else if c == '\ufeff' then { m with index := m.index + 1 }
  else ⟨m.index + 1, m.line, m.column + 1⟩

/-- The characters of a side of the mark that are shown: up to the break, or the nearest 32 if
there are more than 36. -/
def window (side : List Char) : List Char × Bool :=
  let line := side.takeWhile fun c => !isBreak c
  if 36 < line.length then (line.take 32, true) else (line, false)

/-- The line of the mark in a text, with a caret under the mark. -/
def snippet (text : List Char) (m : Mark) : String :=
  let (before, cutBefore) := window (text.take m.index).reverse
  let (after, cutAfter) := window (text.drop m.index)
  let head := if cutBefore then " ... " else ""
  let tail := if cutAfter then " ... " else ""
  "    " ++ head ++ String.ofList (before.reverse ++ after) ++ tail ++ "\n" ++
    String.ofList (List.replicate (4 + before.length + head.length) ' ') ++ "^"

/-- The mark with its snippet. -/
def display (text : List Char) (m : Mark) : String :=
  "  in \"<unicode string>\", line " ++ toString (m.line + 1) ++ ", column " ++
    toString (m.column + 1) ++ ":\n" ++ m.snippet text

theorem window_length (side : List Char) : (window side).1.length ≤ 36 := by
  simp only [window]
  split
  · simp only [List.length_take]; omega
  · next h => exact Nat.le_of_not_lt h

end Mark

end RackElevation.Yaml
