import RackElevation.Yaml.Fault

/-
  Reading YAML text

  A cursor is what is left of a text, with its mark. A scan is a reading that
  moves the cursor and may fail; the small scans here look ahead, take
  characters of a class, and take a line break.

  What is proved:
    1. `Cursor.advance_rest` — moving on drops that many characters.
-/

namespace RackElevation.Yaml

/-- What is left of a text. -/
structure Cursor where
  rest : List Char
  mark : Mark := {}
  deriving Repr, Inhabited

namespace Cursor

/-- The cursor after `n` characters. -/
def advance (c : Cursor) : Nat → Cursor
  | 0 => c
  | n + 1 =>
    match c.rest with
    | [] => c
    | a :: r => advance ⟨r, c.mark.after a r.head?⟩ n

theorem advance_rest (c : Cursor) (n : Nat) : (c.advance n).rest = c.rest.drop n := by
  induction n generalizing c with
  | zero => simp [advance]
  | succ n ih =>
    rcases c with ⟨rest, mark⟩
    cases rest with
    | nil => simp [advance]
    | cons a r => simp [advance, ih]

end Cursor

/-- Whether a character, or the end, is a blank or a break. -/
def endsWord : Option Char → Bool
  | none => true
  | some c => c == ' ' || c == '\t' || isBreak c

/-- Whether a character, or the end, is a space or a break. -/
def endsField : Option Char → Bool
  | none => true
  | some c => c == ' ' || isBreak c

/-- Whether a character, or the end, ends a line. -/
def endsLine : Option Char → Bool
  | none => true
  | some c => isBreak c

/-- Whether a character may stand in a name. -/
def isNameChar (c : Char) : Bool := c.isAlphanum || c == '-' || c == '_'

/-- Whether a character is a hexadecimal digit. -/
def isHex (c : Char) : Bool :=
  c.isDigit || ('a' ≤ c && c ≤ 'f') || ('A' ≤ c && c ≤ 'F')

/-- The value of a hexadecimal digit. -/
def hexValue (c : Char) : Nat :=
  if c.isDigit then c.toNat - 48 else if 'a' ≤ c then c.toNat - 87 else c.toNat - 55

/-- The number that hexadecimal digits stand for. -/
def hexNumber (s : List Char) : Nat := s.foldl (fun n c => 16 * n + hexValue c) 0

/-- A reading of text. -/
abbrev Scan := StateT Cursor (Except Error)

namespace Scan

/-- Where the cursor is. -/
def here : Scan Mark := do return (← get).mark

/-- The character `k` places ahead. -/
def peek (k : Nat) : Scan (Option Char) := do return (← get).rest[k]?

/-- Takes `n` characters. -/
def take (n : Nat) : Scan (List Char) := do
  let c ← get
  set (c.advance n)
  return c.rest.take n

/-- Takes the characters of a class. -/
def takeWhile (p : Char → Bool) : Scan (List Char) := do
  take ((← get).rest.takeWhile p).length

/-- Takes a line break, if there is one: a line feed for most, a separator as it is. -/
def lineBreak : Scan (List Char) := do
  match (← get).rest with
  | '\r' :: '\n' :: _ => discard (take 2); return ['\n']
  | c :: _ =>
    if c == '\u2028' || c == '\u2029' then take 1
    else if isBreak c then discard (take 1); return ['\n']
    else return []
  | [] => return []

/-- Takes a comment, without the break that ends it. -/
def comment : Scan Unit := do
  if (← peek 0) == some '#' then
    discard (takeWhile fun c => !isBreak c)

/-- Fails here, while doing something that began at `start`. -/
def fail {α : Type} (activity : Activity) (start : Mark) (problem : Problem) : Scan α := do
  throw (.fault ⟨some ⟨activity, some start⟩, problem, ← here⟩)

/-- Fails on the next character. -/
def unexpected {α : Type} (activity : Activity) (start : Mark) (wanted : Wanted) : Scan α := do
  fail activity start (.expected wanted (← peek 0))

/-- Whether a document separator stands here. -/
def atSeparator : Scan Bool := do
  let s ← get
  let three := s.rest.take 3
  return (three == ['-', '-', '-'] || three == ['.', '.', '.']) && endsWord s.rest[3]?

/-- Goes on to the next line, over spaces and a comment only. -/
def restOfLine (activity : Activity) (start : Mark) : Scan Unit := do
  discard (takeWhile (· == ' '))
  comment
  if !endsLine (← peek 0) then unexpected activity start .commentOrBreak
  discard lineBreak

end Scan

end RackElevation.Yaml
