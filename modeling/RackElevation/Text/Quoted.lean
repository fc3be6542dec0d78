import RackElevation.Text.Shown

/-
  Quoted text

  How a text is shown inside a message: between single quotes, or double quotes
  if it holds a single quote and no double one. The quote in use and the
  backslash are escaped, and so is every character without a glyph of its own, by
  number in the shortest of the forms `\xhh`, `\uhhhh` and `\Uhhhhhhhh` (a
  tab, LF or CR by letter).

  What is proved:
    1. `quote_length` — the quotes are there: a quoted text has two characters or more.
-/

namespace RackElevation.Text

/-- The last `width` hexadecimal digits of a number, lower case. -/
def hexDigits (width n : Nat) : List Char :=
  match width with
  | 0 => []
  | w + 1 => hexDigits w (n / 16) ++ [Nat.digitChar (n % 16)]

/-- A character of a text quoted with `q`. -/
def quoteChar (q c : Char) : List Char :=
  if c = q ∨ c = '\\' then ['\\', c]
  else if c = '\t' then ['\\', 't']
  else if c = '\n' then ['\\', 'n']
  else if c = '\r' then ['\\', 'r']
  else if isShown c then [c]
  else if c.toNat < 0x100 then '\\' :: 'x' :: hexDigits 2 c.toNat
  else if c.toNat < 0x10000 then '\\' :: 'u' :: hexDigits 4 c.toNat
  else '\\' :: 'U' :: hexDigits 8 c.toNat

/-- The quote mark for a text. -/
def quoteMark (s : List Char) : Char :=
  if s.contains '\'' && !s.contains '"' then '"' else '\''

/-- The text as it is shown inside a message. -/
def quote (s : List Char) : List Char :=
  quoteMark s :: (s.flatMap (quoteChar (quoteMark s)) ++ [quoteMark s])

theorem quote_length (s : List Char) : 2 ≤ (quote s).length := by
  simp [quote]

/-- A quoted string, for building messages. -/
def quoted (s : String) : String := String.ofList (quote s.toList)

/-- A list of strings in brackets, each quoted. -/
def quotedList (l : List String) : String :=
  "[" ++ String.intercalate ", " (l.map quoted) ++ "]"

end RackElevation.Text
