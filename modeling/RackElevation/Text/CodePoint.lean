import RackElevation.Text.Quoted
import RackElevation.Text.Upper

/-
  Code points

  A string of the runtime is a sequence of code points, and a code point may be a
  surrogate, which stands for no character. A text with a surrogate in it cannot
  be encoded, so it can be neither printed nor written to a file.

  What treats all private characters alike treats surrogates as it treats these.
  So its result for a text with surrogates is told by two results for texts, in
  which two different private characters stand in for each surrogate: where the
  two differ, the result has a surrogate.

  What is proved:
    1. `chars_ofChars` — a text of characters is given back.
    2. `between_self` — two results that are the same have no surrogate.
-/

namespace RackElevation

/-- A character, or one of the 2048 surrogates by its place among them. -/
inductive CodePoint
  | char (c : Char)
  | surrogate (n : Fin 2048)
  deriving DecidableEq, Repr

namespace CodePoint

open Text

/-- The number of the first surrogate. -/
def firstSurrogate : Nat := 0xD800

/-- The number of a code point. -/
def number : CodePoint → Nat
  | char c => c.toNat
  | surrogate n => firstSurrogate + n

/-- The code point with a number below 0x110000. -/
def ofNumber (n : Nat) : CodePoint :=
  if n.isValidChar then char (Char.ofNat n) else surrogate (Fin.ofNat 2048 (n - firstSurrogate))

/-- The character that a code point is, if it is one. -/
def char? : CodePoint → Option Char
  | char c => some c
  | surrogate _ => none

/-- The code points of a text. -/
def ofChars (s : List Char) : List CodePoint := s.map char

/-- The code points of a string. -/
def ofString (s : String) : List CodePoint := ofChars s.toList

/-! ## Texts -/

/-- A run of surrogates in a text, and where it starts. -/
structure Run where
  position : Nat
  first : Fin 2048
  length : Nat
  deriving DecidableEq, Repr

/-- How a surrogate is shown. -/
def shown (n : Fin 2048) : List Char := '\\' :: 'u' :: hexDigits 4 (firstSurrogate + n)

/-- The sentence for a run of surrogates. -/
def Run.message (r : Run) : String :=
  let which :=
    if r.length = 1 then
      "character '" ++ String.ofList (shown r.first) ++ "' in position " ++ toString r.position
    else "characters in position " ++ toString r.position ++ "-" ++
      toString (r.position + r.length - 1)
  "'utf-8' codec can't encode " ++ which ++ ": surrogates not allowed"

/-- The characters of code points that start at a position, or their first run of surrogates. -/
def charsFrom (position : Nat) : List CodePoint → Except Run (List Char)
  | [] => .ok []
  | char c :: rest => (charsFrom (position + 1) rest).map (c :: ·)
  | surrogate n :: rest => .error ⟨position, n, (rest.takeWhile (·.char?.isNone)).length + 1⟩

/-- The characters of a text, or its first run of surrogates. -/
def chars (s : List CodePoint) : Except Run (List Char) := charsFrom 0 s

/-- The string of a text without surrogates. -/
def string? (s : List CodePoint) : Option String := (chars s).toOption.map String.ofList

/-- A text as it is shown inside a message. -/
def quote (s : List CodePoint) : String :=
  let mark := quoteMark (s.filterMap char?)
  String.ofList (mark :: (s.flatMap fun
    | char c => quoteChar mark c
    | surrogate n => shown n) ++ [mark])

/-- A code point with an ASCII letter in lower case, as `lowerChar` has it. -/
def lower : CodePoint → CodePoint
  | char c => char (lowerChar c)
  | surrogate n => surrogate n

/-- The upper case of a text. -/
def upper (s : List CodePoint) : List CodePoint :=
  s.flatMap fun
    | char c => ofChars (upperChar c)
    | surrogate n => [surrogate n]

/-! ## Characters that stand in for surrogates -/

/-- The first of the private characters that stand in for surrogates. -/
def near : Nat := 0xF0000

/-- The first of the private characters that stand in for surrogates the other time. -/
def far : Nat := 0x100000

/-- A text with private characters, from the given one on, in place of surrogates. -/
def standIn (start : Nat) (s : List CodePoint) : List Char :=
  s.map fun
    | char c => c
    | surrogate n => Char.ofNat (start + n)

/-- The text that two results are of, which differ where it has surrogates. -/
def between : List Char → List Char → List CodePoint
  | c :: s, d :: t =>
    (if c = d then char c else surrogate (Fin.ofNat 2048 (c.toNat - near))) :: between s t
  | s, _ => ofChars s

theorem charsFrom_ofChars (n : Nat) (s : List Char) : charsFrom n (ofChars s) = .ok s := by
  induction s generalizing n with
  | nil => rfl
  | cons c s ih =>
    rw [ofChars, List.map_cons, charsFrom]
    exact congrArg (Except.map (c :: ·)) (ih (n + 1))

theorem chars_ofChars (s : List Char) : chars (ofChars s) = .ok s := charsFrom_ofChars 0 s

theorem string?_ofString (s : String) : string? (ofString s) = some s := by
  rw [string?, ofString, chars_ofChars]
  exact congrArg some String.ofList_toList

theorem between_self (s : List Char) : between s s = ofChars s := by
  induction s with
  | nil => rfl
  | cons c s ih =>
    rw [between, if_pos rfl, ih]
    rfl

theorem standIn_ofChars (start : Nat) (s : List Char) : standIn start (ofChars s) = s := by
  rw [standIn, ofChars, List.map_map]
  exact List.map_id s

end CodePoint

end RackElevation
