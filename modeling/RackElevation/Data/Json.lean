import RackElevation.Text.Quoted

/-
  JSON text

  Values written as compact JSON in ASCII: a character outside the printable
  ASCII range is written by its code units, two of them for a character beyond
  the first 65536.

  What is proved:
    1. `escapeChar_ascii` — a character within that range is at most escaped.
-/

namespace RackElevation

/-- A value to be written as JSON. -/
inductive Json
  | null
  | bool (b : Bool)
  | int (n : Int)
  | text (s : String)
  | list (items : List Json)
  | record (fields : List (String × Json))
  deriving Inhabited

namespace Json

/-- One 16-bit unit, written by number. -/
def unitText (n : Nat) : List Char := '\\' :: 'u' :: Text.hexDigits 4 n

/-- A character inside quotes. -/
def escapeChar (c : Char) : List Char :=
  if c = '"' then ['\\', '"']
  else if c = '\\' then ['\\', '\\']
  else if c = '\n' then ['\\', 'n']
  else if c = '\r' then ['\\', 'r']
  else if c = '\t' then ['\\', 't']
  else if c = '\x08' then ['\\', 'b']
  else if c = '\x0c' then ['\\', 'f']
  else if 0x20 ≤ c.toNat ∧ c.toNat < 0x7F then [c]
  else if c.toNat < 0x10000 then unitText c.toNat
  else unitText (0xD800 + (c.toNat - 0x10000) / 0x400) ++ unitText (0xDC00 + (c.toNat - 0x10000) % 0x400)

/-- A text in quotes. -/
def quotedText (s : String) : String :=
  String.ofList ('"' :: (s.toList.flatMap escapeChar ++ ['"']))

mutual
/-- A value as JSON text. -/
def write : Json → String
  | .null => "null"
  | .bool b => if b then "true" else "false"
  | .int n => toString n
  | .text s => quotedText s
  | .list items => "[" ++ String.intercalate "," (writeItems items) ++ "]"
  | .record fields => "\x7b" ++ String.intercalate "," (writeFields fields) ++ "\x7d"

/-- Each of some values as JSON text. -/
def writeItems : List Json → List String
  | [] => []
  | v :: r => write v :: writeItems r

/-- Each of some fields as JSON text. -/
def writeFields : List (String × Json) → List String
  | [] => []
  | (k, v) :: r => (quotedText k ++ ":" ++ write v) :: writeFields r
end

/-- A text, or null. -/
def ofText? : Option String → Json
  | none => .null
  | some s => .text s

/-- An integer, or null. -/
def ofInt? : Option Int → Json
  | none => .null
  | some n => .int n

theorem escapeChar_ascii {c : Char} (h : 0x20 ≤ c.toNat ∧ c.toNat < 0x7F) :
    escapeChar c = [c] ∨ escapeChar c = ['\\', c] := by
  unfold escapeChar
  split
  · next hc => exact .inr (by rw [hc])
  split
  · next hc => exact .inr (by rw [hc])
  iterate 5
    split
    · next hc => subst hc; exact absurd h.1 (by decide)
  exact .inl rfl

end Json

end RackElevation
