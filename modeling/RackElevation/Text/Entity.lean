/-
  Character entities

  How text is written between and inside the tags of a document: five
  characters become entities, and control characters that such a document may
  not hold are left out.

  What is proved:
    1. `escape_append` — text may be escaped piece by piece.
    2. `not_mem_escape` — no angle bracket and no quote survives.
-/

namespace RackElevation.Entity

/-- Whether a character is a control character other than tab, LF and CR. -/
def isDropped (c : Char) : Bool :=
  c.toNat < 0x20 && c ≠ '\t' && c ≠ '\n' && c ≠ '\r'

/-- A character as it is written in a document. -/
def escapeChar (c : Char) : List Char :=
  if isDropped c then []
  else if c = '&' then ['&', 'a', 'm', 'p', ';']
  else if c = '<' then ['&', 'l', 't', ';']
  else if c = '>' then ['&', 'g', 't', ';']
  else if c = '"' then ['&', 'q', 'u', 'o', 't', ';']
  else if c = '\'' then ['&', '#', 'x', '2', '7', ';']
  else [c]

/-- A text as it is written in a document. -/
def escape (s : List Char) : List Char := s.flatMap escapeChar

theorem escape_append (s t : List Char) : escape (s ++ t) = escape s ++ escape t := by
  simp [escape]

theorem not_mem_escapeChar (c : Char) {d : Char} (hd : d = '<' ∨ d = '>' ∨ d = '"' ∨ d = '\'') :
    d ∉ escapeChar c := by
  unfold escapeChar
  split
  · simp
  iterate 5
    split
    · rcases hd with rfl | rfl | rfl | rfl <;> decide
  rw [List.mem_singleton]
  rintro rfl
  rcases hd with h | h | h | h <;> contradiction

theorem not_mem_escape (s : List Char) {d : Char} (hd : d = '<' ∨ d = '>' ∨ d = '"' ∨ d = '\'') :
    d ∉ escape s := by
  simp only [escape, List.mem_flatMap, not_exists, not_and]
  exact fun c _ => not_mem_escapeChar c hd

end RackElevation.Entity
