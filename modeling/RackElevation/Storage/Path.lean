import RackElevation.Text.Cut
import RackElevation.Text.Upper

/-
  Paths

  A path is a root, which relative paths have none of, and the names below it.
  Names that are empty or a single point stand for nothing.

  What is proved:
    1. `Path.names_ne_point` — no name of a path that was read is a point.
-/

namespace RackElevation

open Text

/-- A path to a file. -/
structure Path where
  root : List Char
  names : List (List Char)
  deriving DecidableEq, Repr

namespace Path

/-- Whether a name between slashes counts. -/
def counts (name : List Char) : Bool := !name.isEmpty && name != ['.']

/-- The slashes at the start of a path: two stay two, any other number is one. -/
def rootOf (s : List Char) : List Char :=
  match s.takeWhile (· == '/') with
  | [] => []
  | ['/', '/'] => ['/', '/']
  | _ => ['/']

/-- The path that a text is. -/
def ofText (s : List Char) : Path := ⟨rootOf s, (fields '/' s).filter counts⟩

/-- The path as text. -/
def toText (p : Path) : List Char :=
  match p.root, p.names with
  | [], [] => ['.']
  | root, names => root ++ join '/' names

/-- The last name of a path. -/
def name (p : Path) : List Char := (p.names.getLast?).getD []

/-- The end of a name from its last point on, unless the point is its first or last character. -/
def suffix (p : Path) : List Char :=
  let (before, after) := cutLast '.' p.name
  if 1 < before.length ∧ !after.isEmpty then '.' :: after else []

theorem names_ne_point {s name : List Char} (h : name ∈ (ofText s).names) : name ≠ ['.'] := by
  have := (List.mem_filter.1 h).2
  simp only [counts, Bool.and_eq_true, bne_iff_ne] at this
  exact this.2

end Path

end RackElevation
