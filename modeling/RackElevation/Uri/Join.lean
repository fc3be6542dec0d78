import RackElevation.Uri.Parts

/-
  Joining URIs

  A reference seen from a base: what the reference leaves out is taken from the
  base, a relative path is walked from the directory of the base path, and `.`
  and `..` are resolved. A reference of another scheme, or of one that knows no
  relative references, is left as it is.

  What is proved:
    1. `walk_not_dots` — no `.` and no `..` is left on a path that was walked.
-/

namespace RackElevation.Uri

open Text

/-- The segments without the empty ones, the first and the last of them apart. -/
def dropInnerEmpty (segments : List (List Char)) : List (List Char) :=
  match segments with
  | first :: second :: rest =>
    first :: ((second :: rest).dropLast.filter (!·.isEmpty) ++ (second :: rest).getLast?.toList)
  | short => short

/-- The segments passed so far, the last one first, after one more segment. -/
def step (passed : List (List Char)) (segment : List Char) : List (List Char) :=
  if segment = ['.', '.'] then passed.drop 1
  else if segment = ['.'] then passed
  else segment :: passed

/-- The segments that are left when dots are resolved. -/
def walk (segments : List (List Char)) : List (List Char) := (segments.foldl step []).reverse

/-- Whether a path ends in a segment of dots. -/
def endsInDots (segments : List (List Char)) : Bool :=
  segments.getLast? == some ['.'] || segments.getLast? == some ['.', '.']

/-- The segments of a path seen from a base path. -/
def segmentsFrom (basePath path : List Char) : List (List Char) :=
  if path.head? == some '/' then fields '/' path
  else
    let base := fields '/' basePath
    let directory := if base.getLast? == some [] then base else base.dropLast
    dropInnerEmpty (directory ++ fields '/' path)

/-- A path seen from a base path. -/
def joinPath (basePath path : List Char) : List Char :=
  let segments := segmentsFrom basePath path
  let joined := join '/' (walk segments ++ if endsInDots segments then [[]] else [])
  if joined.isEmpty then ['/'] else joined

/-- The parts of a reference whose scheme is that of the base, with what it lacks from the base. -/
def Parts.inherit (base ref : Parts) : Parts :=
  if ref.path.isEmpty && ref.params.isEmpty then
    { ref with
      path := base.path
      params := base.params
      query := if ref.query.isEmpty then base.query else ref.query }
  else { ref with path := joinPath base.path ref.path }

/-- The reference `ref` seen from `base`. -/
def resolve (base ref : List Char) : Except Fault (List Char) := do
  if base.isEmpty then return ref
  if ref.isEmpty then return base
  let b ← split [] base
  let r ← split b.scheme ref
  if r.scheme ≠ b.scheme ∨ !isAmong relativeSchemes r.scheme then return ref
  if isAmong authoritySchemes r.scheme then
    if !r.authority.isEmpty then return r.write
    return (b.inherit { r with authority := b.authority }).write
  return (b.inherit r).write

theorem step_not_dots {passed : List (List Char)} {segment s : List Char}
    (hp : ∀ p ∈ passed, p ≠ ['.'] ∧ p ≠ ['.', '.']) (h : s ∈ step passed segment) :
    s ≠ ['.'] ∧ s ≠ ['.', '.'] := by
  unfold step at h
  split at h
  · exact hp s (List.mem_of_mem_drop h)
  split at h
  · exact hp s h
  · rcases List.mem_cons.1 h with rfl | h
    · exact ⟨by assumption, by assumption⟩
    · exact hp s h

theorem walk_not_dots {segments : List (List Char)} {s : List Char} (h : s ∈ walk segments) :
    s ≠ ['.'] ∧ s ≠ ['.', '.'] := by
  suffices hall : ∀ (l passed : List (List Char)), (∀ p ∈ passed, p ≠ ['.'] ∧ p ≠ ['.', '.']) →
      ∀ p ∈ l.foldl step passed, p ≠ ['.'] ∧ p ≠ ['.', '.'] by
    exact hall segments [] (by simp) s (List.mem_reverse.1 h)
  intro l
  induction l with
  | nil => exact fun _ hp => hp
  | cons a l ih => exact fun passed hp => ih _ fun p h => step_not_dots hp h

end RackElevation.Uri
