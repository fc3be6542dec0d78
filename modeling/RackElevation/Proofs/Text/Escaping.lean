import RackElevation.Text.Entity

/-
  Reading escaped text back

  A reader of a document replaces the five entities by the characters they
  stand for, in one pass from the left, and refuses any other ampersand. What it
  gets from an escaped text is the text itself without the control characters
  that were left out.

  What is proved:
    1. `unescape_escape` — reading an escaped text gives the text that was kept.
    2. `escape_of_plain` — text without special characters is written as it stands.
-/

namespace RackElevation.Entity

/-- The text that is left of a text in a document. -/
def kept (s : List Char) : List Char := s.filter (!isDropped ·)

/-- The text that written text stands for; no entity but the five is known. -/
def unescape : List Char → Option (List Char)
  | [] => some []
  | '&' :: 'a' :: 'm' :: 'p' :: ';' :: r => (unescape r).map ('&' :: ·)
  | '&' :: 'l' :: 't' :: ';' :: r => (unescape r).map ('<' :: ·)
  | '&' :: 'g' :: 't' :: ';' :: r => (unescape r).map ('>' :: ·)
  | '&' :: 'q' :: 'u' :: 'o' :: 't' :: ';' :: r => (unescape r).map ('"' :: ·)
  | '&' :: '#' :: 'x' :: '2' :: '7' :: ';' :: r => (unescape r).map ('\'' :: ·)
  | c :: r => if c = '&' then none else (unescape r).map (c :: ·)

/-- Whether a character is written as it stands. -/
def isPlain (c : Char) : Bool := escapeChar c == [c]

theorem kept_append (s t : List Char) : kept (s ++ t) = kept s ++ kept t := List.filter_append ..

theorem unescape_cons {c : Char} (h : c ≠ '&') (r : List Char) :
    unescape (c :: r) = (unescape r).map (c :: ·) := by
  rw [unescape]
  · rw [if_neg h]
  all_goals
    intros
    simp_all

/-- One character of a text is read back in front of whatever follows. -/
theorem unescape_escapeChar (c : Char) (r : List Char) :
    unescape (escapeChar c ++ r) = (unescape r).map (kept [c] ++ ·) := by
  unfold escapeChar
  by_cases hd : isDropped c = true
  · simp [hd, kept]
  have hk : kept [c] = [c] := by simp [kept, hd]
  rw [if_neg hd, hk]
  split
  · next h => subst h; rfl
  split
  · next h => subst h; rfl
  split
  · next h => subst h; rfl
  split
  · next h => subst h; rfl
  split
  · next h => subst h; rfl
  · next h _ _ _ _ => exact unescape_cons h r

theorem unescape_escape (s : List Char) : unescape (escape s) = some (kept s) := by
  induction s with
  | nil => rfl
  | cons c s ih =>
    have hs : escape (c :: s) = escapeChar c ++ escape s := rfl
    have hk : kept (c :: s) = kept [c] ++ kept s := kept_append [c] s
    rw [hs, unescape_escapeChar, ih, hk]
    rfl

theorem escape_of_plain {s : List Char} (h : ∀ c ∈ s, isPlain c = true) : escape s = s := by
  induction s with
  | nil => rfl
  | cons c s ih =>
    have hs : escape (c :: s) = escapeChar c ++ escape s := rfl
    have hc : escapeChar c = [c] := eq_of_beq (h c List.mem_cons_self)
    rw [hs, hc, ih fun d hd => h d (List.mem_cons_of_mem c hd)]
    rfl

theorem kept_of_plain {s : List Char} (h : ∀ c ∈ s, isPlain c = true) : kept s = s := by
  apply List.filter_eq_self.2
  intro c hc
  have he : escapeChar c = [c] := eq_of_beq (h c hc)
  by_cases hd : isDropped c = true
  · simp [escapeChar, hd] at he
  · simp [hd]

end RackElevation.Entity
