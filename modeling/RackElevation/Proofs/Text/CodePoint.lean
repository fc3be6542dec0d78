import RackElevation.Proofs.Outcome
import RackElevation.Text.CodePoint

/-
  Texts with surrogates

  A text is told to be one of characters exactly if it has no surrogate, and it is
  that of two results only if it is the first of them.

  What is proved:
    1. `chars_eq_ok` — the characters of a text.
    2. `chars_eq_error` — the first run of surrogates of any other.
    3. `exists_surrogate_iff` — there is such a run exactly if there is a surrogate.
-/

namespace RackElevation.CodePoint

open Outcome

variable {n : Nat} {s : List CodePoint} {t : List Char} {r : Run}

theorem charsFrom_eq_ok : charsFrom n s = .ok t ↔ s = ofChars t := by
  constructor
  · intro h
    induction s generalizing n t with
    | nil =>
      cases h
      rfl
    | cons p s ih =>
      cases p with
      | char c =>
        obtain ⟨rest, hrest, rfl⟩ := map_eq_ok.1 h
        exact congrArg (char c :: ·) (ih hrest)
      | surrogate k => cases h
  · rintro rfl
    exact charsFrom_ofChars n t

theorem chars_eq_ok : chars s = .ok t ↔ s = ofChars t := charsFrom_eq_ok

/-- Characters up to a run of surrogates, which ends before a character or the end of the text. -/
structure Breaks (before : List Char) (k : Fin 2048) (run : List (Fin 2048))
    (after : List CodePoint) (s : List CodePoint) : Prop where
  text : s = ofChars before ++ surrogate k :: (run.map surrogate ++ after)
  ends : ∀ m, after.head? ≠ some (surrogate m)

/-- The surrogates that a text starts with, and what follows. -/
theorem exists_run (s : List CodePoint) : ∃ (run : List (Fin 2048)) (after : List CodePoint),
    s = run.map surrogate ++ after ∧ (∀ m, after.head? ≠ some (surrogate m)) ∧
    (s.takeWhile fun p => p.char?.isNone).length = run.length := by
  induction s with
  | nil => exact ⟨[], [], rfl, fun _ => nofun, rfl⟩
  | cons p s ih =>
    cases p with
    | char c => exact ⟨[], char c :: s, rfl, fun _ => nofun, rfl⟩
    | surrogate k =>
      obtain ⟨run, after, rfl, hends, hlength⟩ := ih
      exact ⟨k :: run, after, rfl, hends, congrArg (· + 1) hlength⟩

theorem charsFrom_eq_error (h : charsFrom n s = .error r) : ∃ before run after,
    Breaks before r.first run after s ∧ r.position = n + before.length ∧
    r.length = run.length + 1 := by
  -- the characters before the run move the position on, one by one
  induction s generalizing n with
  | nil => cases h
  | cons p s ih =>
    cases p with
    | char c =>
      have hrest : charsFrom (n + 1) s = .error r := by
        rw [charsFrom] at h
        cases hs : charsFrom (n + 1) s with
        | ok t =>
          rw [hs] at h
          cases h
        | error r' =>
          rw [hs] at h
          cases h
          rfl
      obtain ⟨before, run, after, ⟨rfl, hends⟩, hposition, hlength⟩ := ih hrest
      refine ⟨c :: before, run, after, ⟨rfl, hends⟩, ?_, hlength⟩
      rw [hposition, List.length_cons]
      omega
    | surrogate k =>
      cases h
      obtain ⟨run, after, hs, hends, hlength⟩ := exists_run s
      exact ⟨[], run, after, ⟨congrArg (surrogate k :: ·) hs, hends⟩, rfl,
        congrArg (· + 1) hlength⟩

/-- The run that keeps a text from being encoded is its first, as a whole. -/
theorem chars_eq_error (h : chars s = .error r) : ∃ before run after,
    Breaks before r.first run after s ∧ r.position = before.length ∧ r.length = run.length + 1 := by
  obtain ⟨before, run, after, hbreaks, hposition, hlength⟩ := charsFrom_eq_error h
  exact ⟨before, run, after, hbreaks, hposition.trans (Nat.zero_add _), hlength⟩

theorem exists_surrogate_iff : (∃ k, surrogate k ∈ s) ↔ ∃ r, chars s = .error r := by
  constructor
  · intro h
    obtain ⟨k, hk⟩ := h
    cases hs : chars s with
    | error r => exact ⟨r, rfl⟩
    | ok t =>
      rw [chars_eq_ok.1 hs] at hk
      obtain ⟨c, _, hc⟩ := List.mem_map.1 hk
      cases hc
  · intro h
    obtain ⟨r, h⟩ := h
    obtain ⟨before, run, after, ⟨rfl, _⟩, _⟩ := chars_eq_error h
    exact ⟨r.first, List.mem_append_right _ List.mem_cons_self⟩

/-- Two results without surrogates between them are of the first. -/
theorem eq_of_between {s u t : List Char} (h : between s t = ofChars u) : s = u := by
  induction s generalizing t u with
  | nil =>
    have hu : u.map char = [] := by
      rw [← ofChars, ← h]
      rfl
    exact (List.map_eq_nil_iff.1 hu).symm
  | cons c s ih =>
    cases t with
    | nil =>
      have hmap : (c :: s).map char = u.map char := h
      exact List.map_injective_iff.2 (fun _ _ hc => CodePoint.char.inj hc) hmap
    | cons d t =>
      cases u with
      | nil => cases h
      | cons e u =>
        obtain ⟨hhead, htail⟩ := List.cons.inj h
        split at hhead
        · cases hhead
          rw [ih htail]
        · cases hhead

end RackElevation.CodePoint
