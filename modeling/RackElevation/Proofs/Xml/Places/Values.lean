import RackElevation.Proofs.Xml.Nesting
import RackElevation.Proofs.Xml.Tokens

/-
  Places of faults in values

  A place is the number of characters from a fault to the end of the document. A
  value is placed by where it ends, or by the reference to the entity it belongs
  to, and no fault in it is further from the end than its start.

  What is proved:
    1. `FaultsWithin.bind`, `FaultsWithin.foldlM` — one step after another.
    2. `attributeValue_within`, `entityText_within` — values of attributes and of
       entities.
-/

namespace RackElevation.Xml

open Text Outcome

/-! ## Steps -/

/-- No failure is further than so many characters from the end. -/
def FaultsWithin {α : Type} (n : Nat) (x : Except Failure α) : Prop :=
  ∀ f, x = .error f → f.left ≤ n

namespace FaultsWithin

variable {α β : Type} {n : Nat}

theorem ok (a : α) : FaultsWithin n (.ok a) := fun _ h => nomatch h

theorem error {f : Failure} (h : f.left ≤ n) : FaultsWithin n (.error f : Except Failure α) := by
  intro g hg
  cases hg
  exact h

theorem bind {x : Except Failure α} {f : α → Except Failure β} (hx : FaultsWithin n x)
    (hf : ∀ a, x = .ok a → FaultsWithin n (f a)) : FaultsWithin n (x >>= f) := by
  intro e he
  rcases bind_eq_error.1 he with h | ⟨a, ha, h⟩
  · exact hx e h
  · exact hf a ha e h

theorem ite {c : Prop} [Decidable c] {x y : Except Failure α} (hx : FaultsWithin n x)
    (hy : FaultsWithin n y) : FaultsWithin n (if c then x else y) := by
  split
  · exact hx
  · exact hy

theorem foldlM {f : β → α → Except Failure β} {l : List α} (h : ∀ a ∈ l, ∀ b, FaultsWithin n (f b a))
    (b : β) : FaultsWithin n (l.foldlM f b) := by
  induction l generalizing b with
  | nil => exact ok b
  | cons a l ih =>
    rw [List.forall_mem_cons] at h
    rw [List.foldlM_cons]
    exact (h.1 b).bind fun b' _ => ih h.2 b'

theorem mapM {f : α → Except Failure β} {l : List α} (h : ∀ a ∈ l, FaultsWithin n (f a)) :
    FaultsWithin n (l.mapM f) := by
  intro e he
  obtain ⟨before, a, after, rfl, _, ha⟩ := mapM_eq_error.1 he
  exact h a (List.mem_append_right _ List.mem_cons_self) e ha

end FaultsWithin

/-! ## Values -/

/-- The places of a text lie in a document of so many characters. -/
structure Placing.Within (p : Placing) (text : List Char) (n : Nat) : Prop where
  whole : p.whole ≤ n
  after : ∀ after ∈ p.after, text.length + after.length ≤ n

theorem Placing.Within.at {p : Placing} {text on : List Char} {n : Nat} (h : p.Within text n)
    (hon : on.length ≤ text.length) : p.at on ≤ n := by
  unfold Placing.at
  split
  · next after hafter =>
    have := h.after after hafter
    omega
  · exact h.whole

theorem Placing.Within.inEntity {p : Placing} {text : List Char} {n : Nat} (h : p.Within text n)
    (inner : List Char) : p.inEntity.Within inner n :=
  ⟨h.whole, fun _ hafter => nomatch hafter⟩

theorem valueParts_within (s : List Char) : ∀ part ∈ valueParts s, part.1.length ≤ s.length ∧
    ∀ on, part.2 = .broken on → on.length ≤ s.length := by
  refine walk_forall fun c r hcr => ?_
  have hlength := hcr.length_le
  refine ⟨hlength, fun on hon => Nat.le_trans ?_ hlength⟩
  have hr := (List.suffix_cons c r).length_le
  dsimp only at hon
  unfold valuePartAt at hon
  split at hon
  · have hreference := steady_reference blanks_nil r
    split at hon
    · cases hon
    · next h =>
      rw [h] at hreference
      cases hreference with
      | invalid hrest =>
        cases hon
        exact Nat.le_trans hrest.length_le hr
    · cases hon
      exact Nat.le_refl _
  · cases hon
    exact Nat.le_refl _
  · cases hon
  · dsimp only at hon
    split at hon <;> cases hon

theorem appendPart_within {d : Doctype} {isCdata : Bool} {n : Nat} {opened : List (List Char)}
    {p : Placing} {text : List Char} (hp : p.Within text n)
    {enter : List Char → List Char → List Char → Except Failure (List Char)}
    (henter : ∀ name inner out, FaultsWithin n (enter name inner out)) :
    ∀ part ∈ valueParts text, ∀ out,
      FaultsWithin n (appendPart d isCdata opened p enter out part) := by
  intro part hpart out
  obtain ⟨hon, hbroken⟩ := valueParts_within text part hpart
  unfold appendPart
  split
  · exact .ok _
  · exact .ok _
  · next on h => exact .error (hp.at (hbroken on h))
  · exact .error (hp.at hon)
  · exact .ok _
  · split
    · exact .ok _
    · split
      · exact .error hp.whole
      · exact .ok _
    · split
      · exact .error hp.whole
      split
      · exact .error (hp.at hon)
      · exact .error (hp.at hon)
      · exact henter _ _ _

theorem appendValue_within (d : Doctype) (isCdata : Bool) {n : Nat} (depth : Nat)
    (opened : List (List Char)) {p : Placing} (out : List Char) {text : List Char}
    (hp : p.Within text n) : FaultsWithin n (appendValue d isCdata depth opened p out text) := by
  induction depth generalizing opened p out text with
  | zero => exact .foldlM (appendPart_within hp fun _ _ _ => .error hp.whole) out
  | succ depth ih =>
    exact .foldlM (appendPart_within hp fun name inner out => ih _ out (hp.inEntity inner)) out

theorem attributeValue_within (d : Doctype) (isCdata : Bool) {n : Nat} (opened : List (List Char))
    {p : Placing} {text : List Char} (hp : p.Within text n) :
    FaultsWithin n (attributeValue d isCdata opened p text) :=
  (appendValue_within d isCdata _ opened [] hp).bind fun _ _ => .ok _

theorem entityPartAt_within {c : Char} {r : List Char} {fault : Fault} {on : List Char}
    (h : (entityPartAt c r).1 = .error (fault, on)) : on.length ≤ (c :: r).length := by
  have hr := (List.suffix_cons c r).length_le
  unfold entityPartAt at h
  split at h
  · have hreference := steady_reference blanks_nil r
    split at h
    · cases h
    · cases h
    · cases h
      exact Nat.le_refl _
    · next heq =>
      rw [heq] at hreference
      cases hreference with
      | invalid hrest =>
        cases h
        exact Nat.le_trans hrest.length_le hr
    · cases h
      exact Nat.le_refl _
  · have hpercent := steady_percentMark blanks_nil r
    split at h
    · cases h
      exact Nat.le_refl _
    · next heq =>
      rw [heq] at hpercent
      cases hpercent with
      | found _ hrest _ =>
        cases h
        exact Nat.le_trans hrest.length_le hr
    · next heq =>
      rw [heq] at hpercent
      cases hpercent with
      | invalid hrest =>
        cases h
        exact Nat.le_trans hrest.length_le hr
    · cases h
      exact Nat.le_refl _
  · cases h
  · cases h

theorem entityText_within {n : Nat} {p : Placing} {text : List Char} (hp : p.Within text n) :
    FaultsWithin n (entityText p text) := by
  refine .bind (.mapM ?_) fun pieces _ => .ok _
  refine walk_forall fun c r hcr => ?_
  intro f hf
  obtain ⟨⟨fault, on⟩, hpart, rfl⟩ := mapError_eq_error.1 hf
  exact hp.at (Nat.le_trans (entityPartAt_within hpart) hcr.length_le)

end RackElevation.Xml
