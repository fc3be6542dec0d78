import RackElevation.Dialect
import RackElevation.Drawing
import RackElevation.Link
import RackElevation.Text.CodePoint

/-
  Conversion

  A source becomes a drawing: it is read, its links are resolved if there is a
  resolver, and the rack set is drawn. If the links are resolved under a base with
  surrogates, the drawing may have some, too.

  What is proved:
    1. `convert_of_parse` — the drawing of a source is that of its rack set.
    2. `convert_eq_document` — a drawing is the text of its document.
-/

namespace RackElevation.Conversion

/-- Why there is no drawing. -/
inductive Failure
  | source (e : Source.Error)
  | uri (fault : Uri.Fault)
  | drawing (fault : Drawing.Fault)
  deriving DecidableEq, Repr

/-- The sentence for a failure. -/
def Failure.message : Failure → String
  | .source e => e.message
  | .uri fault => fault.message
  | .drawing fault => fault.message

/-- A rack set with its links resolved, if there is a resolver. -/
def resolve (resolver : Option Resolver) (s : RackSet) : Except Failure RackSet :=
  match resolver with
  | none => .ok s
  | some f => (Link.link f s).mapError .uri

/-- The drawing of a rack set whose links are resolved first. -/
def render (resolver : Option Resolver) (s : RackSet) : Except Failure String := do
  (Drawing.draw (← resolve resolver s)).mapError .drawing

/-- The drawing of a source in the dialect with a name. -/
def convert (resolver : Option Resolver) (dialect text : String) : Except Failure String := do
  render resolver (← (Source.parse dialect text).mapError .source)

/-- The document that is drawn for a source in the dialect with a name. -/
def document (resolver : Option Resolver) (dialect text : String) : Except Failure Svg.Node := do
  let s ← (Source.parse dialect text).mapError .source
  (Drawing.document (← resolve resolver s)).mapError .drawing

/-- The drawing of a source whose links are resolved under a base that may have surrogates. The base
stands in front of links, and no step treats one private character unlike another, so the drawing has
a surrogate where the drawings with either of two characters in its place differ. -/
def convertUnder (base : Option (List CodePoint)) (dialect text : String) :
    Except Failure (List CodePoint) := do
  let resolver (start : Nat) := base.map fun b => Link.resolver (CodePoint.standIn start b)
  let drawing ← document (resolver CodePoint.near) dialect text
  let other ← document (resolver CodePoint.far) dialect text
  return CodePoint.between drawing.write other.write

theorem convert_of_parse {resolver : Option Resolver} {dialect text : String} {s : RackSet}
    (h : Source.parse dialect text = .ok s) :
    convert resolver dialect text = render resolver s := by
  rw [convert, h]
  rfl

theorem convert_eq_document (resolver : Option Resolver) (dialect text : String) :
    convert resolver dialect text =
      (document resolver dialect text).map fun d => String.ofList d.write := by
  simp only [convert, document, render, Drawing.draw]
  cases (Source.parse dialect text).mapError Failure.source with
  | error e => rfl
  | ok s =>
    cases hresolve : resolve resolver s with
    | error e =>
      simp only [bind, Except.bind, hresolve]
      rfl
    | ok t =>
      simp only [bind, Except.bind, hresolve]
      cases Drawing.document t <;> rfl

end RackElevation.Conversion
