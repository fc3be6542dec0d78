import RackElevation.Decimal.Figures
import RackElevation.Svg.Node

/-
  Shapes

  Paths, rectangles and circles with their measures and paints. Measures are
  written in six figures; a paint or a path is written as it stands.
-/

namespace RackElevation.Svg

/-- The colour in which symbols are drawn. -/
def symbolColor : String := "#555"

/-- A shape to be drawn. -/
inductive Shape
  | path (d : String) (fill : String) (stroke : String) (strokeWidth : Option Real64)
      (strokeLinecap : Option String) (fillRule : Option String)
  | rect (x y width height : Real64) (fill : String)
  | circle (cx cy r : Real64) (fill : String) (stroke : String) (strokeWidth : Real64)

/-- A whole number as a measure. -/
def measure (n : Nat) : Real64 := Real64.ofDecimal false n 0

/-- An attribute that is left out if it is absent or empty. -/
def optional (name : String) : Option String → List Attribute
  | none => []
  | some s => if s.isEmpty then [] else [.plain name s]

/-- The element that draws a shape. -/
def Shape.tag : Shape → Tag
  | .path d fill stroke strokeWidth strokeLinecap fillRule =>
    ⟨"path", [.plain "d" d, .plain "fill" fill, .plain "stroke" stroke] ++
      (strokeWidth.map fun w => Attribute.plain "stroke-width" w.briefText).toList ++
      optional "stroke-linecap" strokeLinecap ++ optional "fill-rule" fillRule⟩
  | .rect x y width height fill =>
    ⟨"rect", [.plain "x" x.briefText, .plain "y" y.briefText, .plain "width" width.briefText,
      .plain "height" height.briefText, .plain "fill" fill, .plain "stroke" "none"]⟩
  | .circle cx cy r fill stroke strokeWidth =>
    ⟨"circle", [.plain "cx" cx.briefText, .plain "cy" cy.briefText, .plain "r" r.briefText,
      .plain "stroke" stroke, .plain "fill" fill, .plain "stroke-width" strokeWidth.briefText]⟩

/-- The node that draws a shape. -/
def Shape.node (s : Shape) : Node := .leaf s.tag

end RackElevation.Svg
