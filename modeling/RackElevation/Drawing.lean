import RackElevation.Layout
import RackElevation.Svg.Glyph
import RackElevation.Uri.Join

/-
  Drawing

  A rack set as a document: for each rack a scale that numbers its units, its
  frame, and a group for each device with its body, its kind, its symbol and its
  name. Relative links are resolved against the base of the set.

  A drawing fails if a number on it is too long to be written or too large to be
  halved, or if a link or the base is no proper reference.
-/

namespace RackElevation.Drawing

open Svg

/-- Why a rack set cannot be drawn. -/
inductive Fault
  | numeral (fault : Numeral.Fault)
  | overflow (fault : Binary64.Overflow)
  | uri (fault : Uri.Fault)
  deriving DecidableEq, Repr

/-- The sentence for a fault. -/
def Fault.message : Fault → String
  | .numeral f => f.message
  | .overflow f => f.message
  | .uri f => f.message

/-- The text of an integer. -/
def integer (n : Int) : Except Fault String := (Numeral.write n).mapError .numeral

/-- The text of a fraction that was computed. -/
def fraction (x : Option Binary64) (fault : Binary64.Overflow) : Except Fault String :=
  match x with
  | some x => .ok (Real64.finite x).plainText
  | none => .error (.overflow fault)

/-- A fraction two above another. -/
def twoAbove (x : Option Binary64) : Option Binary64 := do (← x).add? (← Binary64.ofInt? 2)

/-- The middle of `height`, for text that is centred by eye. -/
def middle (height : Int) : Except Fault String := fraction (twoAbove (Binary64.half? height)) .quotient

/-- Attributes of text that is centred on a line. -/
def centred (x y anchor : String) : List Attribute :=
  [.plain "x" x, .plain "y" y, .plain "text-anchor" anchor, .plain "dominant-baseline" "middle",
   .plain "font-family" "sans-serif"]

/-- Attributes of text of a given size. -/
def sized (size : String) (attributes : List Attribute) : List Attribute :=
  attributes ++ [.plain "font-size" size]

/-- A group moved by `x` and `y`. -/
def moved (x y : String) (children : List Node) : Node :=
  .group ⟨"g", [.plain "transform" ("translate(" ++ x ++ ", " ++ y ++ ")")]⟩ children

/-- The right end of the numbers of a scale. -/
def scaleX : Int := 44

/-- A tick of the scale. -/
def tick (y : String) : Node :=
  .leaf ⟨"line", [.plain "x1" (toString (scaleX - 14)), .plain "y1" y,
    .plain "x2" (toString (scaleX + 2)), .plain "y2" y, .plain "stroke" "black",
    .plain "stroke-width" "2"]⟩

/-- The height at which the number of a unit is centred, for a unit whose upper edge is at `y`. -/
def unitMiddle (y : Int) : Option Binary64 := do
  twoAbove (← (← Binary64.ofInt? y).add? (← Binary64.half? unitHeight))

/-- The number and the upper tick of a unit in a rack of a height. -/
def scaleUnit (height unit : Int) : Except Fault (List Node) := do
  let y := margin + (height - unit) * unitHeight
  let middle ← fraction (unitMiddle y) .integer
  let number ← integer unit
  let edge ← integer y
  return [.text ⟨"text", sized "12" (centred (toString scaleX) middle "end")⟩ number.toList, tick edge]

/-- The units of a rack from the top down. -/
def units (height : Int) : List Int := (List.range height.toNat).map fun (i : Nat) => height - i

/-- The scale of a rack. -/
def scale (height : Int) : Except Fault (List Node) := do
  let rows ← (units height).mapM (scaleUnit height)
  let bottom ← integer (margin + height * unitHeight)
  return rows.flatten ++ [tick bottom]

/-- The address of a link seen from the base, if the base has a scheme. -/
def address (base : Option String) (href : String) : Except Uri.Fault (List Char) :=
  match base with
  | none => .ok href.toList
  | some b => do
    if b.isEmpty then return href.toList
    if (← Uri.scheme b.toList).isEmpty then return href.toList
    Uri.resolve b.toList href.toList

/-- The address of a device as it is written, absent if nothing of it is left. -/
def deviceAddress (base : Option String) (d : Device) : Except Fault (Option (List Char)) :=
  match d.href with
  | none => .ok none
  | some href =>
    if href.isEmpty then .ok none
    else do
      let written := Entity.escape (← (address base href).mapError .uri)
      return if written.isEmpty then none else some written

/-- The tag of a link. -/
def linkTag (written : List Char) : Tag := ⟨"a", [⟨"href", written⟩]⟩

/-- The symbol of a device of a height. -/
def symbol (kind : String) (height : Int) : Except Fault (List Node) :=
  match glyph? kind with
  | none => .ok []
  | some shapes => do
    let y ← fraction (Binary64.half? (height - glyphHeight)) .quotient
    return [moved "10" y (shapes.map Shape.node)]

/-- The colour of a device: its own if it has one. -/
def deviceColor (d : Device) : String :=
  match d.color with
  | none => Svg.color d.kind
  | some c => if c.isEmpty then Svg.color d.kind else c

/-- The nodes of a device. -/
def device (base : Option String) (d : Device) : Except Fault (List Node) := do
  let height := d.height * unitHeight
  let middle ← middle height
  let href ← deviceAddress base d
  let heightText ← integer height
  let body : List Node :=
    [.leaf ⟨"rect", [.plain "x" "0", .plain "y" "0", .plain "width" (toString rackWidth),
        .plain "height" heightText, .escaped "fill" (deviceColor d).toList,
        .plain "stroke" "black"]⟩,
     .label ⟨"text", sized "13" (centred (toString (rackWidth / 2)) middle "middle")⟩ d.kind.toList]
  let body := body ++ (← symbol d.kind height)
  let name : Node :=
    .label ⟨"text", sized "13" (centred (toString (rackWidth + 16)) middle "start")⟩ d.name.toList
  let body := match href with
    | some a => [.group (linkTag a) body]
    | none => body
  let name := match href with
    | some a => .around (linkTag a) name
    | none => name
  return if d.name.isEmpty then body else body ++ [name]

/-- The group of a placed device in a rack whose bottom is at `bottom`. -/
def placed (base : Option String) (bottom : Int) (p : Placed) : Except Fault Node := do
  let y ← integer (bottom - p.top * unitHeight)
  return moved "0" y (← device base p.device)

/-- The title of a rack. -/
def title (name : String) : List Node :=
  if name.isEmpty then []
  else [.label ⟨"text", centred (toString (rackWidth / 2)) "14.5" "middle"⟩ name.toList]

/-- The title, the frame and the devices of a rack. -/
def rack (base : Option String) (r : Rack) : Except Fault (List Node) := do
  let height ← integer (r.height * unitHeight)
  let frame : Node :=
    .leaf ⟨"rect", [.plain "x" "0", .plain "y" (toString margin), .plain "width" (toString rackWidth),
      .plain "height" height, .plain "fill" "url(#pattern-empty)", .plain "stroke" "black"]⟩
  let devices ← r.layout.mapM (placed base (margin + r.height * unitHeight))
  return title r.name ++ frame :: devices

/-- The groups of racks, the first of them at `x`. -/
def racks (base : Option String) (x : Int) : List Rack → Except Fault (List Node)
  | [] => .ok []
  | r :: rest => do
    let scaleNodes ← scale r.height
    let rackNodes ← rack base r
    let others ← racks base (x + rackWidth + rackSpacing) rest
    return moved (toString (x - 50)) "0" scaleNodes :: moved (toString x) "0" rackNodes :: others

/-- The look of links. -/
def style : Node :=
  .text ⟨"style", []⟩ ("\na text \x7b\n    fill: #0066cc;\n    text-decoration: underline;\n\x7d\n" ++
    "a:hover text \x7b\n    fill: #004499;\n\x7d\n").toList

/-- The pattern of an empty unit. -/
def pattern : Node :=
  .around ⟨"pattern", [.plain "id" "pattern-empty", .plain "patternUnits" "userSpaceOnUse",
      .plain "width" "25", .plain "height" "25"]⟩
    (.leaf ⟨"path", [.plain "d" "M 0 12.5 L 25 12.5", .plain "fill" "none", .plain "stroke" "#ccc",
      .plain "stroke-width" "1"]⟩)

/-- The document of a rack set. -/
def document (s : RackSet) : Except Fault Node := do
  let width ← integer s.canvasWidth
  let height ← integer s.canvasHeight
  let groups ← racks s.base margin s.racks
  return .group ⟨"svg", [.plain "xmlns" "http://www.w3.org/2000/svg",
      .plain "xmlns:xlink" "http://www.w3.org/1999/xlink", .plain "version" "1.1",
      .plain "baseProfile" "full", .plain "width" width, .plain "height" height]⟩
    (style :: pattern :: groups)

/-- The text of the document of a rack set. -/
def draw (s : RackSet) : Except Fault String := (document s).map fun d => String.ofList d.write

end RackElevation.Drawing
