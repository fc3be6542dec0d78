import RackElevation.Drawing
import RackElevation.Proofs.Layout
import RackElevation.Proofs.Markup.Reading

/-
  The tree of a drawing

  What a reader of a drawing finds: the style, the pattern, and for each rack a
  scale and the rack itself, at places that depend on the number of the rack
  only. Every text of the rack set occurs once for each place that shows it, as
  the value of an attribute or as the text of an element; the control characters
  that a document may not hold are gone from it.

  What is proved:
    1. `scale_numbers`, `scale_ticks` — a scale numbers its units from the top
       down and has one tick more than there are units.
-/

namespace RackElevation

namespace Plan

open Markup Drawing

/-- An attribute whose value does not depend on a text of the rack set. -/
def fixed (name value : String) : Pair := (name, value.toList)

/-- An attribute that holds a text of the rack set. -/
def given (name : String) (value : List Char) : Pair := (name, Entity.kept value)

/-- An element that shows a text of the rack set. -/
def label (attributes : List Pair) (content : String) : Tree :=
  .element "text" attributes (textTree (Entity.kept content.toList))

/-- The text of a fraction that was computed. -/
def fraction (x : Option Binary64) : String := (x.map fun x => (Real64.finite x).plainText).getD ""

/-- Attributes of text that is centred on a line. -/
def centred (x y anchor : String) : List Pair :=
  [fixed "x" x, fixed "y" y, fixed "text-anchor" anchor, fixed "dominant-baseline" "middle",
   fixed "font-family" "sans-serif"]

/-- A group moved by `x` and `y`, its children on lines of their own. -/
def moved (x y : String) (children : List Tree) : Tree :=
  .element "g" [fixed "transform" ("translate(" ++ x ++ ", " ++ y ++ ")")] (onLines children)

/-- A tick of the scale. -/
def tick (y : Int) : Tree :=
  .element "line" [fixed "x1" "30", fixed "y1" (toString y), fixed "x2" "46",
    fixed "y2" (toString y), fixed "stroke" "black", fixed "stroke-width" "2"] []

/-- The upper edge of a unit in a rack of a height. -/
def unitTop (height unit : Int) : Int := 25 + (height - unit) * 25

/-- The number of a unit. -/
def unitNumber (height unit : Int) : Tree :=
  .element "text" (centred "44" (fraction (unitMiddle (unitTop height unit))) "end" ++
    [fixed "font-size" "12"]) [.text (toString unit).toList]

/-- The scale of a rack. -/
def scale (height : Int) : List Tree :=
  (units height).flatMap (fun u => [unitNumber height u, tick (unitTop height u)]) ++
    [tick (25 + height * 25)]

/-- A shape of a symbol. -/
def shape (s : Svg.Shape) : Tree :=
  .element s.tag.name (s.tag.attributes.map fun a => (a.name, a.value)) []

/-- The symbol of a device, if its kind has one. -/
def symbol (kind : String) (height : Int) : List Tree :=
  match Svg.glyph? kind with
  | none => []
  | some shapes => [moved "10" (fraction (Binary64.half? (height - 16))) (shapes.map shape)]

/-- What is left of the address of a device, empty if there is none. -/
def target (base : Option String) (d : Device) : List Char :=
  match d.href with
  | none => []
  | some href =>
    if href.isEmpty then []
    else match address base href with
      | .ok a => Entity.kept a
      | .error _ => []

/-- The middle of a device. -/
def middle (d : Device) : String := fraction (twoAbove (Binary64.half? (d.height * 25)))

/-- The body of a device: its rectangle, its kind and its symbol. -/
def body (d : Device) : List Tree :=
  [.element "rect" [fixed "x" "0", fixed "y" "0", fixed "width" "300",
      fixed "height" (toString (d.height * 25)), given "fill" (deviceColor d).toList,
      fixed "stroke" "black"] [],
   label (centred "150" (middle d) "middle" ++ [fixed "font-size" "13"]) d.kind] ++
  symbol d.kind (d.height * 25)

/-- A link to a target around children. -/
def link (target : List Char) (children : List Tree) : Tree :=
  .element "a" [("href", target)] children

/-- The name of a device. -/
def name (d : Device) : Tree :=
  label (centred "316" (middle d) "start" ++ [fixed "font-size" "13"]) d.name

/-- A device: its body, and its name if it has one, each in a link if there is a target. -/
def device (target : List Char) (d : Device) : List Tree :=
  (if target.isEmpty then body d else [link target (onLines (body d))]) ++
  (if d.name.isEmpty then [] else [if target.isEmpty then name d else link target [name d]])

/-- The group of a placed device in a rack whose bottom is at `bottom`. -/
def placed (base : Option String) (bottom : Int) (p : Placed) : Tree :=
  moved "0" (toString (bottom - p.top * 25)) (device (target base p.device) p.device)

/-- The title of a rack, if it has a name. -/
def title (name : String) : List Tree :=
  if name.isEmpty then [] else [label (centred "150" "14.5" "middle") name]

/-- The frame of a rack. -/
def frame (height : Int) : Tree :=
  .element "rect" [fixed "x" "0", fixed "y" "25", fixed "width" "300",
    fixed "height" (toString (height * 25)), fixed "fill" "url(#pattern-empty)",
    fixed "stroke" "black"] []

/-- The title, the frame and the devices of a rack. -/
def rack (base : Option String) (r : Rack) : List Tree :=
  title r.name ++ frame r.height :: r.layout.map (placed base (25 + r.height * 25))

/-- The groups of racks, the first of which is number `i` of its set. -/
def racks (base : Option String) (i : Nat) : List Rack → List Tree
  | [] => []
  | r :: rest =>
    let x : Int := 25 + 325 * i
    moved (toString (x - 50)) "0" (scale r.height) :: moved (toString x) "0" (rack base r) ::
      racks base (i + 1) rest

/-- The look of links. -/
def style : Tree :=
  .element "style" [] [.text ("\na text \x7b\n    fill: #0066cc;\n    text-decoration: underline;\n" ++
    "\x7d\na:hover text \x7b\n    fill: #004499;\n\x7d\n").toList]

/-- The pattern of an empty unit. -/
def pattern : Tree :=
  .element "pattern" [fixed "id" "pattern-empty", fixed "patternUnits" "userSpaceOnUse",
      fixed "width" "25", fixed "height" "25"]
    [.element "path" [fixed "d" "M 0 12.5 L 25 12.5", fixed "fill" "none", fixed "stroke" "#ccc",
      fixed "stroke-width" "1"] []]

/-- The drawing of a rack set. -/
def document (s : RackSet) : Tree :=
  .element "svg" [fixed "xmlns" "http://www.w3.org/2000/svg",
      fixed "xmlns:xlink" "http://www.w3.org/1999/xlink", fixed "version" "1.1",
      fixed "baseProfile" "full", fixed "width" (toString s.canvasWidth),
      fixed "height" (toString s.canvasHeight)]
    (onLines (style :: pattern :: racks s.base 0 s.racks))

/-! ## What the tree holds -/

/-- The name of an element, empty for text. -/
def kind : Tree → String
  | .element name _ _ => name
  | .text _ => ""

/-- The text directly inside an element. -/
def inside : Tree → List Char
  | .element _ _ [.text content] => content
  | _ => []

/-- The numbers of a scale are those from the height of the rack down to one. -/
theorem scale_numbers (height : Int) :
    ((scale height).filter (kind · == "text")).map inside =
      (List.range height.toNat).map fun (i : Nat) => (toString (height - i)).toList := by
  have hunits : ∀ l : List Int, ((l.flatMap fun u => [unitNumber height u,
      tick (unitTop height u)]).filter (kind · == "text")).map inside =
        l.map fun u => (toString u).toList := by
    intro l
    induction l with
    | nil => rfl
    | cons u l ih =>
      rw [List.flatMap_cons, List.filter_append, List.map_append, ih]
      rfl
  rw [scale, List.filter_append, List.map_append, hunits, units, List.map_map]
  simp [kind, tick]

theorem scale_ticks (height : Int) :
    ((scale height).filter (kind · == "line")).length = height.toNat + 1 := by
  have hunits : ∀ l : List Int, ((l.flatMap fun u => [unitNumber height u,
      tick (unitTop height u)]).filter (kind · == "line")).length = l.length := by
    intro l
    induction l with
    | nil => rfl
    | cons u l ih =>
      rw [List.flatMap_cons, List.filter_append, List.length_append, ih, List.length_cons]
      simp [kind, tick, unitNumber, Nat.add_comm]
  rw [scale, List.filter_append, List.length_append, hunits, units]
  simp [kind, tick]

end Plan

end RackElevation
