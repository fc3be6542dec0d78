import RackElevation.Proofs.Decimal.Half
import RackElevation.Proofs.Drawing.Document
import RackElevation.Proofs.Drawing.Measure

/-
  The survey of a drawing

  What a reader who knows nothing of rack sets measures on a drawing: the size
  of the canvas, and for each rack the numbers and ticks of its scale, its frame,
  and the bodies and names of its devices, each with the place to which its group
  is moved.

  What is proved:
    1. `survey?_document` — what is measured on the plan of a rack set.
    2. `surveyed_draw` — so this is what is measured on its drawing.
-/

namespace RackElevation

open Markup
open Plan (kind inside)

/-! ## What is measured -/

/-- The number of a unit, the height at which it stands if it can be measured, and the tick that is
drawn with it. -/
structure UnitMark where
  number : ℚ
  height : Option ℚ
  tick : Segment

/-- The units of a scale and the tick that closes it. -/
structure Ruler where
  marks : List UnitMark
  closing : Segment

/-- The lines of a scale. -/
def Ruler.ticks (r : Ruler) : List Segment := r.marks.map UnitMark.tick ++ [r.closing]

/-- The group of a device: where it is moved, its body, and where its name starts if it has one. -/
structure DeviceView where
  shift : ℚ × ℚ
  body : Box
  label : Option ℚ

/-- The groups of a rack and of its scale. -/
structure RackView where
  scaleShift : ℚ × ℚ
  ruler : Ruler
  shift : ℚ × ℚ
  frame : Box
  devices : List DeviceView

/-- The size of a drawing and its racks. -/
structure Survey where
  width : ℚ
  height : ℚ
  racks : List RackView

/-! ## How it is measured -/

/-- The number and the tick of a unit. -/
def unitMark? (label line : Tree) : Option UnitMark :=
  if kind label = "text" then do
    return ⟨← number? (inside label), label.measure? "y", ← line.segment?⟩
  else none

/-- Numbers and ticks in turn, and a last tick. -/
def ruler? : List Tree → Option Ruler
  | [] => none
  | [line] => line.segment?.map fun closing => ⟨[], closing⟩
  | label :: line :: rest => do
    let mark ← unitMark? label line
    let r ← ruler? rest
    return ⟨mark :: r.marks, r.closing⟩

/-- An element without the link around it. -/
def unlinked (t : Tree) : List Tree := if kind t = "a" then t.elements else [t]

/-- The group of a device. -/
def deviceView? (t : Tree) : Option DeviceView := do
  let parts := t.elements.flatMap unlinked
  let shift ← t.move?
  let body ← (← parts.find? (kind · = "rect")).box?
  let label := (parts.find? (·.attribute? "text-anchor" = some "start".toList)).bind (·.measure? "x")
  return ⟨shift, body, label⟩

/-- The groups of a scale and its rack. -/
def rackView? (scale rack : Tree) : Option RackView := do
  let frame ← (← rack.elements.find? (kind · = "rect")).box?
  let devices ← (rack.elements.filter (kind · = "g")).mapM deviceView?
  return ⟨← scale.move?, ← ruler? scale.elements, ← rack.move?, frame, devices⟩

/-- Groups of scales and racks in turn. -/
def rackViews? : List Tree → Option (List RackView)
  | [] => some []
  | [_] => none
  | scale :: rack :: rest => do return (← rackView? scale rack) :: (← rackViews? rest)

/-- The survey of a document. -/
def survey? (t : Tree) : Option Survey := do
  let racks ← rackViews? (t.elements.filter (kind · = "g"))
  return ⟨← t.measure? "width", ← t.measure? "height", racks⟩

/-- The survey of a drawing. -/
def surveyed (out : String) : Option Survey := Markup.read out.toList >>= survey?

/-! ## What is expected -/

namespace Plan

/-- The line of a tick. -/
def tickLine (y : Int) : Segment := ⟨(30 : Int), y, (46 : Int), y⟩

/-- The number and the tick of a unit. -/
def unitMark (height unit : Int) : UnitMark :=
  ⟨unit, number? (fraction (Drawing.unitMiddle (unitTop height unit))).toList,
    tickLine (unitTop height unit)⟩

/-- The scale of a rack. -/
def ruler (height : Int) : Ruler :=
  ⟨(Drawing.units height).map (unitMark height), tickLine (25 + height * 25)⟩

/-- A placed device in a rack whose bottom is at `bottom`. -/
def deviceView (bottom : Int) (p : Placed) : DeviceView :=
  ⟨((0 : Int), (bottom - p.top * 25 : Int)),
    ⟨(0 : Int), (0 : Int), (300 : Int), (p.device.height * 25 : Int)⟩,
    if p.device.name.isEmpty then none else some (316 : Int)⟩

/-- The rack that is number `i` of its set. -/
def rackView (i : Nat) (r : Rack) : RackView where
  scaleShift := ((25 + 325 * i - 50 : Int), (0 : Int))
  ruler := ruler r.height
  shift := ((25 + 325 * i : Int), (0 : Int))
  frame := ⟨(0 : Int), (25 : Int), (300 : Int), (r.height * 25 : Int)⟩
  devices := r.layout.map (deviceView (25 + r.height * 25))

/-- The racks of a set, the first of which is number `i`. -/
def rackViews (i : Nat) : List Rack → List RackView
  | [] => []
  | r :: rest => rackView i r :: rackViews (i + 1) rest

/-- The survey of a rack set. -/
def survey (s : RackSet) : Survey := ⟨s.canvasWidth, s.canvasHeight, rackViews 0 s.racks⟩

end Plan

/-! ## Attributes -/

section Attributes

variable {t : Tree}

theorem kind_ne_of_mem {names : List String} (h : kind t ∈ names) {name : String}
    (hname : name ∉ names) : kind t ≠ name := fun heq => hname (heq ▸ h)

theorem measure?_eq {name : String} {s : List Char} (h : t.attribute? name = some s) :
    t.measure? name = number? s := by
  rw [Tree.measure?, h]
  rfl

theorem measure?_of_attribute {name : String} {n : Int}
    (h : t.attribute? name = some (toString n).toList) : t.measure? name = some (n : ℚ) := by
  rw [measure?_eq h, number?_integer]

theorem move?_of_attribute {x y : Int} (h : t.attribute? "transform" =
    some ("translate(" ++ toString x ++ ", " ++ toString y ++ ")").toList) :
    t.move? = some ((x : ℚ), (y : ℚ)) := by
  rw [Tree.move?, h]
  exact translation?_integers x y

theorem box?_of_attributes {x y width height : Int} (hkind : kind t = "rect")
    (hx : t.attribute? "x" = some (toString x).toList)
    (hy : t.attribute? "y" = some (toString y).toList)
    (hwidth : t.attribute? "width" = some (toString width).toList)
    (hheight : t.attribute? "height" = some (toString height).toList) :
    t.box? = some ⟨x, y, width, height⟩ := by
  rw [Tree.box?, if_pos hkind, measure?_of_attribute hx, measure?_of_attribute hy,
    measure?_of_attribute hwidth, measure?_of_attribute hheight]
  rfl

theorem segment?_of_attributes {x₁ y₁ x₂ y₂ : Int} (hkind : kind t = "line")
    (hx₁ : t.attribute? "x1" = some (toString x₁).toList)
    (hy₁ : t.attribute? "y1" = some (toString y₁).toList)
    (hx₂ : t.attribute? "x2" = some (toString x₂).toList)
    (hy₂ : t.attribute? "y2" = some (toString y₂).toList) :
    t.segment? = some ⟨x₁, y₁, x₂, y₂⟩ := by
  rw [Tree.segment?, if_pos hkind, measure?_of_attribute hx₁, measure?_of_attribute hy₁,
    measure?_of_attribute hx₂, measure?_of_attribute hy₂]
  rfl

end Attributes

namespace Plan

/-! ## The scale -/

theorem segment?_tick (y : Int) : (tick y).segment? = some (tickLine y) :=
  segment?_of_attributes rfl rfl rfl rfl rfl

theorem unitMark?_unit (height unit : Int) :
    unitMark? (unitNumber height unit) (tick (unitTop height unit)) = some (unitMark height unit) := by
  have hkind : kind (unitNumber height unit) = "text" := rfl
  have hnumber : number? (inside (unitNumber height unit)) = some (unit : ℚ) := number?_integer unit
  have hheight : (unitNumber height unit).measure? "y" = _ := measure?_eq rfl
  rw [unitMark?, if_pos hkind, hnumber, hheight, segment?_tick, unitMark]
  rfl

theorem ruler?_scale (height : Int) : ruler? (scale height) = some (ruler height) := by
  rw [scale, ruler]
  induction Drawing.units height with
  | nil =>
    rw [List.flatMap_nil, List.nil_append, ruler?, segment?_tick]
    rfl
  | cons u l ih =>
    rw [List.flatMap_cons, List.append_assoc, List.cons_append, List.cons_append, List.nil_append,
      ruler?, unitMark?_unit, ih]
    simp

theorem kind_scale (height : Int) : ∀ t ∈ scale height, kind t ∈ ["text", "line"] := by
  have htext : "text" ∈ ["text", "line"] := by decide
  have hline : "line" ∈ ["text", "line"] := by decide
  intro t ht
  rcases List.mem_append.1 ht with ht | ht
  · obtain ⟨u, _, ht⟩ := List.mem_flatMap.1 ht
    rcases List.mem_cons.1 ht with rfl | ht
    · exact htext
    · exact List.mem_singleton.1 ht ▸ hline
  · exact List.mem_singleton.1 ht ▸ hline

/-! ## Devices -/

theorem elements_moved {x y : String} {children : List Tree} {names : List String}
    (h : ∀ t ∈ children, kind t ∈ names) (hnames : "" ∉ names) :
    (moved x y children).elements = children :=
  elements_onLines fun t ht => kind_ne_of_mem (h t ht) hnames

theorem move?_moved (x y : Int) (children : List Tree) :
    (moved (toString x) (toString y) children).move? = some ((x : ℚ), (y : ℚ)) :=
  move?_of_attribute rfl

/-- The rectangle of a device. -/
def rectangle (d : Device) : Tree :=
  .element "rect" [fixed "x" "0", fixed "y" "0", fixed "width" "300",
    fixed "height" (toString (d.height * 25)), given "fill" (Drawing.deviceColor d).toList,
    fixed "stroke" "black"] []

/-- The name of a device, if it has one. -/
def names (d : Device) : List Tree := if d.name.isEmpty then [] else [name d]

/-- A body is a rectangle and what does not look like the start of a name. -/
theorem body_eq (d : Device) : ∃ rest, body d = rectangle d :: rest ∧
    ∀ t ∈ rest, kind t ∈ ["text", "g"] ∧ t.attribute? "text-anchor" ≠ some "start".toList := by
  refine ⟨_, rfl, ?_⟩
  intro t ht
  rcases List.mem_cons.1 ht with rfl | ht
  · exact ⟨(by decide : "text" ∈ ["text", "g"]), (by decide : some "middle".toList ≠ some "start".toList)⟩
  · rw [symbol] at ht
    split at ht
    · cases ht
    · rw [List.mem_singleton.1 ht]
      exact ⟨(by decide : "g" ∈ ["text", "g"]), (by decide : none ≠ some "start".toList)⟩

theorem kind_body (d : Device) : ∀ t ∈ body d, kind t ∈ ["rect", "text", "g"] := by
  obtain ⟨rest, hbody, hrest⟩ := body_eq d
  intro t ht
  rw [hbody] at ht
  rcases List.mem_cons.1 ht with rfl | ht
  · exact (by decide : "rect" ∈ ["rect", "text", "g"])
  · exact List.mem_cons_of_mem _ (hrest t ht).1

theorem kind_device (target : List Char) (d : Device) :
    ∀ t ∈ device target d, kind t ∈ ["a", "rect", "text", "g"] := by
  have hlink : "a" ∈ ["a", "rect", "text", "g"] := by decide
  have htext : "text" ∈ ["a", "rect", "text", "g"] := by decide
  intro t ht
  rcases List.mem_append.1 ht with ht | ht
  · split at ht
    · exact List.mem_cons_of_mem _ (kind_body d t ht)
    · exact List.mem_singleton.1 ht ▸ hlink
  · split at ht
    · cases ht
    · rw [List.mem_singleton.1 ht]
      split
      · exact htext
      · exact hlink

/-- Without its links a device is its body and its name. -/
theorem unlinked_device (target : List Char) (d : Device) :
    (device target d).flatMap unlinked = body d ++ names d := by
  have hplain : ∀ ts : List Tree, (∀ t ∈ ts, kind t ≠ "a") → ts.flatMap unlinked = ts := by
    intro ts h
    have hself : ts.flatMap unlinked = ts.flatMap fun t => [t] :=
      List.flatMap_congr fun t ht => if_neg (h t ht)
    rw [hself, List.flatMap_singleton']
  have hlink : ∀ children, unlinked (link target children) = (link target children).elements :=
    fun _ => if_pos rfl
  rw [device, List.flatMap_append]
  congr 1
  · split
    · exact hplain _ fun t ht => kind_ne_of_mem (kind_body d t ht) (by decide)
    · rw [List.flatMap_singleton, hlink]
      exact elements_onLines fun t ht => kind_ne_of_mem (kind_body d t ht) (by decide)
  · rw [names]
    split
    · rfl
    · rw [List.flatMap_singleton]
      split
      · exact if_neg (by decide : "text" ≠ "a")
      · rw [hlink]
        rfl

theorem box?_rectangle (d : Device) : (rectangle d).box? =
    some ⟨(0 : Int), (0 : Int), (300 : Int), (d.height * 25 : Int)⟩ :=
  box?_of_attributes rfl rfl rfl rfl rfl

/-- Of all parts of a device only its name starts where it is put. -/
theorem label_device (d : Device) :
    ((body d ++ names d).find? (·.attribute? "text-anchor" = some "start".toList)).bind
      (·.measure? "x") = if d.name.isEmpty then none else some ((316 : Int) : ℚ) := by
  obtain ⟨rest, hbody, hrest⟩ := body_eq d
  have hrectangle : (rectangle d).attribute? "text-anchor" ≠ some "start".toList :=
    (by decide : none ≠ some "start".toList)
  have hnone : (body d).find? (·.attribute? "text-anchor" = some "start".toList) = none := by
    rw [hbody, List.find?_eq_none]
    intro t ht
    rw [decide_eq_true_eq]
    rcases List.mem_cons.1 ht with rfl | ht
    · exact hrectangle
    · exact (hrest t ht).2
  rw [List.find?_append, hnone, Option.none_or, names]
  split
  · rfl
  · have hanchor : (name d).attribute? "text-anchor" = some "start".toList := rfl
    rw [List.find?_cons_of_pos (by simpa using hanchor), Option.bind_some]
    exact measure?_of_attribute rfl

theorem deviceView?_placed (base : Option String) (bottom : Int) (p : Placed) :
    deviceView? (placed base bottom p) = some (deviceView bottom p) := by
  obtain ⟨rest, hbody, _⟩ := body_eq p.device
  have hparts : (placed base bottom p).elements.flatMap unlinked = body p.device ++ names p.device := by
    rw [placed, elements_moved (kind_device _ _) (by decide), unlinked_device]
  have hmove : (placed base bottom p).move? = some (((0 : Int) : ℚ), ((bottom - p.top * 25 : Int) : ℚ)) :=
    move?_moved 0 _ _
  have hkind : kind (rectangle p.device) = "rect" := rfl
  have hfirst : (body p.device ++ names p.device).find? (kind · = "rect") = some (rectangle p.device) := by
    rw [hbody, List.cons_append, List.find?_cons_of_pos (by simpa using hkind)]
  rw [deviceView?, hparts, label_device, hmove, hfirst]
  simp only [Option.bind_eq_bind, Option.bind_some, box?_rectangle]
  rfl

/-! ## Racks -/

theorem kind_rack (base : Option String) (r : Rack) : ∀ t ∈ rack base r, kind t ∈ ["text", "rect", "g"] := by
  have htext : "text" ∈ ["text", "rect", "g"] := by decide
  have hrect : "rect" ∈ ["text", "rect", "g"] := by decide
  have hgroup : "g" ∈ ["text", "rect", "g"] := by decide
  intro t ht
  rcases List.mem_append.1 ht with ht | ht
  · rw [title] at ht
    split at ht
    · cases ht
    · exact List.mem_singleton.1 ht ▸ htext
  · rcases List.mem_cons.1 ht with rfl | ht
    · exact hrect
    · obtain ⟨p, _, rfl⟩ := List.mem_map.1 ht
      exact hgroup

theorem box?_frame (height : Int) :
    (frame height).box? = some ⟨(0 : Int), (25 : Int), (300 : Int), (height * 25 : Int)⟩ :=
  box?_of_attributes rfl rfl rfl rfl rfl

/-- The parts of a rack, told apart by their kinds. -/
theorem groups_rack (base : Option String) (r : Rack) :
    (rack base r).find? (kind · = "rect") = some (frame r.height) ∧
      (rack base r).filter (kind · = "g") = r.layout.map (placed base (25 + r.height * 25)) := by
  have htitle : (title r.name).find? (kind · = "rect") = none ∧
      (title r.name).filter (kind · = "g") = [] := by
    rw [title]
    split <;> exact ⟨rfl, rfl⟩
  have hframe : kind (frame r.height) = "rect" := rfl
  have hplaced : ∀ t ∈ r.layout.map (placed base (25 + r.height * 25)), kind t = "g" := by
    intro t ht
    obtain ⟨p, _, rfl⟩ := List.mem_map.1 ht
    rfl
  constructor
  · rw [rack, List.find?_append, htitle.1, Option.none_or,
      List.find?_cons_of_pos (by simpa using hframe)]
  · rw [rack, List.filter_append, htitle.2, List.nil_append,
      List.filter_cons_of_neg (by simp [hframe]), List.filter_eq_self]
    exact fun t ht => decide_eq_true (hplaced t ht)

theorem rackView?_rack (base : Option String) (i : Nat) (r : Rack) :
    rackView? (moved (toString (25 + 325 * i - 50 : Int)) "0" (scale r.height))
      (moved (toString (25 + 325 * i : Int)) "0" (rack base r)) = some (rackView i r) := by
  obtain ⟨hframe, hgroups⟩ := groups_rack base r
  have hdevices : (r.layout.map (placed base (25 + r.height * 25))).mapM deviceView? =
      some (r.layout.map (deviceView (25 + r.height * 25))) := by
    have hviews : deviceView? ∘ placed base (25 + r.height * 25) =
        fun p => pure (deviceView (25 + r.height * 25) p) := funext fun p => deviceView?_placed base _ p
    rw [List.mapM_map, hviews, List.mapM_pure]
    rfl
  have hscale : (moved (toString (25 + 325 * i - 50 : Int)) "0" (scale r.height)).move? = some _ :=
    move?_moved _ 0 _
  have hrack : (moved (toString (25 + 325 * i : Int)) "0" (rack base r)).move? = some _ :=
    move?_moved _ 0 _
  rw [rackView?, elements_moved (kind_scale _) (by decide), elements_moved (kind_rack _ _) (by decide),
    hframe, hgroups, hdevices, hscale, hrack]
  simp only [Option.bind_eq_bind, Option.bind_some, box?_frame, ruler?_scale]
  rfl

theorem rackViews?_racks (base : Option String) (i : Nat) (l : List Rack) :
    rackViews? (racks base i l) = some (rackViews i l) := by
  induction l generalizing i with
  | nil => rfl
  | cons r l ih =>
    rw [racks, rackViews?, rackView?_rack, ih]
    rfl

theorem kind_racks (base : Option String) (i : Nat) (l : List Rack) :
    ∀ t ∈ racks base i l, kind t = "g" := by
  induction l generalizing i with
  | nil => exact fun t ht => nomatch ht
  | cons r l ih => exact List.forall_mem_cons.2 ⟨rfl, List.forall_mem_cons.2 ⟨rfl, ih (i + 1)⟩⟩

/-- The groups of a document are those of its racks and their scales. -/
theorem groups_document (s : RackSet) :
    (document s).elements.filter (kind · = "g") = racks s.base 0 s.racks := by
  have hkinds : ∀ t ∈ style :: pattern :: racks s.base 0 s.racks, kind t ≠ "" := by
    refine List.forall_mem_cons.2 ⟨by decide, List.forall_mem_cons.2 ⟨by decide, ?_⟩⟩
    intro t ht
    rw [kind_racks _ _ _ t ht]
    decide
  have helements : (document s).elements = style :: pattern :: racks s.base 0 s.racks :=
    elements_onLines hkinds
  rw [helements, List.filter_cons_of_neg (by decide), List.filter_cons_of_neg (by decide),
    List.filter_eq_self]
  exact fun t ht => decide_eq_true (kind_racks _ _ _ t ht)

theorem survey?_document (s : RackSet) : survey? (document s) = some (survey s) := by
  have hwidth : (document s).measure? "width" = some (s.canvasWidth : ℚ) := measure?_of_attribute rfl
  have hheight : (document s).measure? "height" = some (s.canvasHeight : ℚ) := measure?_of_attribute rfl
  rw [survey?, groups_document, rackViews?_racks, hwidth, hheight]
  rfl

theorem length_rackViews (i : Nat) (l : List Rack) : (rackViews i l).length = l.length := by
  induction l generalizing i with
  | nil => rfl
  | cons r l ih => rw [rackViews, List.length_cons, List.length_cons, ih]

theorem getElem?_rackViews (i : Nat) (l : List Rack) (j : Nat) :
    (rackViews i l)[j]? = l[j]?.map (rackView (i + j)) := by
  induction l generalizing i j with
  | nil => rfl
  | cons r l ih =>
    cases j with
    | zero => rfl
    | succ j =>
      rw [rackViews, List.getElem?_cons_succ, List.getElem?_cons_succ, ih, Nat.add_right_comm, Nat.add_assoc]

end Plan

/-- What is measured on a drawing. -/
theorem surveyed_draw {s : RackSet} {out : String} (h : Drawing.draw s = .ok out) :
    surveyed out = some (Plan.survey s) := by
  rw [surveyed, read_of_draw h]
  exact Plan.survey?_document s

end RackElevation
