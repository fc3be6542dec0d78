import RackElevation.Rack

/-
  Layout

  Devices are placed from the bottom of their rack upwards, the last one first.
  A device with a position stands there, any other on top of the one placed
  before it. Offsets count units from the bottom of the rack.

  What is proved:
    1. `place_length` — every device is placed once.
    2. `place_top` — a device takes as many units as it is high.
-/

namespace RackElevation

/-- A device with the units it takes: from `base`, inclusive, to `top`, exclusive. -/
structure Placed where
  device : Device
  base : Int
  top : Int
  deriving DecidableEq, Repr

/-- Places devices one after the other from a height upwards. -/
def place (floor : Int) : List Device → List Placed
  | [] => []
  | d :: rest =>
    let base := match d.position with
      | some p => p - 1
      | none => floor
    ⟨d, base, base + d.height⟩ :: place (base + d.height) rest

/-- The placed devices of a rack in the order of placement. -/
def Rack.layout (r : Rack) : List Placed := place 0 r.devices.reverse

/-- The space around the racks. -/
def margin : Int := 25

/-- The height of a rack unit. -/
def unitHeight : Int := 25

/-- The width of a rack. -/
def rackWidth : Int := 300

/-- The space between two racks. -/
def rackSpacing : Int := 25

/-- The number of characters of the longest device name. -/
def RackSet.longestName (s : RackSet) : Nat :=
  ((s.racks.flatMap Rack.devices).map fun d => d.name.length).foldl max 0

/-- The width reserved for the labels at the right. -/
def RackSet.labelWidth (s : RackSet) : Int := s.longestName * 8 + 32

/-- The height of the highest rack, that of a default rack if there is none. -/
def RackSet.tallest (s : RackSet) : Int :=
  match s.racks with
  | [] => defaultRackHeight
  | r :: rest => (rest.map Rack.height).foldl max r.height

/-- The width of the drawing. -/
def RackSet.canvasWidth (s : RackSet) : Int :=
  2 * margin + s.racks.length * rackWidth + (s.racks.length - 1 : Nat) * rackSpacing + s.labelWidth

/-- The height of the drawing. -/
def RackSet.canvasHeight (s : RackSet) : Int := 2 * margin + unitHeight * s.tallest

theorem place_length (floor : Int) (l : List Device) : (place floor l).length = l.length := by
  induction l generalizing floor with
  | nil => rfl
  | cons d l ih => simp [place, ih]

theorem place_top {floor : Int} {l : List Device} {p : Placed} (h : p ∈ place floor l) :
    p.top = p.base + p.device.height := by
  induction l generalizing floor with
  | nil => simp [place] at h
  | cons d l ih =>
    rcases List.mem_cons.1 h with rfl | h
    · rfl
    · exact ih h

end RackElevation
