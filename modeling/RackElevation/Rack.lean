/-
  Racks

  A rack set is a row of racks; a rack is a stack of devices, listed from the
  top down. Heights and positions count rack units (U); position 1 is the
  lowest unit.

  What is proved:
    1. `Rack.valid_default`, `RackSet.valid_empty` — what is built from nothing
       keeps the bounds.
-/

namespace RackElevation

/-- One device of a rack. -/
structure Device where
  kind : String
  name : String := ""
  height : Int := 1
  href : Option String := none
  color : Option String := none
  position : Option Int := none
  category : Option String := none
  deriving DecidableEq, Repr

/-- The height of a rack that does not say how high it is. -/
def defaultRackHeight : Int := 42

/-- One rack, its devices from the top down. -/
structure Rack where
  name : String := ""
  height : Int := defaultRackHeight
  devices : List Device := []
  deriving DecidableEq, Repr

/-- A row of racks; relative links are relative to `base`. -/
structure RackSet where
  base : Option String := none
  id : Option String := none
  racks : List Rack := []
  deriving DecidableEq, Repr

/-- Heights and positions start at one. -/
def Device.Valid (d : Device) : Prop := 1 ≤ d.height ∧ ∀ p ∈ d.position, 1 ≤ p

/-- The rack and each of its devices keep their bounds. -/
def Rack.Valid (r : Rack) : Prop := 1 ≤ r.height ∧ ∀ d ∈ r.devices, d.Valid

/-- Each rack keeps its bounds. -/
def RackSet.Valid (s : RackSet) : Prop := ∀ r ∈ s.racks, r.Valid

theorem Rack.valid_default : ({} : Rack).Valid := by
  simp [Rack.Valid, defaultRackHeight]

theorem RackSet.valid_empty : ({} : RackSet).Valid := by
  simp [RackSet.Valid]

end RackElevation
