import Mathlib.Order.Lattice
import Mathlib.Order.Nat
import RackElevation.Layout

/-
  Changing devices

  A rack set is changed device by device: each device becomes another one at the
  same place of its rack. Racks and their order stay, and as long as no device
  gets another height or position, so does the layout.

  What is proved:
    1. `RackSet.devices_mapDevices` — the devices of a changed set, in order.
    2. `RackSet.mapDevices_eq_self` — a set whose devices all stay is the same set.
    3. `RackSet.length_le_longestName` — no device has a longer name.
    4. `RackSet.canvasHeight_congr` — racks of the same heights need the same room.
    5. `Rack.layout_mapDevices` — a changed rack is laid out like the rack itself.
-/

namespace RackElevation

def RackSet.devices (s : RackSet) : List Device := s.racks.flatMap Rack.devices

def Rack.mapDevices (g : Device → Device) (r : Rack) : Rack :=
  { r with devices := r.devices.map g }

def RackSet.mapDevices (g : Device → Device) (s : RackSet) : RackSet :=
  { s with racks := s.racks.map (Rack.mapDevices g) }

def Placed.mapDevice (g : Device → Device) (p : Placed) : Placed := { p with device := g p.device }

/-- A change after which a device takes the same units. -/
structure KeepsPlace (g : Device → Device) : Prop where
  height : ∀ d, (g d).height = d.height
  position : ∀ d, (g d).position = d.position

variable {g h : Device → Device}

theorem RackSet.mem_devices {s : RackSet} {d : Device} :
    d ∈ s.devices ↔ ∃ r ∈ s.racks, d ∈ r.devices := List.mem_flatMap

@[simp] theorem RackSet.devices_mapDevices (s : RackSet) :
    (s.mapDevices g).devices = s.devices.map g := by
  simp only [RackSet.devices, RackSet.mapDevices, List.flatMap_map, List.map_flatMap]
  rfl

theorem Rack.mapDevices_congr {r : Rack} (hd : ∀ d ∈ r.devices, g d = h d) :
    r.mapDevices g = r.mapDevices h := by
  simp only [Rack.mapDevices, List.map_congr_left hd]

theorem RackSet.mapDevices_congr {s : RackSet} (hd : ∀ d ∈ s.devices, g d = h d) :
    s.mapDevices g = s.mapDevices h := by
  have hracks : ∀ r ∈ s.racks, r.mapDevices g = r.mapDevices h := by
    intro r hr
    apply Rack.mapDevices_congr
    exact fun d hmem => hd d (RackSet.mem_devices.2 ⟨r, hr, hmem⟩)
  simp only [RackSet.mapDevices, List.map_congr_left hracks]

theorem RackSet.mapDevices_eq_self {s : RackSet} (hd : ∀ d ∈ s.devices, g d = d) :
    s.mapDevices g = s := by
  have hself : Rack.mapDevices (fun d => d) = fun r => r := by
    funext r
    simp [Rack.mapDevices]
  calc s.mapDevices g = s.mapDevices fun d => d := RackSet.mapDevices_congr hd
    _ = s := by simp [RackSet.mapDevices, hself]

theorem le_foldl_max {α : Type} [LinearOrder α] (l : List α) (x : α) :
    x ≤ l.foldl max x ∧ ∀ y ∈ l, y ≤ l.foldl max x := by
  induction l generalizing x with
  | nil => exact ⟨le_refl x, fun y hy => nomatch hy⟩
  | cons z l ih =>
    obtain ⟨hmax, hrest⟩ := ih (max x z)
    refine ⟨(le_max_left x z).trans hmax, List.forall_mem_cons.2 ⟨?_, hrest⟩⟩
    exact (le_max_right x z).trans hmax

theorem RackSet.length_le_longestName {s : RackSet} {d : Device} (hd : d ∈ s.devices) :
    d.name.length ≤ s.longestName := (le_foldl_max _ 0).2 _ (List.mem_map_of_mem hd)

/-- Only the heights of the racks decide how high a drawing is. -/
theorem RackSet.canvasHeight_congr {s t : RackSet}
    (h : s.racks.map Rack.height = t.racks.map Rack.height) : s.canvasHeight = t.canvasHeight := by
  have htallest : ∀ s : RackSet, s.tallest = match s.racks.map Rack.height with
      | [] => defaultRackHeight
      | height :: rest => rest.foldl max height := by
    intro s
    rw [RackSet.tallest]
    cases s.racks <;> rfl
  rw [RackSet.canvasHeight, RackSet.canvasHeight, htallest, htallest, h]

theorem place_map (hg : KeepsPlace g) (floor : Int) (l : List Device) :
    place floor (l.map g) = (place floor l).map (Placed.mapDevice g) := by
  induction l generalizing floor with
  | nil => rfl
  | cons d l ih =>
    simp only [List.map_cons, place, hg.height, hg.position, ih]
    rfl

theorem Rack.layout_mapDevices (hg : KeepsPlace g) (r : Rack) :
    (r.mapDevices g).layout = r.layout.map (Placed.mapDevice g) := by
  rw [Rack.layout, Rack.mapDevices, ← List.map_reverse, place_map hg]
  rfl

end RackElevation
