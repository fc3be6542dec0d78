import Mathlib.Algebra.Order.BigOperators.Group.List
import Mathlib.Algebra.Order.Ring.Int
import RackElevation.Layout

/-
  Places of devices

  Where a device stands follows from its own position, or from the top of the one
  placed before it.

  What is proved:
    1. `place_cons` — one device is placed, and the others on top of it.
    2. `Rack.layout_device` — the devices of a rack are placed in reverse order.
    3. `forall_layout_iff` — what holds of each device holds of each placed one.
    4. `Rack.layout_upright` — in a rack that keeps its bounds every device stands
       at or above the bottom and takes at least one unit.
-/

namespace RackElevation

/-- Where a device is placed after others that reach up to `floor`. -/
def Device.baseOn (d : Device) (floor : Int) : Int := (d.position.map (· - 1)).getD floor

theorem Device.baseOn_of_none {d : Device} (h : d.position = none) (floor : Int) :
    d.baseOn floor = floor := by
  rw [Device.baseOn, h]
  rfl

theorem Device.baseOn_of_some {d : Device} {n : Int} (h : d.position = some n) (floor : Int) :
    d.baseOn floor = n - 1 := by
  rw [Device.baseOn, h]
  rfl

theorem place_cons (floor : Int) (d : Device) (l : List Device) :
    place floor (d :: l) = ⟨d, d.baseOn floor, d.baseOn floor + d.height⟩ ::
      place (d.baseOn floor + d.height) l := by
  rw [place, Device.baseOn]
  cases d.position <;> rfl

theorem place_device (floor : Int) (l : List Device) : (place floor l).map Placed.device = l := by
  induction l generalizing floor with
  | nil => rfl
  | cons d l ih => simp [place, ih]

theorem Rack.layout_device (r : Rack) : r.layout.map Placed.device = r.devices.reverse :=
  place_device 0 r.devices.reverse

theorem mem_layout_device {r : Rack} {p : Placed} (h : p ∈ r.layout) : p.device ∈ r.devices := by
  have hmem : p.device ∈ r.layout.map Placed.device := List.mem_map_of_mem h
  rw [r.layout_device] at hmem
  exact List.mem_reverse.1 hmem

theorem forall_layout_iff {r : Rack} {P : Device → Prop} :
    (∀ p ∈ r.layout, P p.device) ↔ ∀ d ∈ r.devices, P d := by
  rw [← List.forall_mem_map (f := Placed.device) (P := P), r.layout_device]
  simp

/-- A device that stands at or above the bottom of its rack and takes units upwards. -/
def Placed.Upright (p : Placed) : Prop := 0 ≤ p.base ∧ p.base < p.top

theorem place_upright {floor : Int} {l : List Device} (hfloor : 0 ≤ floor)
    (hl : ∀ d ∈ l, d.Valid) : ∀ p ∈ place floor l, p.Upright := by
  induction l generalizing floor with
  | nil => exact fun p hp => nomatch hp
  | cons d l ih =>
    obtain ⟨⟨hheight, hposition⟩, hrest⟩ := List.forall_mem_cons.1 hl
    have hbase : 0 ≤ d.baseOn floor := by
      cases hd : d.position with
      | none => rwa [Device.baseOn_of_none hd]
      | some n =>
        have := hposition n hd
        rw [Device.baseOn_of_some hd]
        omega
    have htop : d.baseOn floor < d.baseOn floor + d.height := by omega
    rw [place_cons]
    exact List.forall_mem_cons.2 ⟨⟨hbase, htop⟩, ih (by omega) hrest⟩

theorem Rack.layout_upright {r : Rack} (h : r.Valid) : ∀ p ∈ r.layout, p.Upright :=
  place_upright (Int.le_refl 0) fun d hd => h.2 d (List.mem_reverse.1 hd)

theorem sum_height_nonneg {l : List Device} (h : ∀ d ∈ l, 1 ≤ d.height) :
    0 ≤ (l.map Device.height).sum := by
  apply List.sum_nonneg
  rw [List.forall_mem_map]
  intro d hd
  have := h d hd
  omega

end RackElevation
