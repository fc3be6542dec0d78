import Mathlib.Tactic.Ring
import RackElevation.Proofs.Drawing.Limits
import RackElevation.Proofs.Drawing.Survey

/-
  Devices and the scale of their rack

  A scale counts its units from the top down and a rack is filled from the
  bottom up, each with its own arithmetic. On the drawing the two agree: a device
  reaches from the tick above its top unit down to the tick above the unit below
  it, and covers just the numbers of its units. This holds of every device, also
  of one that stands out of its rack.

  A number stands in the middle of its unit, half a pixel off an integer. Where
  coordinates are below 2^50 it is written with this half, and so is measured.

  What is proved:
    1. `unitMiddle_eq` — the middle of a unit is computed without an error.
    2. `onScale_rackView` — a rack agrees with its scale on the plan.
    3. `onScale_of_draw` — so it does on every drawing.
-/

namespace RackElevation

open Markup

/-! ## The agreement -/

/-- A device on the scale of a rack of a height, with the offsets at which it is placed. -/
structure DeviceView.OnScale (v : DeviceView) (ruler : Ruler) (frame : Box) (height : Int)
    (p : Placed) : Prop where
  /-- The body starts where the group is moved. -/
  origin : v.body.y = 0
  /-- It starts at the tick of its top unit. -/
  upper : 1 ≤ p.top → p.top ≤ height →
    ∃ m ∈ ruler.marks, m.number = p.top ∧ m.tick.At v.shift.2
  /-- It ends at the tick of the unit below it. -/
  lower : 1 ≤ p.base → p.base ≤ height →
    ∃ m ∈ ruler.marks, m.number = p.base ∧ m.tick.At (v.shift.2 + v.body.height)
  /-- Without a unit below it, it ends at the tick that closes the scale. -/
  floor : p.base = 0 → ruler.closing.At (v.shift.2 + v.body.height)
  /-- It covers the numbers of its units and no others. -/
  covers : 25 + 25 * height < 2 ^ 50 → ∀ m ∈ ruler.marks, ∃ y ∈ m.height,
    (v.shift.2 < y ∧ y < v.shift.2 + v.body.height ↔ p.base < m.number ∧ m.number ≤ p.top)
  /-- It lies in the frame exactly if its units are units of the rack. -/
  inside : (v.body.moved v.shift).Within frame ↔ 0 ≤ p.base ∧ p.top ≤ height

/-- A rack and its devices on its scale. -/
structure RackView.OnScale (v : RackView) (r : Rack) : Prop where
  /-- The rack is as high up as its scale. -/
  level : v.scaleShift.2 = v.shift.2
  /-- The units are numbered from the height of the rack down to one. -/
  numbers : v.ruler.marks.map UnitMark.number =
    (List.range r.height.toNat).map fun (i : Nat) => ((r.height - i : Int) : ℚ)
  /-- The tick of a unit is the last one above its number. -/
  nearest : 25 + 25 * r.height < 2 ^ 50 → ∀ m ∈ v.ruler.marks, ∃ y ∈ m.height,
    m.tick.y₁ < y ∧ ∀ t ∈ v.ruler.ticks, t.y₁ < y → t.y₁ ≤ m.tick.y₁
  /-- Each device stands where it is placed. -/
  devices : List.Forall₂ (fun p d => d.OnScale v.ruler v.frame r.height p) r.layout v.devices

/-! ## The middle of a unit -/

/-- The middle of a unit is a sum of three terms. -/
theorem unitMiddle_of_sums {y : Int} {edge half middle two above : Binary64}
    (hedge : Binary64.ofInt? y = some edge) (hhalf : Binary64.half? unitHeight = some half)
    (hmiddle : edge.add? half = some middle) (htwo : Binary64.ofInt? 2 = some two)
    (habove : middle.add? two = some above) : Drawing.unitMiddle y = some above := by
  rw [Drawing.unitMiddle, hedge, hhalf]
  simp only [Option.bind_eq_bind, Option.bind_some, hmiddle, Drawing.twoAbove, htwo, habove]

open Binary64 in
/-- The middle of a unit is computed without an error. -/
theorem unitMiddle_eq {y : Nat} (hy : y < 2 ^ 50) :
    Drawing.unitMiddle y = some (halves (2 * (y + 14) + 1)) := by
  have hlimit : Nat.pow 2 53 = 8 * 2 ^ 50 := by decide
  have hmiddle : (halves (2 * y)).add? (halves 25) = some (halves (2 * y + 25)) :=
    add?_halves (by omega)
  have habove : (halves (2 * y + 25)).add? (halves (2 * 2)) = some (halves (2 * y + 25 + 2 * 2)) :=
    add?_halves (by omega)
  have hsum : 2 * (y + 14) + 1 = 2 * y + 25 + 2 * 2 := by omega
  rw [hsum]
  exact unitMiddle_of_sums (ofInt?_eq (by omega)) (half?_eq (n := 25) (by decide)) hmiddle
    (ofInt?_eq (n := 2) (by decide)) habove

/-- The height at which the number of a unit stands. -/
theorem height_unitMark {height unit : Int} (hunit : unit ∈ Drawing.units height)
    (hheight : 25 + 25 * height < 2 ^ 50) :
    (Plan.unitMark height unit).height = some ((Plan.unitTop height unit : ℚ) + 29 / 2) := by
  have hunit := mem_units.1 hunit
  have hlimit : Nat.pow 2 53 = 8 * 2 ^ 50 := by decide
  obtain ⟨y, hy⟩ := Int.eq_ofNat_of_zero_le (a := Plan.unitTop height unit) (by rw [Plan.unitTop]; omega)
  have hsmall : y < 2 ^ 50 := by
    rw [Plan.unitTop] at hy
    omega
  have htext : Plan.fraction (Drawing.unitMiddle y) =
      String.ofList (Numeral.digits (y + 14) ++ ['.', '5']) := by
    have hsome : ∀ x, Plan.fraction (some x) = (Real64.finite x).plainText := fun _ => rfl
    rw [unitMiddle_eq hsmall, hsome, Figures.plainText_half (by omega) (Nat.succ_pos _)]
  rw [Plan.unitMark, hy]
  show number? _ = _
  rw [htext, String.toList_ofList, number?_half]
  congr 1
  push_cast
  ring

/-! ## Rows of units -/

/-- Half a pixel off, an integer is still between its neighbours. -/
theorem lt_add_half {a b : Int} : (a : ℚ) < b + 29 / 2 ↔ a ≤ b + 14 := by
  constructor
  · intro h
    have hlt : (a : ℚ) < ((b + 15 : Int) : ℚ) := by
      push_cast
      linarith
    have := Int.cast_lt.1 hlt
    omega
  · intro h
    have hle : (a : ℚ) ≤ ((b + 14 : Int) : ℚ) := Int.cast_le.2 h
    push_cast at hle
    linarith

theorem add_half_lt {a b : Int} : (b : ℚ) + 29 / 2 < a ↔ b + 15 ≤ a := by
  constructor
  · intro h
    have hlt : ((b + 14 : Int) : ℚ) < a := by
      push_cast
      linarith
    have := Int.cast_lt.1 hlt
    omega
  · intro h
    have hle : ((b + 15 : Int) : ℚ) ≤ a := Int.cast_le.2 h
    push_cast at hle
    linarith

theorem mem_marks {height : Int} {m : UnitMark} :
    m ∈ (Plan.ruler height).marks ↔ ∃ u ∈ Drawing.units height, Plan.unitMark height u = m :=
  List.mem_map

/-- Every tick of a scale is the upper edge of a unit, or of a unit zero. -/
theorem mem_ticks {height : Int} {t : Segment} (h : t ∈ (Plan.ruler height).ticks) :
    ∃ u : Int, t = Plan.tickLine (Plan.unitTop height u) := by
  rcases List.mem_append.1 h with h | h
  · obtain ⟨m, hm, rfl⟩ := List.mem_map.1 h
    obtain ⟨u, _, rfl⟩ := mem_marks.1 hm
    exact ⟨u, rfl⟩
  · refine ⟨0, ?_⟩
    rw [List.mem_singleton.1 h, Plan.unitTop, Int.sub_zero]
    rfl

theorem exists_mark {height unit : Int} (hlow : 1 ≤ unit) (hhigh : unit ≤ height) {y : Int}
    (hy : y = Plan.unitTop height unit) :
    ∃ m ∈ (Plan.ruler height).marks, m.number = unit ∧ m.tick.At y := by
  have hunit : unit ∈ Drawing.units height := mem_units.2 ⟨hlow, hhigh⟩
  subst hy
  exact ⟨_, mem_marks.2 ⟨unit, hunit, rfl⟩, rfl, rfl, rfl⟩

/-! ## The plan -/

theorem onScale_deviceView {r : Rack} {p : Placed} (hp : p ∈ r.layout) :
    (Plan.deviceView (25 + r.height * 25) p).OnScale (Plan.ruler r.height)
      ⟨(0 : Int), (25 : Int), (300 : Int), (r.height * 25 : Int)⟩ r.height p := by
  have htop : p.top = p.base + p.device.height := place_top hp
  -- where the body ends, as one integer
  have hend : (Plan.deviceView (25 + r.height * 25) p).shift.2 +
      (Plan.deviceView (25 + r.height * 25) p).body.height =
        ((25 + r.height * 25 - p.base * 25 : Int) : ℚ) := by
    show ((25 + r.height * 25 - p.top * 25 : Int) : ℚ) + ((p.device.height * 25 : Int) : ℚ) = _
    rw [← Int.cast_add, htop]
    congr 1
    omega
  refine ⟨Int.cast_zero, ?_, ?_, ?_, ?_, ?_⟩
  · intro hlow hhigh
    exact exists_mark hlow hhigh (by rw [Plan.unitTop]; omega)
  · intro hlow hhigh
    rw [hend]
    exact exists_mark hlow hhigh (by rw [Plan.unitTop]; omega)
  · intro hbase
    rw [hend, hbase, Int.zero_mul, Int.sub_zero]
    exact ⟨rfl, rfl⟩
  · intro hheight m hm
    obtain ⟨u, hu, rfl⟩ := mem_marks.1 hm
    refine ⟨_, height_unitMark hu hheight, ?_⟩
    rw [hend]
    show ((25 + r.height * 25 - p.top * 25 : Int) : ℚ) < _ ∧ _ ↔ (p.base : ℚ) < (u : ℚ) ∧ (u : ℚ) ≤ (p.top : ℚ)
    rw [lt_add_half, add_half_lt, Int.cast_lt, Int.cast_le, Plan.unitTop]
    omega
  · show ((0 : Int) : ℚ) ≤ ((0 : Int) : ℚ) + ((0 : Int) : ℚ) ∧
      ((0 : Int) : ℚ) + ((0 : Int) : ℚ) + ((300 : Int) : ℚ) ≤ ((0 : Int) : ℚ) + ((300 : Int) : ℚ) ∧
      ((25 : Int) : ℚ) ≤ ((0 : Int) : ℚ) + ((25 + r.height * 25 - p.top * 25 : Int) : ℚ) ∧
      ((0 : Int) : ℚ) + ((25 + r.height * 25 - p.top * 25 : Int) : ℚ) +
        ((p.device.height * 25 : Int) : ℚ) ≤ ((25 : Int) : ℚ) + ((r.height * 25 : Int) : ℚ) ↔ _
    rw [htop]
    norm_cast
    omega

/-- A rack agrees with its scale on the plan. -/
theorem onScale_rackView (i : Nat) (r : Rack) : (Plan.rackView i r).OnScale r := by
  refine ⟨rfl, ?_, ?_, ?_⟩
  · show ((Drawing.units r.height).map (Plan.unitMark r.height)).map UnitMark.number = _
    rw [Drawing.units, List.map_map, List.map_map]
    rfl
  · intro hheight m hm
    obtain ⟨u, hu, rfl⟩ := mem_marks.1 hm
    refine ⟨_, height_unitMark hu hheight, lt_add_half.2 (by omega), ?_⟩
    intro t ht habove
    obtain ⟨w, rfl⟩ := mem_ticks ht
    have habove := lt_add_half.1 habove
    apply Int.cast_le.2
    rw [Plan.unitTop, Plan.unitTop] at *
    omega
  · show List.Forall₂ _ r.layout (r.layout.map _)
    rw [List.forall₂_map_right_iff, List.forall₂_same]
    exact fun p hp => onScale_deviceView hp

theorem onScale_rackViews (i : Nat) (l : List Rack) :
    List.Forall₂ (fun r v => RackView.OnScale v r) l (Plan.rackViews i l) := by
  induction l generalizing i with
  | nil => exact .nil
  | cons r l ih => exact .cons (onScale_rackView i r) (ih (i + 1))

/-! ## The drawing -/

/-- On a drawing the racks agree with their scales. -/
theorem onScale_of_draw {s : RackSet} {out : String} (h : Drawing.draw s = .ok out) :
    ∃ v, surveyed out = some v ∧ List.Forall₂ (fun r w => w.OnScale r) s.racks v.racks :=
  ⟨Plan.survey s, surveyed_draw h, onScale_rackViews 0 s.racks⟩

theorem onScale_of_draw_tangled :
    ∃ out, Drawing.draw tangled = .ok out ∧
      ∃ v, surveyed out = some v ∧ List.Forall₂ (fun r w => w.OnScale r) tangled.racks v.racks := by
  obtain ⟨out, h⟩ := tangled_drawn
  exact ⟨out, h, onScale_of_draw h⟩

end RackElevation
