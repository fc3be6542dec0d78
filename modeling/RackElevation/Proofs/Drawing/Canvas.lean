import Mathlib.Algebra.Order.BigOperators.Group.List
import RackElevation.Proofs.Devices
import RackElevation.Proofs.Drawing.Scale

/-
  The canvas of a drawing

  The size of a drawing is computed by formulas from the number of racks, the
  highest of them and the longest name, while the racks are placed one after the
  other. The drawing fits: no frame, tick or name leaves the canvas, each scale
  stands between its rack and the one before it, and devices that are stacked
  without gaps stay in their rack if there is room for all of them.

  What is proved:
    1. `place_stacked` — devices without a position are stacked from the bottom
       of their rack.
    2. `fits_survey` — everything fits on the plan.
    3. `drawing_fits` — so it does on every drawing.
-/

namespace RackElevation

open Markup

/-! ## Places on the canvas -/

/-- The canvas. -/
def Survey.canvas (v : Survey) : Box := ⟨0, 0, v.width, v.height⟩

/-- The frame of a rack on the canvas. -/
def RackView.frameOnCanvas (w : RackView) : Box := w.frame.moved w.shift

/-- The ticks of a rack on the canvas. -/
def RackView.ticksOnCanvas (w : RackView) : List Segment :=
  w.ruler.ticks.map fun t => t.moved w.scaleShift

/-- The body of a device on the canvas. -/
def RackView.bodyOnCanvas (w : RackView) (d : DeviceView) : Box := (d.body.moved d.shift).moved w.shift

/-- Whether devices are stacked without gaps and fit their rack. -/
def Rack.Stacked (r : Rack) : Prop :=
  (∀ d ∈ r.devices, d.position = none) ∧ (r.devices.map Device.height).sum ≤ r.height

/-- A rack that fits, as number `i` of its set. -/
structure RackView.Fits (w : RackView) (s : RackSet) (v : Survey) (i : Nat) (r : Rack) : Prop where
  /-- The rack and its scale are placed by its number. -/
  place : w.shift = (25 + 325 * (i : ℚ), 0) ∧ w.scaleShift = (w.shift.1 - 50, 0)
  /-- The frame ends before the names at the right, which the last one touches. -/
  right : w.frameOnCanvas.right = w.shift.1 + 300 ∧
    w.frameOnCanvas.right ≤ v.width - 25 - s.labelWidth ∧
    (w.frameOnCanvas.right = v.width - 25 - s.labelWidth ↔ i + 1 = s.racks.length)
  /-- The frame ends above the lower margin. -/
  bottom : w.frameOnCanvas.bottom = 25 + 25 * r.height ∧ w.frameOnCanvas.bottom ≤ v.height - 25
  /-- The scale does not leave the canvas at the left. -/
  ticks : ∀ t ∈ w.ticksOnCanvas, 5 ≤ t.x₁ ∧ t.x₁ ≤ t.x₂
  /-- It stands between the rack and the one before it. -/
  between : ∀ u, 0 < i → v.racks[i - 1]? = some u → ∀ t ∈ w.ticksOnCanvas,
    u.frameOnCanvas.right < t.x₁ ∧ t.x₂ < w.frameOnCanvas.x
  /-- There is room for each name. -/
  names : List.Forall₂ (fun p d =>
    d.label = (if p.device.name.isEmpty then none else some 316) ∧
      w.shift.1 + d.shift.1 + 316 + 8 * p.device.name.length < v.width) r.layout w.devices
  /-- Stacked devices lie in the frame. -/
  stacked : r.Stacked → ∀ d ∈ w.devices,
    (w.bodyOnCanvas d).Within w.frameOnCanvas ∧ (w.bodyOnCanvas d).Within v.canvas

/-- A drawing that fits its canvas. -/
structure Survey.Fits (v : Survey) (s : RackSet) : Prop where
  /-- The canvas has the size that was computed. -/
  size : v.width = s.canvasWidth ∧ v.height = s.canvasHeight
  /-- There is a group for each rack. -/
  count : v.racks.length = s.racks.length
  /-- Each rack fits. -/
  racks : ∀ i r, ∀ w : RackView, s.racks[i]? = some r → v.racks[i]? = some w → w.Fits s v i r
  /-- Some frame reaches the lower margin. -/
  tallest : ∃ w ∈ v.racks, w.frameOnCanvas.bottom = v.height - 25

/-! ## Bounds -/

theorem height_le_tallest {s : RackSet} {r : Rack} (hr : r ∈ s.racks) : r.height ≤ s.tallest := by
  unfold RackSet.tallest
  cases hracks : s.racks with
  | nil =>
    rw [hracks] at hr
    cases hr
  | cons q rest =>
    rw [hracks] at hr
    obtain ⟨hfirst, hrest⟩ := le_foldl_max (rest.map Rack.height) q.height
    rcases List.mem_cons.1 hr with rfl | hr
    · exact hfirst
    · exact hrest _ (List.mem_map_of_mem hr)

/-- Without positions each device stands on the one before it. -/
theorem place_stacked {floor : Int} {l : List Device} (hposition : ∀ d ∈ l, d.position = none)
    (hheight : ∀ d ∈ l, 1 ≤ d.height) :
    ∀ p ∈ place floor l, floor ≤ p.base ∧ p.top ≤ floor + (l.map Device.height).sum := by
  induction l generalizing floor with
  | nil => exact fun p hp => nomatch hp
  | cons d l ih =>
    obtain ⟨hnone, hnones⟩ := List.forall_mem_cons.1 hposition
    obtain ⟨hpositive, hpositives⟩ := List.forall_mem_cons.1 hheight
    have hsum := sum_height_nonneg hpositives
    have hrest : ∀ p ∈ place (floor + d.height) l,
        floor + d.height ≤ p.base ∧ p.top ≤ floor + d.height + (l.map Device.height).sum :=
      ih hnones hpositives
    rw [List.map_cons, List.sum_cons, place_cons, Device.baseOn_of_none hnone]
    refine List.forall_mem_cons.2 ⟨?_, ?_⟩
    · dsimp only
      omega
    · intro p hp
      have := hrest p hp
      omega

theorem stacked_layout {r : Rack} (hr : ∀ d ∈ r.devices, 1 ≤ d.height) (h : r.Stacked) :
    ∀ p ∈ r.layout, 0 ≤ p.base ∧ p.top ≤ r.height := by
  have hposition : ∀ d ∈ r.devices.reverse, d.position = none :=
    fun d hd => h.1 d (List.mem_reverse.1 hd)
  have hheight : ∀ d ∈ r.devices.reverse, 1 ≤ d.height :=
    fun d hd => hr d (List.mem_reverse.1 hd)
  intro p hp
  obtain ⟨hbase, htop⟩ := place_stacked hposition hheight p hp
  rw [List.map_reverse, List.sum_reverse, Int.zero_add] at htop
  exact ⟨hbase, htop.trans h.2⟩

/-! ## The plan -/

section Plan

variable {s : RackSet} {i : Nat} {r : Rack}

/-- The width of the canvas behind the last rack. -/
theorem canvasWidth_eq (h : s.racks ≠ []) :
    s.canvasWidth = 325 * s.racks.length + 25 + s.labelWidth := by
  have hpositive := List.length_pos_iff.2 h
  rw [RackSet.canvasWidth, margin, rackWidth, rackSpacing]
  omega

theorem shift_rackView (i : Nat) (r : Rack) :
    (Plan.rackView i r).shift = (25 + 325 * (i : ℚ), 0) ∧
      (Plan.rackView i r).scaleShift = ((Plan.rackView i r).shift.1 - 50, 0) := by
  simp only [Plan.rackView]
  push_cast
  exact ⟨rfl, rfl⟩

theorem frameOnCanvas_rackView (i : Nat) (r : Rack) :
    (Plan.rackView i r).frameOnCanvas = ⟨25 + 325 * i, 25, 300, 25 * r.height⟩ := by
  rw [RackView.frameOnCanvas, Plan.rackView, Box.moved]
  push_cast
  congr 1 <;> ring

theorem right_rackView (i : Nat) (r : Rack) :
    (Plan.rackView i r).frameOnCanvas.right = 325 * (i + 1) := by
  rw [frameOnCanvas_rackView, Box.right]
  ring

theorem bottom_rackView (i : Nat) (r : Rack) :
    (Plan.rackView i r).frameOnCanvas.bottom = 25 + 25 * r.height := by
  rw [frameOnCanvas_rackView, Box.bottom]

theorem width_survey (h : s.racks ≠ []) :
    (Plan.survey s).width = 325 * s.racks.length + 25 + s.labelWidth := by
  show (s.canvasWidth : ℚ) = _
  rw [canvasWidth_eq h]
  push_cast
  rfl

theorem height_survey (s : RackSet) : (Plan.survey s).height = 50 + 25 * s.tallest := by
  show (s.canvasHeight : ℚ) = _
  rw [RackSet.canvasHeight, margin, unitHeight]
  push_cast
  ring

/-- All ticks of a scale take the same columns. -/
theorem columns_rackView {t : Segment} (h : t ∈ (Plan.rackView i r).ticksOnCanvas) :
    t.x₁ = 5 + 325 * i ∧ t.x₂ = 21 + 325 * i := by
  obtain ⟨l, hl, rfl⟩ := List.mem_map.1 h
  obtain ⟨u, rfl⟩ := mem_ticks hl
  simp only [Segment.moved, Plan.tickLine, Plan.rackView]
  push_cast
  constructor <;> ring

theorem between_rackView {u : RackView} (hu : (Plan.survey s).racks[i]? = some u) {t : Segment}
    (ht : t ∈ (Plan.rackView (i + 1) r).ticksOnCanvas) :
    u.frameOnCanvas.right < t.x₁ ∧ t.x₂ < (Plan.rackView (i + 1) r).frameOnCanvas.x := by
  have hracks : (Plan.survey s).racks = Plan.rackViews 0 s.racks := rfl
  rw [hracks, Plan.getElem?_rackViews, Nat.zero_add] at hu
  obtain ⟨q, _, rfl⟩ := Option.map_eq_some_iff.1 hu
  obtain ⟨hx₁, hx₂⟩ := columns_rackView ht
  rw [hx₁, hx₂, right_rackView, frameOnCanvas_rackView]
  push_cast
  constructor <;> linarith

section Member

variable (hr : s.racks[i]? = some r)

include hr

theorem index_le : (i : ℚ) + 1 ≤ s.racks.length := by
  obtain ⟨hi, _⟩ := List.getElem?_eq_some_iff.1 hr
  exact_mod_cast hi

theorem right_le : (Plan.rackView i r).frameOnCanvas.right ≤ (Plan.survey s).width - 25 - s.labelWidth ∧
    ((Plan.rackView i r).frameOnCanvas.right = (Plan.survey s).width - 25 - s.labelWidth ↔
      i + 1 = s.racks.length) := by
  have hindex := index_le hr
  have hlast : i + 1 = s.racks.length ↔ (i : ℚ) + 1 = s.racks.length := by norm_cast
  rw [right_rackView, width_survey (List.ne_nil_of_mem (List.mem_of_getElem? hr)), hlast]
  refine ⟨by linarith, ?_, ?_⟩
  · intro h
    linarith
  · intro h
    linarith

theorem bottom_le : (Plan.rackView i r).frameOnCanvas.bottom ≤ (Plan.survey s).height - 25 := by
  have htallest : (r.height : ℚ) ≤ s.tallest :=
    Int.cast_le.2 (height_le_tallest (List.mem_of_getElem? hr))
  rw [bottom_rackView, height_survey]
  linarith

theorem names_rackView : List.Forall₂ (fun p d =>
    d.label = (if p.device.name.isEmpty then none else some 316) ∧
      (Plan.rackView i r).shift.1 + d.shift.1 + 316 + 8 * p.device.name.length <
        (Plan.survey s).width) r.layout (Plan.rackView i r).devices := by
  have hmem := List.mem_of_getElem? hr
  have hindex := index_le hr
  show List.Forall₂ _ r.layout (r.layout.map _)
  rw [List.forall₂_map_right_iff, List.forall₂_same]
  intro p hp
  have hlongest : (p.device.name.length : ℚ) ≤ s.longestName :=
    Nat.cast_le.2 (RackSet.length_le_longestName
      (RackSet.mem_devices.2 ⟨r, hmem, mem_layout_device hp⟩))
  have hlabel : (s.labelWidth : ℚ) = s.longestName * 8 + 32 := by
    rw [RackSet.labelWidth]
    push_cast
    rfl
  have hshift : (Plan.deviceView (25 + r.height * 25) p).shift.1 = 0 := Int.cast_zero
  refine ⟨by simp [Plan.deviceView], ?_⟩
  rw [hshift, (shift_rackView i r).1, width_survey (List.ne_nil_of_mem hmem), hlabel]
  dsimp only
  linarith

theorem frame_within : (Plan.rackView i r).frameOnCanvas.Within (Plan.survey s).canvas := by
  have hright := (right_le hr).1
  have hbottom := bottom_le hr
  have hnonneg : (0 : ℚ) ≤ i := Nat.cast_nonneg i
  have hlabel : (0 : ℚ) ≤ s.labelWidth := by
    rw [Int.cast_nonneg_iff, RackSet.labelWidth]
    omega
  have hleft : (Plan.rackView i r).frameOnCanvas.x = 25 + 325 * i := by rw [frameOnCanvas_rackView]
  have htop : (Plan.rackView i r).frameOnCanvas.y = 25 := by rw [frameOnCanvas_rackView]
  have hwidth : (Plan.survey s).canvas.right = (Plan.survey s).width := zero_add _
  have hheight : (Plan.survey s).canvas.bottom = (Plan.survey s).height := zero_add _
  refine ⟨?_, ?_, ?_, ?_⟩
  · rw [hleft, Survey.canvas]
    linarith
  · rw [hwidth]
    linarith
  · rw [htop, Survey.canvas]
    norm_num
  · rw [hheight]
    linarith

end Member

theorem stacked_rackView (hr : ∀ d ∈ r.devices, 1 ≤ d.height) (h : r.Stacked) :
    ∀ d ∈ (Plan.rackView i r).devices,
      ((Plan.rackView i r).bodyOnCanvas d).Within (Plan.rackView i r).frameOnCanvas := by
  intro d hd
  obtain ⟨p, hp, rfl⟩ := List.mem_map.1 hd
  have hinside := (onScale_deviceView hp).inside.2 (stacked_layout hr h p hp)
  exact hinside.moved _

/-- A rack of a set fits on the plan. -/
theorem fits_rackView (hheight : ∀ d ∈ r.devices, 1 ≤ d.height) (hr : s.racks[i]? = some r) :
    (Plan.rackView i r).Fits s (Plan.survey s) i r := by
  refine ⟨shift_rackView i r, ⟨?_, right_le hr⟩, ⟨bottom_rackView i r, bottom_le hr⟩, ?_, ?_,
    names_rackView hr, ?_⟩
  · rw [right_rackView, (shift_rackView i r).1]
    ring
  · intro t ht
    obtain ⟨hx₁, hx₂⟩ := columns_rackView ht
    have hnonneg : (0 : ℚ) ≤ i := Nat.cast_nonneg i
    rw [hx₁, hx₂]
    constructor <;> linarith
  · intro u hi hu t ht
    obtain ⟨j, rfl⟩ := Nat.exists_eq_add_one.2 hi
    rw [Nat.add_sub_cancel] at hu
    exact between_rackView hu ht
  · intro h d hd
    have hwithin := stacked_rackView hheight h d hd
    exact ⟨hwithin, hwithin.trans (frame_within hr)⟩

end Plan

/-- A rack set fits on the plan. -/
theorem fits_survey {s : RackSet} (hheight : ∀ r ∈ s.racks, ∀ d ∈ r.devices, 1 ≤ d.height)
    (h : s.racks ≠ []) : (Plan.survey s).Fits s := by
  have hracks : ∀ i, (Plan.survey s).racks[i]? = s.racks[i]?.map (Plan.rackView i) := by
    intro i
    have hview := Plan.getElem?_rackViews 0 s.racks i
    rwa [Nat.zero_add] at hview
  refine ⟨⟨rfl, rfl⟩, Plan.length_rackViews 0 s.racks, ?_, ?_⟩
  · intro i r w hr hw
    rw [hracks, hr, Option.map_some, Option.some.injEq] at hw
    subst hw
    exact fits_rackView (hheight r (List.mem_of_getElem? hr)) hr
  · obtain ⟨r, hr, htallest⟩ := tallest_mem h
    obtain ⟨i, hi⟩ := List.mem_iff_getElem?.1 hr
    have hview : (Plan.survey s).racks[i]? = some (Plan.rackView i r) := by
      rw [hracks, hi, Option.map_some]
    refine ⟨Plan.rackView i r, List.mem_of_getElem? hview, ?_⟩
    rw [bottom_rackView, height_survey, htallest]
    ring

/-- For each rack set there is a survey that fits, and every drawing of the set is measured so. -/
theorem drawing_fits {s : RackSet} (hheight : ∀ r ∈ s.racks, ∀ d ∈ r.devices, 1 ≤ d.height)
    (h : s.racks ≠ []) :
    ∃ v : Survey, v.Fits s ∧ ∀ out, Drawing.draw s = .ok out → surveyed out = some v :=
  ⟨Plan.survey s, fits_survey hheight h, fun _ => surveyed_draw⟩

theorem drawing_fits_tangled :
    ∃ v : Survey, v.Fits tangled ∧ ∃ out, Drawing.draw tangled = .ok out ∧ surveyed out = some v := by
  obtain ⟨v, hfits, hdrawn⟩ := drawing_fits (s := tangled) (by decide) (by decide)
  obtain ⟨out, h⟩ := tangled_drawn
  exact ⟨v, hfits, out, h, hdrawn out h⟩

end RackElevation
