import RackElevation.Drawing
import RackElevation.Proofs.Devices
import RackElevation.Proofs.Drawing.Plan

/-
  What a drawing depends on

  A drawing shows where the devices of a rack are placed and what is written on
  them. The category of a device is not shown, and its position only by the place
  that it takes: racks that have the same name and height and whose devices are
  placed alike and look alike are drawn alike.

  What is proved:
    1. `rack_congr`, `racks_congr` — racks that look alike are drawn alike.
    2. `draw_congr` — so are rack sets.
    3. `draw_mapDevices` — a change of devices that is not seen.
-/

namespace RackElevation

/-- What is seen of a device, its place apart. -/
def Device.look (d : Device) : Device := { d with position := none, category := none }

/-- Racks that look alike. -/
structure Rack.LooksLike (q r : Rack) : Prop where
  name : q.name = r.name
  height : q.height = r.height
  layout : q.layout.map (Placed.mapDevice Device.look) = r.layout.map (Placed.mapDevice Device.look)

namespace Drawing

variable {base : Option String} {q r : Rack}

theorem placed_look (bottom : Int) (p : Placed) :
    placed base bottom (p.mapDevice Device.look) = placed base bottom p := rfl

theorem rack_congr (h : q.LooksLike r) : rack base q = rack base r := by
  have hplaced : ∀ bottom (l : List Placed), l.mapM (placed base bottom) =
      (l.map (Placed.mapDevice Device.look)).mapM (placed base bottom) := by
    intro bottom l
    have hself : placed base bottom ∘ Placed.mapDevice Device.look = placed base bottom :=
      funext (placed_look bottom)
    rw [List.mapM_map, hself]
  rw [rack, rack, hplaced, h.layout, ← hplaced, h.height, h.name]

theorem racks_congr {l m : List Rack} (h : List.Forall₂ Rack.LooksLike l m) (x : Int) :
    racks base x l = racks base x m := by
  induction h generalizing x with
  | nil => rfl
  | cons hrack _ ih => rw [racks, racks, hrack.height, rack_congr hrack, ih]

end Drawing

/-! ## The canvas -/

theorem Rack.LooksLike.names {q r : Rack} (h : q.LooksLike r) :
    q.devices.map Device.name = r.devices.map Device.name := by
  have hnames : ∀ r : Rack, r.devices.map Device.name =
      ((r.layout.map (Placed.mapDevice Device.look)).map fun p => p.device.name).reverse := by
    intro r
    calc r.devices.map Device.name = (r.devices.reverse.map Device.name).reverse := by
          rw [List.map_reverse, List.reverse_reverse]
      _ = ((r.layout.map Placed.device).map Device.name).reverse := by rw [r.layout_device]
      _ = _ := by
          rw [List.map_map, List.map_map]
          rfl
  rw [hnames, hnames, h.layout]

theorem map_congr_of_looksLike {α : Type} {f : Rack → α} (hf : ∀ q r, q.LooksLike r → f q = f r)
    {l m : List Rack} (h : List.Forall₂ Rack.LooksLike l m) : l.map f = m.map f := by
  rw [← List.forall₂_eq_eq_eq, List.forall₂_map_left_iff, List.forall₂_map_right_iff]
  exact h.imp hf

variable {s t : RackSet}

theorem longestName_congr (h : List.Forall₂ Rack.LooksLike s.racks t.racks) :
    s.longestName = t.longestName := by
  have hlongest : ∀ s : RackSet, s.longestName =
      ((s.racks.map fun r => r.devices.map Device.name).flatten.map String.length).foldl max 0 := by
    intro s
    rw [RackSet.longestName, List.flatMap_def, List.map_flatten, List.map_flatten, List.map_map,
      List.map_map]
    simp [Function.comp_def]
  rw [hlongest, hlongest, map_congr_of_looksLike (fun q r hqr => hqr.names) h]

theorem draw_congr (hbase : s.base = t.base) (h : List.Forall₂ Rack.LooksLike s.racks t.racks) :
    Drawing.draw s = Drawing.draw t := by
  have hwidth : s.canvasWidth = t.canvasWidth := by
    rw [RackSet.canvasWidth, RackSet.canvasWidth, RackSet.labelWidth, RackSet.labelWidth,
      longestName_congr h, h.length_eq]
  have hheight : s.canvasHeight = t.canvasHeight :=
    RackSet.canvasHeight_congr (map_congr_of_looksLike (fun q r hqr => hqr.height) h)
  rw [Drawing.draw, Drawing.draw, Drawing.document, Drawing.document, hwidth, hheight, hbase,
    Drawing.racks_congr h]

/-- A change of devices that changes neither their places nor their looks is not seen. -/
theorem draw_mapDevices {g : Device → Device} (hg : KeepsPlace g)
    (hlook : ∀ d, (g d).look = d.look) (s : RackSet) :
    Drawing.draw (s.mapDevices g) = Drawing.draw s := by
  have hbase : (s.mapDevices g).base = s.base := rfl
  apply draw_congr hbase
  rw [RackSet.mapDevices, List.forall₂_map_left_iff, List.forall₂_same]
  intro r _
  refine ⟨rfl, rfl, ?_⟩
  rw [r.layout_mapDevices hg, List.map_map]
  apply List.map_congr_left
  intro p _
  simp [Placed.mapDevice, hlook]

end RackElevation
