import RackElevation.Proofs.Decimal.Notation
import RackElevation.Proofs.Decimal.Overflow
import RackElevation.Proofs.Drawing.Document
import RackElevation.Proofs.Uri.Proper

/-
  What can be drawn

  A drawing fails for one of four reasons: a number on it has more digits than
  are written, a rack or a device is too high for its middle to be a finite
  fraction, the base of the set is no proper reference, or a link is none that
  has to be seen from a base with a scheme. The statements below follow the
  functions that draw and say for each when it has a result.

  What is proved:
    1. `draw_ok_iff` — a rack set that keeps its bounds can be drawn exactly if
       none of the four reasons applies.
-/

namespace RackElevation

open Outcome

/-! ## Numbers -/

theorem succeeds_integer {n : Int} : Succeeds (Drawing.integer n) ↔ n.natAbs < tooLong := by
  have hsize := Numeral.size_le_iff (n := n.natAbs)
  rw [Drawing.integer, succeeds_mapError, Numeral.write]
  by_cases h : Numeral.maxDigits < Numeral.size n.natAbs
  · rw [if_pos h]
    refine iff_of_false (not_succeeds_error _) ?_
    omega
  · rw [if_neg h]
    refine iff_of_true (succeeds_ok _) ?_
    omega

theorem succeeds_fraction {x : Option Binary64} {fault : Binary64.Overflow} :
    Succeeds (Drawing.fraction x fault) ↔ x.isSome = true := by
  cases x with
  | none => simp [Drawing.fraction, not_succeeds_error]
  | some x => simp [Drawing.fraction, succeeds_ok]

/-- What has a middle is short enough to be written. -/
theorem tooLarge_tooLong : 2 * Binary64.tooLargeInt + 100 ≤ tooLong := by
  decide +kernel

theorem thousands_tooLarge : 10000 < Binary64.tooLargeInt := by
  decide +kernel

/-- Two more never makes a fraction too large. -/
theorem twoAbove_isSome {x : Binary64} (hx : x.magnitude ≤ Binary64.largest) :
    (Drawing.twoAbove (some x)).isSome = true := by
  have htwo : Binary64.ofInt? 2 = some ⟨false, Nat.pow 2 52, 1023⟩ := by decide +kernel
  have hsmall : (⟨false, Nat.pow 2 52, 1023⟩ : Binary64).magnitude < Nat.pow 2 2044 := by
    decide +kernel
  rw [Drawing.twoAbove, htwo, Option.bind_eq_bind, Option.bind_some, Option.bind_some]
  exact Binary64.add?_isSome hx hsmall

theorem succeeds_middle {height : Int} :
    Succeeds (Drawing.middle height) ↔ height.natAbs < 2 * Binary64.tooLargeInt := by
  rw [Drawing.middle, succeeds_fraction, ← Binary64.half?_isSome_iff]
  cases h : Binary64.half? height with
  | none => exact Iff.rfl
  | some x => exact iff_of_true (twoAbove_isSome (Binary64.magnitude_le h)) rfl

/-- Nor does half a unit more. -/
theorem unitMiddle_isSome {y : Int} :
    (Drawing.unitMiddle y).isSome = true ↔ y.natAbs < Binary64.tooLargeInt := by
  have hhalf : Binary64.half? unitHeight = some ⟨false, 25 * Nat.pow 2 48, 1025⟩ := by decide +kernel
  have hsmall : (⟨false, 25 * Nat.pow 2 48, 1025⟩ : Binary64).magnitude < Nat.pow 2 2044 := by
    decide +kernel
  rw [← Binary64.ofInt?_isSome_iff]
  cases hy : Binary64.ofInt? y with
  | none => simp [Drawing.unitMiddle, hy]
  | some x =>
    obtain ⟨z, hz⟩ := Option.isSome_iff_exists.1 (Binary64.add?_isSome (Binary64.magnitude_le hy) hsmall)
    have hmiddle : Drawing.unitMiddle y = Drawing.twoAbove (some z) := by
      rw [Drawing.unitMiddle, hy, hhalf]
      show ((x.add? ⟨false, 25 * Nat.pow 2 48, 1025⟩).bind fun z => Drawing.twoAbove (some z)) = _
      rw [hz, Option.bind_some]
    rw [hmiddle]
    exact iff_of_true (twoAbove_isSome (Binary64.magnitude_le hz)) rfl

/-! ## The scale -/

theorem succeeds_scaleUnit {height unit : Int} :
    Succeeds (Drawing.scaleUnit height unit) ↔
      (25 + (height - unit) * 25).natAbs < Binary64.tooLargeInt ∧ unit.natAbs < tooLong ∧
        (25 + (height - unit) * 25).natAbs < tooLong := by
  rw [← unitMiddle_isSome, ← succeeds_integer, ← succeeds_integer,
    ← succeeds_fraction]
  refine succeeds_bind_of_forall fun _ _ => ?_
  refine succeeds_bind_of_forall fun _ _ => ?_
  exact succeeds_bind_pure

theorem mem_units {height unit : Int} :
    unit ∈ Drawing.units height ↔ 1 ≤ unit ∧ unit ≤ height := by
  rw [Drawing.units, List.mem_map]
  constructor
  · intro h
    obtain ⟨i, hi, rfl⟩ := h
    have := List.mem_range.1 hi
    omega
  · intro h
    refine ⟨(height - unit).toNat, List.mem_range.2 (by omega), by omega⟩

/-- The lowest unit of a rack is the one whose upper edge is furthest down. -/
theorem succeeds_scale {height : Int} (h : 1 ≤ height) :
    Succeeds (Drawing.scale height) ↔ height.natAbs * 25 < Binary64.tooLargeInt := by
  have hlong := tooLarge_tooLong
  have hscale : Succeeds (Drawing.scale height) ↔
      (∀ u ∈ Drawing.units height, Succeeds (Drawing.scaleUnit height u)) ∧
        Succeeds (Drawing.integer (25 + height * 25)) := by
    rw [← succeeds_mapM]
    refine succeeds_bind_of_forall fun _ _ => ?_
    exact succeeds_bind_pure
  rw [hscale, succeeds_integer]
  constructor
  · intro h
    obtain ⟨hunits, _⟩ := h
    -- the scale has a number for unit one, the lowest
    have hlowest := succeeds_scaleUnit.1 (hunits 1 (mem_units.2 ⟨Int.le_refl 1, h⟩))
    omega
  · intro hheight
    refine ⟨?_, by omega⟩
    intro u hu
    have hu := mem_units.1 hu
    rw [succeeds_scaleUnit]
    omega

/-! ## Devices -/

theorem succeeds_symbol {kind : String} {height : Int} (h : 1 ≤ height)
    (hheight : height.natAbs < 2 * Binary64.tooLargeInt) :
    Succeeds (Drawing.symbol kind height) := by
  have hhalf : (height - Svg.glyphHeight).natAbs < 2 * Binary64.tooLargeInt := by
    have hlarge := thousands_tooLarge
    rw [Svg.glyphHeight]
    omega
  unfold Drawing.symbol
  cases Svg.glyph? kind with
  | none => exact succeeds_ok _
  | some shapes =>
    show Succeeds (Drawing.fraction _ _ >>= fun y => pure [Drawing.moved "10" y _])
    rw [succeeds_bind_pure, succeeds_fraction, Binary64.half?_isSome_iff]
    exact hhalf

/-- A link that can be seen from a base: the base is proper, and so is the link if the base has a
scheme. -/
def Resolvable (base : Option String) (href : String) : Prop :=
  ∀ b ∈ base, b ≠ "" → Uri.Proper b.toList ∧
    ((Uri.takeScheme (Uri.clean b.toList)).1 ≠ [] → Uri.Proper href.toList)

theorem succeeds_address {base : Option String} {href : String} (hne : href ≠ "") :
    Succeeds (Drawing.address base href) ↔ Resolvable base href := by
  unfold Resolvable Drawing.address
  cases base with
  | none => exact iff_of_true (succeeds_ok _) (by simp)
  | some b =>
    simp only [Option.mem_def, Option.some.injEq, forall_eq']
    by_cases hempty : b = ""
    · subst hempty
      exact iff_of_true (succeeds_pure _) (absurd rfl)
    · have hb : ¬b.isEmpty = true := by simpa using hempty
      have hbase : b.toList ≠ [] := by simpa using hempty
      have href : href.toList ≠ [] := by simpa using hne
      -- the base is read for its scheme first, and a base without one leaves the link as it is
      rw [if_neg hb, ← Uri.succeeds_scheme, forall_prop_of_true hempty]
      refine succeeds_bind_of_forall fun v hv => ?_
      rw [← Uri.eq_of_scheme hv]
      have hproper : Uri.Proper b.toList := Uri.succeeds_scheme.1 ⟨v, hv⟩
      by_cases hscheme : v.isEmpty = true
      · rw [if_pos hscheme]
        exact iff_of_true (succeeds_pure _) fun h => absurd (List.isEmpty_iff.1 hscheme) h
      · rw [if_neg hscheme, Uri.succeeds_resolve hbase href]
        have hv : v ≠ [] := by simpa using hscheme
        exact ⟨fun h _ => h.2, fun h => ⟨hproper, h hv⟩⟩

theorem succeeds_deviceAddress {base : Option String} {d : Device} :
    Succeeds (Drawing.deviceAddress base d) ↔ ∀ href ∈ d.href, href ≠ "" → Resolvable base href := by
  unfold Drawing.deviceAddress
  cases d.href with
  | none => exact iff_of_true (succeeds_ok _) (by simp)
  | some href =>
    simp only [Option.mem_def, Option.some.injEq, forall_eq']
    by_cases hempty : href = ""
    · subst hempty
      exact iff_of_true (succeeds_ok _) (absurd rfl)
    · have hhref : ¬href.isEmpty = true := by simpa using hempty
      rw [if_neg hhref, succeeds_bind_pure, succeeds_mapError, succeeds_address hempty,
        forall_prop_of_true hempty]

theorem succeeds_device {base : Option String} {d : Device} (h : d.Valid) :
    Succeeds (Drawing.device base d) ↔ d.height.natAbs * 25 < 2 * Binary64.tooLargeInt ∧
      ∀ href ∈ d.href, href ≠ "" → Resolvable base href := by
  have hlong := tooLarge_tooLong
  have hpositive : 1 ≤ d.height := h.1
  have habs : (d.height * unitHeight).natAbs = d.height.natAbs * 25 := Int.natAbs_mul _ _
  rw [← habs, ← succeeds_middle, ← succeeds_deviceAddress]
  -- once the middle of a device is there, only its link can fail
  refine succeeds_bind_of_forall fun middle hmiddle => ?_
  have hmiddle : (d.height * unitHeight).natAbs < 2 * Binary64.tooLargeInt :=
    succeeds_middle.1 ⟨middle, hmiddle⟩
  have hheight : Succeeds (Drawing.integer (d.height * unitHeight)) := by
    rw [succeeds_integer]
    omega
  have hsymbol : Succeeds (Drawing.symbol d.kind (d.height * unitHeight)) := by
    refine succeeds_symbol ?_ hmiddle
    rw [unitHeight]
    omega
  rw [succeeds_bind_of_forall (p := True), and_true]
  intro a _
  refine iff_true_intro ?_
  obtain ⟨t, ht⟩ := hheight
  exact succeeds_bind.2 ⟨t, ht, succeeds_bind_pure.2 hsymbol⟩

theorem succeeds_placed {base : Option String} {bottom : Int} {p : Placed} (h : p.device.Valid) :
    Succeeds (Drawing.placed base bottom p) ↔ (bottom - p.top * 25).natAbs < tooLong ∧
      p.device.height.natAbs * 25 < 2 * Binary64.tooLargeInt ∧
      ∀ href ∈ p.device.href, href ≠ "" → Resolvable base href := by
  rw [← succeeds_device h, ← succeeds_integer]
  refine succeeds_bind_of_forall fun _ _ => ?_
  exact succeeds_bind_pure

/-! ## Racks -/

theorem succeeds_rack {base : Option String} {r : Rack} (h : r.Valid) :
    Succeeds (Drawing.rack base r) ↔ (r.height * 25).natAbs < tooLong ∧
      (∀ p ∈ r.layout, (25 + r.height * 25 - p.top * 25).natAbs < tooLong) ∧
      (∀ d ∈ r.devices, d.height.natAbs * 25 < 2 * Binary64.tooLargeInt) ∧
      ∀ d ∈ r.devices, ∀ href ∈ d.href, href ≠ "" → Resolvable base href := by
  have hplaced : ∀ p ∈ r.layout, Succeeds (Drawing.placed base (margin + r.height * unitHeight) p) ↔
      (25 + r.height * 25 - p.top * 25).natAbs < tooLong ∧
        p.device.height.natAbs * 25 < 2 * Binary64.tooLargeInt ∧
        ∀ href ∈ p.device.href, href ≠ "" → Resolvable base href :=
    fun p hp => succeeds_placed (h.2 p.device (mem_layout_device hp))
  have hdevices : Succeeds (r.layout.mapM (Drawing.placed base (margin + r.height * unitHeight))) ↔
      (∀ p ∈ r.layout, (25 + r.height * 25 - p.top * 25).natAbs < tooLong) ∧
      (∀ d ∈ r.devices, d.height.natAbs * 25 < 2 * Binary64.tooLargeInt) ∧
      ∀ d ∈ r.devices, ∀ href ∈ d.href, href ≠ "" → Resolvable base href := by
    rw [succeeds_mapM, ← forall_layout_iff (r := r), ← forall_layout_iff (r := r), ← forall₂_and,
      ← forall₂_and]
    exact forall₂_congr hplaced
  rw [← succeeds_integer, ← hdevices]
  refine succeeds_bind_of_forall fun _ _ => ?_
  exact succeeds_bind_pure

theorem succeeds_racks {base : Option String} {x : Int} {l : List Rack} :
    Succeeds (Drawing.racks base x l) ↔
      ∀ r ∈ l, Succeeds (Drawing.scale r.height) ∧ Succeeds (Drawing.rack base r) := by
  induction l generalizing x with
  | nil => exact iff_of_true (succeeds_ok _) (by simp)
  | cons r l ih =>
    rw [List.forall_mem_cons, ← ih (x := x + rackWidth + rackSpacing), and_assoc]
    refine succeeds_bind_of_forall fun _ _ => ?_
    refine succeeds_bind_of_forall fun _ _ => ?_
    exact succeeds_bind_pure

/-- What a rack set has to keep so that it can be drawn. -/
structure Drawable (s : RackSet) : Prop where
  /-- The width of the drawing can be written. -/
  width : s.canvasWidth < tooLong
  /-- The lowest unit of each rack has a middle. -/
  racks : ∀ r ∈ s.racks, 25 * r.height < Binary64.tooLargeInt
  /-- Each device has a middle. -/
  devices : ∀ r ∈ s.racks, ∀ d ∈ r.devices, 25 * d.height < 2 * Binary64.tooLargeInt
  /-- The place of each device can be written. -/
  places : ∀ r ∈ s.racks, ∀ p ∈ r.layout, (25 + 25 * r.height - 25 * p.top).natAbs < tooLong
  /-- Each link can be seen from the base. -/
  links : ∀ r ∈ s.racks, ∀ d ∈ r.devices, ∀ href ∈ d.href, href ≠ "" → Resolvable s.base href

theorem foldl_max_mem (l : List Int) (x : Int) : l.foldl max x = x ∨ l.foldl max x ∈ l := by
  induction l generalizing x with
  | nil => exact .inl rfl
  | cons y l ih =>
    rw [List.foldl_cons]
    rcases ih (max x y) with hmax | hmem
    · rw [hmax, List.mem_cons]
      omega
    · exact .inr (List.mem_cons_of_mem y hmem)

/-- The tallest rack is one of the racks. -/
theorem tallest_mem {s : RackSet} (h : s.racks ≠ []) : ∃ r ∈ s.racks, r.height = s.tallest := by
  unfold RackSet.tallest
  cases hracks : s.racks with
  | nil => exact absurd hracks h
  | cons r rest =>
    rcases foldl_max_mem (rest.map Rack.height) r.height with hfirst | hmem
    · exact ⟨r, List.mem_cons_self, hfirst.symm⟩
    · obtain ⟨q, hq, hheight⟩ := List.mem_map.1 hmem
      exact ⟨q, List.mem_cons_of_mem r hq, hheight⟩

theorem canvasHeight_short {s : RackSet} (hs : s.Valid)
    (h : ∀ r ∈ s.racks, 25 * r.height < Binary64.tooLargeInt) : s.canvasHeight.natAbs < tooLong := by
  have hlong := tooLarge_tooLong
  have hlarge := thousands_tooLarge
  rw [RackSet.canvasHeight, margin, unitHeight]
  by_cases hracks : s.racks = []
  · have htallest : s.tallest = 42 := by rw [RackSet.tallest, hracks, defaultRackHeight]
    omega
  · -- the tallest rack bounds the canvas, and it has a middle
    obtain ⟨r, hr, hheight⟩ := tallest_mem hracks
    have hvalid := (hs r hr).1
    have := h r hr
    omega

theorem canvasWidth_nonneg (s : RackSet) : 0 ≤ s.canvasWidth := by
  rw [RackSet.canvasWidth, RackSet.labelWidth, margin, rackWidth, rackSpacing]
  omega

theorem succeeds_document {s : RackSet} :
    Succeeds (Drawing.document s) ↔ Succeeds (Drawing.integer s.canvasWidth) ∧
      Succeeds (Drawing.integer s.canvasHeight) ∧
      ∀ r ∈ s.racks, Succeeds (Drawing.scale r.height) ∧ Succeeds (Drawing.rack s.base r) := by
  rw [← succeeds_racks (x := margin)]
  refine succeeds_bind_of_forall fun _ _ => ?_
  refine succeeds_bind_of_forall fun _ _ => ?_
  exact succeeds_bind_pure

theorem draw_ok_iff {s : RackSet} (h : s.Valid) :
    (∃ out, Drawing.draw s = .ok out) ↔ Drawable s := by
  have hlong := tooLarge_tooLong
  have hwidth := canvasWidth_nonneg s
  show Succeeds ((Drawing.document s).map _) ↔ _
  rw [succeeds_map, succeeds_document, succeeds_integer, succeeds_integer]
  constructor
  · intro h
    obtain ⟨hcanvas, _, hracks⟩ := h
    have hscale : ∀ r ∈ s.racks, r.height.natAbs * 25 < Binary64.tooLargeInt :=
      fun r hr => (succeeds_scale (h r hr).1).1 (hracks r hr).1
    have hrack := fun r hr => (succeeds_rack (h r hr)).1 (hracks r hr).2
    refine ⟨by omega, ?_, ?_, ?_, ?_⟩
    · intro r hr
      have := hscale r hr
      omega
    · intro r hr d hd
      have := (hrack r hr).2.2.1 d hd
      omega
    · intro r hr p hp
      have := (hrack r hr).2.1 p hp
      omega
    · intro r hr
      exact (hrack r hr).2.2.2
  · intro hd
    have hcanvas := hd.width
    refine ⟨by omega, canvasHeight_short h hd.racks, ?_⟩
    intro r hr
    have hvalid := h r hr
    have hpositive := hvalid.1
    have hheight := hd.racks r hr
    rw [succeeds_scale hvalid.1, succeeds_rack hvalid]
    refine ⟨by omega, by omega, ?_, ?_, hd.links r hr⟩
    · intro p hp
      have := hd.places r hr p hp
      omega
    · intro d hmem
      have hdevice := hd.devices r hr d hmem
      have hone := (hvalid.2 d hmem).1
      omega

theorem draw_ok_iff_tangled : tangled.Valid ∧ Drawable tangled := by
  have hvalid : tangled.Valid := by
    simp [tangled, RackSet.Valid, Rack.Valid, Device.Valid]
  exact ⟨hvalid, (draw_ok_iff hvalid).1 tangled_drawn⟩

/-- A rack set with a link that is no proper reference. -/
def mislinked : RackSet :=
  { base := some "http://h"
    racks := [{ height := 1, devices := [{ kind := "server", href := some "//[" }] }] }

theorem mislinked_not_drawn : mislinked.Valid ∧ ¬∃ out, Drawing.draw mislinked = .ok out := by
  have hfault : Drawing.draw mislinked = .error (.uri .brackets) := by decide +kernel
  refine ⟨?_, ?_⟩
  · simp [mislinked, RackSet.Valid, Rack.Valid, Device.Valid]
  · intro h
    obtain ⟨out, hout⟩ := h
    rw [hfault] at hout
    cases hout

end RackElevation
