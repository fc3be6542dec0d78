import Mathlib.Data.Int.ConditionallyCompleteOrder
import Mathlib.Data.List.Chain
import Mathlib.Order.CompletePartialOrder
import Mathlib.Order.ConditionallyCompleteLattice.Basic
import Mathlib.Order.Interval.Set.Disjoint
import RackElevation.Proofs.Layout

/-
  Stacking

  A device with a position stands there, any other on top of the one placed
  before it, which is the next one in the rack. So the place of a device depends
  on the devices below it, down to the first that has a position: it stands on
  that position, as high above it as all the devices in between. Places may
  overlap; they do not if no position is below what is already there.

  What is proved:
    1. `place_first`, `place_next` — one placement after the other.
    2. `standsAt_layout` — where a device stands, in terms of the rack alone.
    3. `Rack.climbs_iff_clear` — when each device is placed above the one before.
    4. `pairwise_apart_of_climbs`, `iUnion_units_place` — places without overlap,
       and places without gaps.
    5. `Rack.layout_law` — all of this for one rack.
-/

namespace RackElevation

/-- Where device number `i` of a list stands; the list goes from the top down. -/
inductive StandsAt (l : List Device) (i : Nat) : Int → Prop
  /-- The first device from number `i` on that has a position holds up those above it. -/
  | held {j : Nat} {d : Device} {n : Int} (hij : i ≤ j) (hd : l[j]? = some d)
      (hn : d.position = some n)
      (hfirst : ∀ k e, i ≤ k → k < j → l[k]? = some e → e.position = none) :
      StandsAt l i (n - 1 + (((l.take (j + 1)).drop (i + 1)).map Device.height).sum)
  /-- Without such a device, it stands on all those below it. -/
  | grounded (hnone : ∀ k e, i ≤ k → l[k]? = some e → e.position = none) :
      StandsAt l i ((l.drop (i + 1)).map Device.height).sum

/-- The units that a placed device takes. -/
def Placed.units (p : Placed) : Set Int := Set.Ico p.base p.top

/-- Two placed devices that have no unit in common. -/
def Placed.Apart (p q : Placed) : Prop := Disjoint p.units q.units

/-- Places that take each unit of a range once, and no other unit. -/
def Tiles (ps : List Placed) (low high : Int) : Prop :=
  ps.Pairwise Placed.Apart ∧ ⋃ p ∈ ps, p.units = Set.Ico low high

/-- Each device starts at or above the top of the one placed before it. -/
def Rack.Climbs (r : Rack) : Prop := r.layout.IsChain fun p q => p.top ≤ q.base

/-- No device has a position below the top of the next one in the rack. -/
def Rack.Clear (r : Rack) : Prop :=
  ∀ i d n, r.devices[i]? = some d → d.position = some n →
    ∀ m q, i + 1 + m + 1 = r.devices.length → r.layout[m]? = some q → q.top ≤ n - 1

/-! ## One placement after the other -/

theorem place_first {floor : Int} {l : List Device} {p : Placed}
    (h : (place floor l)[0]? = some p) : p.base = p.device.baseOn floor := by
  cases l with
  | nil => cases h
  | cons d l =>
    rw [place_cons] at h
    cases h
    rfl

theorem place_next {floor : Int} {l : List Device} {m : Nat} {p q : Placed}
    (hp : (place floor l)[m]? = some p) (hq : (place floor l)[m + 1]? = some q) :
    q.base = q.device.baseOn p.top := by
  induction l generalizing floor m with
  | nil => cases hp
  | cons d l ih =>
    rw [place_cons] at hp hq
    cases m with
    | zero =>
      cases hp
      exact place_first hq
    | succ m => exact ih hp hq

theorem Rack.length_layout (r : Rack) : r.layout.length = r.devices.length := by
  rw [Rack.layout, place_length, List.length_reverse]

/-- Placement number `m` is that of the device with `m` others below it. -/
theorem Rack.device_of_layout {r : Rack} {i m : Nat} {p : Placed}
    (him : i + m + 1 = r.devices.length) (hp : r.layout[m]? = some p) :
    r.devices[i]? = some p.device := by
  have hreverse : r.devices.reverse[m]? = some p.device := by
    rw [← r.layout_device, List.getElem?_map, hp]
    rfl
  have hi : r.devices.length - 1 - m = i := by omega
  rwa [List.getElem?_reverse (by omega), hi] at hreverse

/-! ## Where a device stands -/

section Stands

variable {l : List Device} {i : Nat} {d e : Device} {n b : Int}

theorem sum_height_drop (h : l[i]? = some d) :
    ((l.drop i).map Device.height).sum = d.height + ((l.drop (i + 1)).map Device.height).sum := by
  obtain ⟨hi, rfl⟩ := List.getElem?_eq_some_iff.1 h
  rw [List.drop_eq_getElem_cons hi, List.map_cons, List.sum_cons]

namespace StandsAt

theorem of_position (hd : l[i]? = some d) (hn : d.position = some n) : StandsAt l i (n - 1) := by
  have hnothing : (l.take (i + 1)).drop (i + 1) = [] :=
    List.drop_eq_nil_of_le (List.length_take_le _ _)
  have h := StandsAt.held (Nat.le_refl i) hd hn fun k e hik hki => absurd hki (by omega)
  rwa [hnothing, List.map_nil, List.sum_nil, Int.add_zero] at h

theorem of_last (hlast : i + 1 = l.length) (hd : l[i]? = some d) (hn : d.position = none) :
    StandsAt l i 0 := by
  have hnothing : l.drop (i + 1) = [] := List.drop_eq_nil_of_le (by omega)
  have h : StandsAt l i ((l.drop (i + 1)).map Device.height).sum := by
    apply StandsAt.grounded
    intro k e hik he
    obtain ⟨hk, _⟩ := List.getElem?_eq_some_iff.1 he
    obtain rfl : k = i := by omega
    rw [hd, Option.some.injEq] at he
    rwa [← he]
  rwa [hnothing, List.map_nil, List.sum_nil] at h

/-- A device without a position stands on the next one of the list. -/
theorem on_next (h : StandsAt l (i + 1) b) (hd : l[i]? = some d) (hn : d.position = none)
    (he : l[i + 1]? = some e) : StandsAt l i (b + e.height) := by
  -- both devices are held up by the same one, or neither by any
  have hfree : ∀ k f, i ≤ k → l[k]? = some f → (i + 1 ≤ k → f.position = none) →
      f.position = none := by
    intro k f hik hf hbelow
    rcases Nat.lt_or_eq_of_le hik with hik | rfl
    · exact hbelow hik
    · rw [hd, Option.some.injEq] at hf
      rwa [← hf]
  cases h with
  | @held j c p hij hc hp hfirst =>
    have hnext : (l.take (j + 1))[i + 1]? = some e := by
      rw [List.getElem?_take, if_pos (by omega), he]
    have h := StandsAt.held (i := i) (by omega) hc hp fun k f hik hkj hf =>
      hfree k f hik hf fun hk => hfirst k f hk hkj hf
    rw [sum_height_drop hnext] at h
    rwa [Int.add_assoc, Int.add_comm _ e.height]
  | grounded hnone =>
    have h := StandsAt.grounded (i := i) fun k f hik hf =>
      hfree k f hik hf fun hk => hnone k f hk hf
    rw [sum_height_drop he] at h
    rwa [Int.add_comm _ e.height]

end StandsAt

end Stands

/-- Each placed device stands where the rack alone says. -/
theorem standsAt_layout {r : Rack} {i m : Nat} {p : Placed} (him : i + m + 1 = r.devices.length)
    (hp : r.layout[m]? = some p) : StandsAt r.devices i p.base := by
  have hd := Rack.device_of_layout him hp
  -- in the order of placement: the device before is the next one of the rack
  induction m generalizing i p with
  | zero =>
    rw [place_first hp]
    cases hn : p.device.position with
    | none =>
      rw [Device.baseOn_of_none hn]
      exact .of_last him hd hn
    | some n =>
      rw [Device.baseOn_of_some hn]
      exact .of_position hd hn
  | succ m ih =>
    obtain ⟨hm, _⟩ := List.getElem?_eq_some_iff.1 hp
    have hq : r.layout[m]? = some r.layout[m] := List.getElem?_eq_getElem (by omega)
    have hbelow : i + 1 + m + 1 = r.devices.length := by omega
    have he := Rack.device_of_layout hbelow hq
    rw [place_next hq hp]
    cases hn : p.device.position with
    | none =>
      rw [Device.baseOn_of_none hn, place_top (List.mem_of_getElem? hq)]
      exact (ih hbelow hq he).on_next hd hn he
    | some n =>
      rw [Device.baseOn_of_some hn]
      exact .of_position hd hn

/-! ## Overlaps and gaps -/

theorem Rack.climbs_iff_clear {r : Rack} : r.Climbs ↔ r.Clear := by
  rw [Rack.Climbs, List.isChain_iff_getElem]
  constructor
  · intro hclimbs i d n hd hn m q him hq
    have hm : m + 1 < r.layout.length := by
      rw [r.length_layout]
      omega
    have hp : r.layout[m + 1]? = some r.layout[m + 1] := List.getElem?_eq_getElem hm
    have hdevice := Rack.device_of_layout (i := i) (by omega) hp
    obtain ⟨_, rfl⟩ := List.getElem?_eq_some_iff.1 hq
    have hbase := place_next hq hp
    rw [hd, Option.some.injEq] at hdevice
    rw [← hdevice, Device.baseOn_of_some hn] at hbase
    have := hclimbs m hm
    rwa [hbase] at this
  · intro hclear m hm
    have hq : r.layout[m]? = some r.layout[m] := List.getElem?_eq_getElem (by omega)
    have hp : r.layout[m + 1]? = some r.layout[m + 1] := List.getElem?_eq_getElem hm
    rw [r.length_layout] at hm
    obtain ⟨i, him⟩ := Nat.exists_eq_add_of_lt hm
    have hd := Rack.device_of_layout (i := i) (by omega) hp
    rw [place_next hq hp]
    cases hn : r.layout[m + 1].device.position with
    | none => rw [Device.baseOn_of_none hn]
    | some n =>
      rw [Device.baseOn_of_some hn]
      exact hclear i _ n hd hn m _ (by omega) hq

theorem apart_of_le {p q : Placed} (h : p.top ≤ q.base) : p.Apart q :=
  Set.Ico_disjoint_Ico.2 ((min_le_left _ _).trans (h.trans (le_max_right _ _)))

/-- Devices that climb, one after the other, are apart from all others too. -/
theorem pairwise_apart_of_climbs {ps : List Placed}
    (hclimbs : ps.IsChain fun p q => p.top ≤ q.base) (hups : ∀ p ∈ ps, p.base ≤ p.top) :
    ps.Pairwise Placed.Apart := by
  -- no device ends below its base, so what holds of neighbours holds of all
  have hordered : ps.Pairwise fun p q => p.top ≤ q.base := by
    induction ps with
    | nil => exact .nil
    | cons p ps ih =>
      obtain ⟨_, hrest⟩ := List.forall_mem_cons.1 hups
      have hpairs := ih hclimbs.tail hrest
      refine List.pairwise_cons.2 ⟨?_, hpairs⟩
      cases ps with
      | nil => exact fun q hq => nomatch hq
      | cons q ps =>
        have hpq := (List.isChain_cons_cons.1 hclimbs).1
        refine List.forall_mem_cons.2 ⟨hpq, fun s hs => ?_⟩
        have hq := hrest q List.mem_cons_self
        have hqs := (List.pairwise_cons.1 hpairs).1 s hs
        omega
  exact hordered.imp apart_of_le

/-- Devices without a position leave no gap. -/
theorem iUnion_units_place (floor : Int) {l : List Device}
    (hnone : ∀ d ∈ l, d.position = none) (hheight : ∀ d ∈ l, 1 ≤ d.height) :
    ⋃ p ∈ place floor l, p.units = Set.Ico floor (floor + (l.map Device.height).sum) := by
  induction l generalizing floor with
  | nil => simp [place]
  | cons d l ih =>
    obtain ⟨hd, hl⟩ := List.forall_mem_cons.1 hnone
    obtain ⟨hpositive, hheights⟩ := List.forall_mem_cons.1 hheight
    have hsum := sum_height_nonneg hheights
    rw [place_cons, Device.baseOn_of_none hd]
    simp only [List.mem_cons, Set.iUnion_iUnion_eq_or_left]
    have hunits : Placed.units ⟨d, floor, floor + d.height⟩ =
        Set.Ico floor (floor + d.height) := rfl
    rw [ih _ hl hheights, hunits, Set.Ico_union_Ico_eq_Ico (by omega) (by omega), List.map_cons,
      List.sum_cons, Int.add_assoc]

/-- The placements are those of the devices in reverse order, each as high as its device and where
the rack says. Each is above the one before exactly if no position is too low. Devices that take
units upwards are then apart, and if there are no positions they fill the rack from the bottom. -/
theorem Rack.layout_law (r : Rack) :
    r.layout.length = r.devices.length ∧
    (∀ i m, i + m + 1 = r.devices.length → ∃ p, r.layout[m]? = some p ∧
      r.devices[i]? = some p.device ∧ p.top - p.base = p.device.height ∧
      StandsAt r.devices i p.base) ∧
    (r.Climbs ↔ r.Clear) ∧
    ((∀ d ∈ r.devices, 1 ≤ d.height) →
      (r.Climbs → r.layout.Pairwise Placed.Apart) ∧
      ((∀ d ∈ r.devices, d.position = none) →
        Tiles r.layout 0 (r.devices.map Device.height).sum)) := by
  refine ⟨r.length_layout, ?_, Rack.climbs_iff_clear, ?_⟩
  · intro i m him
    have hm : m < r.layout.length := by
      rw [r.length_layout]
      omega
    have hp : r.layout[m]? = some r.layout[m] := List.getElem?_eq_getElem hm
    have htop := place_top (List.mem_of_getElem? hp)
    exact ⟨_, hp, Rack.device_of_layout him hp, by omega, standsAt_layout him hp⟩
  · intro hheight
    have hups : ∀ p ∈ r.layout, p.base ≤ p.top := by
      intro p hp
      have htop := place_top hp
      have := hheight _ (mem_layout_device hp)
      omega
    refine ⟨fun hclimbs => pairwise_apart_of_climbs hclimbs hups, fun hnone => ⟨?_, ?_⟩⟩
    · have hclear : r.Clear := by
        intro i d n hd hn
        rw [hnone d (List.mem_of_getElem? hd)] at hn
        cases hn
      exact pairwise_apart_of_climbs (Rack.climbs_iff_clear.2 hclear) hups
    · have hunion := iUnion_units_place 0 (l := r.devices.reverse)
        (fun d hd => hnone d (List.mem_reverse.1 hd)) fun d hd => hheight d (List.mem_reverse.1 hd)
      rwa [List.map_reverse, List.sum_reverse, Int.zero_add] at hunion

/-- A rack with three devices, the one in the middle with a position or without. -/
def shelf (position : Option Int) : Rack :=
  { devices := [{ kind := "server", height := 2 }, { kind := "ups", position := position },
      { kind := "storage", height := 3 }] }

theorem Rack.layout_law_shelf :
    (∀ p, ∀ d ∈ (shelf p).devices, 1 ≤ d.height) ∧
    (shelf (some 9)).Climbs ∧ (shelf (some 9)).layout.Pairwise Placed.Apart ∧
    (∃ p, (shelf (some 9)).layout[2]? = some p ∧ p.base = 9 ∧
      StandsAt (shelf (some 9)).devices 0 p.base) ∧
    (∀ d ∈ (shelf none).devices, d.position = none) ∧ Tiles (shelf none).layout 0 6 := by
  have hheight : ∀ p, ∀ d ∈ (shelf p).devices, 1 ≤ d.height := by simp [shelf]
  obtain ⟨_, hstands, hclimbs, hapart⟩ := Rack.layout_law (shelf (some 9))
  obtain ⟨_, _, _, htiles⟩ := Rack.layout_law (shelf none)
  have hchain : (shelf (some 9)).Climbs := by
    unfold Rack.Climbs
    decide
  obtain ⟨p, hp, _, _, hbase⟩ := hstands 0 2 rfl
  refine ⟨hheight, hchain, (hapart (hheight _)).1 hchain, ⟨p, hp, ?_, hbase⟩, by decide, ?_⟩
  · cases hp
    rfl
  · exact (htiles (hheight _)).2 (by decide)

end RackElevation
