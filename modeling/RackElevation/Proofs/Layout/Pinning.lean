import RackElevation.Proofs.Drawing.Look
import RackElevation.Proofs.Layout

/-
  Pinned racks

  A rack is pinned by giving each of its devices the position of the place where
  it stands. Nothing is seen of that: the places stay, and a drawing shows a
  position only by the place that it leads to. But a place now depends on its
  device alone, and no longer on the devices that are placed before it, so the
  devices of a pinned rack may be listed in any order.

  What is proved:
    1. `Rack.layout_pinned` — a pinned rack is laid out like the rack itself.
    2. `place_of_positions` — devices with positions stand where they stand alone.
    3. `Rack.layout_perm` — listed in another order, they keep their places.
    4. `Rack.pinning_law` — all of this, and that no drawing shows it.
-/

namespace RackElevation

/-- A device that is to stand on so many units. -/
def Device.pinnedAt (d : Device) (base : Int) : Device := { d with position := some (base + 1) }

/-- A placed device that has the position of its place. -/
def Placed.pinned (p : Placed) : Placed := { p with device := p.device.pinnedAt p.base }

/-- The rack, with each device at a position of its own: where it is placed. -/
def Rack.pinned (r : Rack) : Rack :=
  { r with devices := r.devices.zipWith Device.pinnedAt (r.layout.reverse.map Placed.base) }

/-- A rack set with some of its racks pinned, by their number. -/
def RackSet.pinned (chosen : Nat → Bool) (s : RackSet) : RackSet :=
  { s with racks := s.racks.mapIdx fun i r => if chosen i then r.pinned else r }

/-- A device in its own place, without any others. -/
def Device.alone (d : Device) : Placed := ⟨d, d.baseOn 0, d.baseOn 0 + d.height⟩

/-! ## The devices of a pinned rack -/

theorem Rack.devices_pinned (r : Rack) :
    r.pinned.devices.reverse = r.layout.map fun p => p.pinned.device := by
  have hlength : r.devices.length = (r.layout.reverse.map Placed.base).length := by
    rw [List.length_map, List.length_reverse, Rack.layout, place_length, List.length_reverse]
  calc r.pinned.devices.reverse
      = r.devices.reverse.zipWith Device.pinnedAt (r.layout.reverse.map Placed.base).reverse :=
        List.reverse_zipWith hlength
    _ = (r.layout.map Placed.device).zipWith Device.pinnedAt (r.layout.map Placed.base) := by
        rw [List.map_reverse, List.reverse_reverse, r.layout_device]
    _ = r.layout.map fun p => p.pinned.device := by
        rw [List.zipWith_map, List.zipWith_self]
        rfl

theorem Rack.forall_pinned_iff {r : Rack} {P : Device → Prop} :
    (∀ d ∈ r.pinned.devices, P d) ↔ ∀ p ∈ r.layout, P p.pinned.device := by
  have hmem : (∀ p ∈ r.layout, P p.pinned.device) ↔ ∀ d ∈ r.pinned.devices.reverse, P d := by
    rw [r.devices_pinned, List.forall_mem_map]
  rw [hmem]
  simp only [List.mem_reverse]

theorem Rack.valid_pinned {r : Rack} (h : r.Valid) : r.pinned.Valid := by
  refine ⟨h.1, Rack.forall_pinned_iff.2 fun p hp => ⟨(h.2 _ (mem_layout_device hp)).1, ?_⟩⟩
  -- no device stands below the bottom of its rack
  obtain ⟨hbase, _⟩ := r.layout_upright h p hp
  intro n hn
  cases hn
  show 1 ≤ p.base + 1
  omega

/-! ## Places that do not depend on an order -/

/-- Devices with positions stand where they would stand alone. -/
theorem place_of_positions {l : List Device} (h : ∀ d ∈ l, d.position ≠ none) (floor : Int) :
    place floor l = l.map Device.alone := by
  induction l generalizing floor with
  | nil => rfl
  | cons d l ih =>
    obtain ⟨hd, hl⟩ := List.forall_mem_cons.1 h
    obtain ⟨n, hn⟩ := Option.ne_none_iff_exists'.1 hd
    have hbase : d.baseOn floor = d.baseOn 0 := by
      rw [Device.baseOn_of_some hn, Device.baseOn_of_some hn]
    rw [place_cons, hbase, ih hl]
    rfl

theorem Rack.layout_of_positions {r : Rack} (h : ∀ d ∈ r.devices, d.position ≠ none) :
    r.layout = r.devices.reverse.map Device.alone :=
  place_of_positions (fun d hd => h d (List.mem_reverse.1 hd)) 0

theorem alone_pinned {r : Rack} {p : Placed} (hp : p ∈ r.layout) :
    p.pinned.device.alone = p.pinned := by
  have hbase : p.pinned.device.baseOn 0 = p.base := by
    rw [Device.baseOn_of_some rfl]
    exact Int.add_sub_cancel ..
  have htop : p.top = p.base + p.pinned.device.height := place_top hp
  rw [Device.alone, hbase, ← htop]
  rfl

theorem Rack.position_pinned (r : Rack) : ∀ d ∈ r.pinned.devices, d.position ≠ none :=
  Rack.forall_pinned_iff.2 fun _ _ h => nomatch h

theorem Rack.layout_pinned (r : Rack) : r.pinned.layout = r.layout.map Placed.pinned := by
  rw [Rack.layout_of_positions r.position_pinned, r.devices_pinned, List.map_map]
  exact List.map_congr_left fun p hp => alone_pinned hp

/-- Devices with positions, listed in another order, keep their places. -/
theorem Rack.layout_perm {q r : Rack} (h : ∀ d ∈ r.devices, d.position ≠ none)
    (hperm : q.devices.Perm r.devices) :
    q.layout.Perm r.layout ∧ ∀ p ∈ q.layout, ∀ p' ∈ r.layout, p.device = p'.device → p = p' := by
  have hq : ∀ d ∈ q.devices, d.position ≠ none := fun d hd => h d (hperm.mem_iff.1 hd)
  rw [Rack.layout_of_positions h, Rack.layout_of_positions hq]
  refine ⟨?_, ?_⟩
  · apply List.Perm.map
    exact (List.reverse_perm _).trans (hperm.trans (List.reverse_perm _).symm)
  · intro p hp p' hp' hdevice
    obtain ⟨d, _, rfl⟩ := List.mem_map.1 hp
    obtain ⟨e, _, rfl⟩ := List.mem_map.1 hp'
    exact congrArg Device.alone hdevice

/-! ## Drawings of pinned racks -/

theorem Rack.looksLike_pinned (r : Rack) : r.pinned.LooksLike r := by
  refine ⟨rfl, rfl, ?_⟩
  rw [r.layout_pinned, List.map_map]
  rfl

theorem RackSet.draw_pinned (chosen : Nat → Bool) (s : RackSet) :
    Drawing.draw (s.pinned chosen) = Drawing.draw s := by
  have hbase : (s.pinned chosen).base = s.base := rfl
  apply draw_congr hbase
  refine List.forall₂_iff_get.2 ⟨List.length_mapIdx, fun i _ _ => ?_⟩
  simp only [RackSet.pinned, List.get_eq_getElem, List.getElem_mapIdx]
  split
  · exact Rack.looksLike_pinned _
  · exact ⟨rfl, rfl, rfl⟩

/-- A pinned rack keeps its bounds and is laid out in the same places, in the same order. Its devices
keep their places in every order, so only the order of placement changes. No drawing shows which
racks of a set are pinned. -/
theorem Rack.pinning_law :
    (∀ r : Rack, r.Valid → r.pinned.Valid ∧ r.pinned.layout = r.layout.map Placed.pinned ∧
      ∀ q : Rack, q.devices.Perm r.pinned.devices →
        q.layout.map Placed.device = q.devices.reverse ∧ q.layout.Perm r.pinned.layout ∧
        ∀ p ∈ q.layout, ∀ p' ∈ r.pinned.layout, p.device = p'.device → p = p') ∧
    ∀ (chosen : Nat → Bool) (s : RackSet), Drawing.draw (s.pinned chosen) = Drawing.draw s := by
  refine ⟨fun r hr => ⟨r.valid_pinned hr, r.layout_pinned, ?_⟩, RackSet.draw_pinned⟩
  exact fun q hperm => ⟨q.layout_device, Rack.layout_perm r.position_pinned hperm⟩

/-- A rack in which one device has a position, and two look the same. -/
def pile : Rack :=
  { height := 12
    devices := [{ kind := "server" }, { kind := "server" },
      { kind := "pdu", height := 2, position := some 4 }, { kind := "switch" }] }

/-- The pinned rack with its devices the other way round. -/
def turnedPile : Rack := { pile.pinned with devices := pile.pinned.devices.reverse }

theorem Rack.pinning_law_pile :
    pile.Valid ∧ pile.pinned.Valid ∧
    pile.pinned.devices.map Device.position = [some 7, some 6, some 4, some 1] ∧
    turnedPile.devices.Perm pile.pinned.devices ∧
    turnedPile.layout.Perm pile.pinned.layout ∧
    turnedPile.layout.map Placed.base = [6, 5, 3, 0] ∧
    Drawing.draw (RackSet.pinned (· == 1) { racks := [pile, pile] }) =
      Drawing.draw { racks := [pile, pile] } := by
  have hvalid : pile.Valid := by simp [Rack.Valid, Device.Valid, pile]
  have hperm : turnedPile.devices.Perm pile.pinned.devices := List.reverse_perm _
  obtain ⟨hlayout, hdraw⟩ := Rack.pinning_law
  obtain ⟨hpinned, _, horder⟩ := hlayout pile hvalid
  obtain ⟨_, hplaces, _⟩ := horder turnedPile hperm
  exact ⟨hvalid, hpinned, by decide, hperm, hplaces, by decide, hdraw _ _⟩

end RackElevation
