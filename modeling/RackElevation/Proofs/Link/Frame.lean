import Mathlib.Data.List.Forall2
import RackElevation.Link

/-
  What resolving links leaves alone

  Resolving the links of a rack set goes from device to device and may stop at a
  fault. Whether it does or not, nothing but names and links of devices is
  changed: racks and devices stay where they are, and so do all heights,
  positions, kinds, colours and categories.

  What is proved:
    1. `forall₂_upToFault` — a list that is worked on up to a fault keeps its
       shape.
    2. `linkSet_frame` — a set keeps all but names and links.
    3. `RackSet.SameFrame.valid` — so it keeps its bounds.
-/

namespace RackElevation

/-- The same device up to its name and its link. -/
def Device.SameFrame (d e : Device) : Prop := e = { d with name := e.name, href := e.href }

/-- The same rack up to names and links of devices. -/
structure Rack.SameFrame (r q : Rack) : Prop where
  name : q.name = r.name
  height : q.height = r.height
  devices : List.Forall₂ Device.SameFrame r.devices q.devices

/-- The same rack set up to names and links of devices. -/
structure RackSet.SameFrame (s t : RackSet) : Prop where
  base : t.base = s.base
  id : t.id = s.id
  racks : List.Forall₂ Rack.SameFrame s.racks t.racks

/-- What the elements of a list have, those of a list that is related to it have. -/
theorem forall_of_forall₂ {α : Type} {R : α → α → Prop} {P : α → Prop} {l m : List α}
    (hl : List.Forall₂ R l m) (hR : ∀ a b, R a b → P a → P b) (h : ∀ a ∈ l, P a) :
    ∀ b ∈ m, P b := by
  induction hl with
  | nil => exact fun b hb => nomatch hb
  | cons hab _ ih =>
    obtain ⟨ha, hrest⟩ := List.forall_mem_cons.1 h
    exact List.forall_mem_cons.2 ⟨hR _ _ hab ha, ih hrest⟩

namespace Device.SameFrame

theorem refl (d : Device) : d.SameFrame d := rfl

theorem valid {d e : Device} (h : d.SameFrame e) (hd : d.Valid) : e.Valid := by
  rw [Device.SameFrame] at h
  rw [h]
  exact hd

end Device.SameFrame

namespace Rack.SameFrame

theorem refl (r : Rack) : r.SameFrame r :=
  ⟨rfl, rfl, List.forall₂_same.2 fun d _ => Device.SameFrame.refl d⟩

theorem valid {r q : Rack} (h : r.SameFrame q) (hr : r.Valid) : q.Valid := by
  refine ⟨?_, forall_of_forall₂ h.devices (fun _ _ => Device.SameFrame.valid) hr.2⟩
  rw [h.height]
  exact hr.1

end Rack.SameFrame

theorem RackSet.SameFrame.valid {s t : RackSet} (h : s.SameFrame t) (hs : s.Valid) : t.Valid :=
  forall_of_forall₂ h.racks (fun _ _ => Rack.SameFrame.valid) hs

namespace Link

variable {f : Resolver}

/-- The elements behind a fault are not touched. -/
theorem forall₂_upToFault {α ε : Type} {R : α → α → Prop} {step : α → α × Option ε} {l : List α}
    (hrefl : ∀ a, R a a) (hstep : ∀ a, R a (step a).1) : List.Forall₂ R l (upToFault step l).1 := by
  induction l with
  | nil => exact .nil
  | cons a l ih =>
    have ha := hstep a
    rw [upToFault]
    rcases hs : step a with ⟨b, fault⟩
    rw [hs] at ha
    cases fault with
    | none => exact .cons ha ih
    | some e => exact .cons ha (List.forall₂_same.2 fun a _ => hrefl a)

theorem linkDevice_frame (d : Device) : d.SameFrame (linkDevice f d).1 := by
  unfold linkDevice
  cases d.href.mapM (resolveText f) with
  | error e => rfl
  | ok href =>
    dsimp only
    cases noteReference? d.name.toList with
    | none => rfl
    | some n =>
      dsimp only
      cases f n.target <;> rfl

theorem linkRack_frame (r : Rack) : r.SameFrame (linkRack f r).1 :=
  ⟨rfl, rfl, forall₂_upToFault Device.SameFrame.refl linkDevice_frame⟩

theorem linkSet_frame (s : RackSet) : s.SameFrame (linkSet f s).1 :=
  ⟨rfl, rfl, forall₂_upToFault Rack.SameFrame.refl linkRack_frame⟩

/-- A set whose links are all resolved is the one that is left when resolving stops nowhere. -/
theorem eq_linkSet_of_link {s t : RackSet} (h : link f s = .ok t) : t = (linkSet f s).1 := by
  unfold link at h
  rcases hset : linkSet f s with ⟨u, fault⟩
  rw [hset] at h
  cases fault with
  | none => exact (Except.ok.inj h).symm
  | some e => cases h

end Link

end RackElevation
