import RackElevation.Proofs.Devices
import RackElevation.Proofs.Link.Resolver

/-
  Resolving the links of a rack set

  The devices of a set are resolved one after the other, and each on its own: its
  link first, then the note reference in its name. If none fails, the set is
  changed device by device.

  What is proved:
    1. `linkDevice_eq_iff` — what becomes of a device that does not fail.
    2. `link_eq_ok_iff` — what becomes of a set in which none does.
-/

namespace RackElevation.Link

open Outcome

variable {f : Resolver}

/-- A device with its links resolved as far as they can be. -/
def linked (f : Resolver) (d : Device) : Device := (linkDevice f d).1

theorem ofList_ne_empty {s : List Char} (h : s ≠ []) : String.ofList s ≠ "" := by
  intro hempty
  apply h
  simpa using congrArg String.toList hempty

theorem resolveText_eq_ok_iff {x y : String} : resolveText f x = .ok y ↔
    x = "" ∧ y = "" ∨ x ≠ "" ∧ f x.toList = .ok y.toList := by
  unfold resolveText
  by_cases hx : x = ""
  · subst hx
    simp
  · rw [if_neg (by simpa using hx), map_eq_ok]
    constructor
    · intro h
      obtain ⟨a, ha, rfl⟩ := h
      exact .inr ⟨hx, by simpa using ha⟩
    · intro h
      rcases h with ⟨hempty, _⟩ | ⟨_, h⟩
      · exact absurd hempty hx
      · exact ⟨_, h, String.ofList_toList⟩

theorem mapM_resolveText_eq_ok_iff {x y : Option String} : x.mapM (resolveText f) = .ok y ↔
    x = none ∧ y = none ∨ ∃ v w, x = some v ∧ y = some w ∧ resolveText f v = .ok w := by
  cases x with
  | none => simp [pure, Except.pure, eq_comm]
  | some v =>
    rw [Option.mapM_some]
    cases hv : resolveText f v with
    | error e => simp [hv, Functor.map, Except.map]
    | ok w => simp [hv, Functor.map, Except.map, eq_comm]

theorem succeeds_mapM_resolveText {x : Option String} :
    Succeeds (x.mapM (resolveText f)) ↔ ∀ href ∈ x, href ≠ "" → Succeeds (f href.toList) := by
  cases x with
  | none => exact iff_of_true ⟨none, rfl⟩ fun _ h => nomatch h
  | some href =>
    have hmapped : Succeeds ((some href).mapM (resolveText f)) ↔ Succeeds (resolveText f href) := by
      rw [Option.mapM_some]
      exact succeeds_map
    rw [hmapped, resolveText]
    by_cases hempty : href = ""
    · subst hempty
      refine iff_of_true ⟨"", rfl⟩ ?_
      intro _ h hne
      cases h
      exact absurd rfl hne
    · rw [if_neg (by simpa using hempty), succeeds_map]
      constructor
      · intro h _ hmem _
        cases hmem
        exact h
      · exact fun h => h href rfl hempty

/-- What becomes of a device that does not fail. -/
theorem linkDevice_eq_iff {d e : Device} : linkDevice f d = (e, none) ↔
    ∃ href, d.href.mapM (resolveText f) = .ok href ∧
      (noteReference? d.name.toList = none ∧ e = { d with href := href } ∨
        ∃ n a, noteReference? d.name.toList = some n ∧ f n.target = .ok a ∧
          e = { d with name := String.ofList (n.before ++ n.target ++ n.after),
                       href := some (String.ofList a) }) := by
  unfold linkDevice
  cases hhref : d.href.mapM (resolveText f) with
  | error fault => simp
  | ok href =>
    cases hnote : noteReference? d.name.toList with
    | none => simp [hnote, eq_comm]
    | some n =>
      cases haddress : f n.target with
      | error fault => simp [hnote, haddress]
      | ok a => simp [hnote, haddress, eq_comm]

theorem linkDevice_of_address {d : Device} {href : String} {a : List Char}
    (hhref : d.href = some href) (hne : href ≠ "") (hname : noteReference? d.name.toList = none)
    (ha : f href.toList = .ok a) :
    linkDevice f d = ({ d with href := some (String.ofList a) }, none) := by
  rw [linkDevice_eq_iff]
  refine ⟨_, ?_, .inl ⟨hname, rfl⟩⟩
  rw [mapM_resolveText_eq_ok_iff]
  refine .inr ⟨href, _, hhref, rfl, ?_⟩
  rw [resolveText_eq_ok_iff, String.toList_ofList]
  exact .inr ⟨hne, ha⟩

theorem linkDevice_eq_linked {d : Device} (h : (linkDevice f d).2 = none) :
    linkDevice f d = (linked f d, none) := Prod.ext rfl h

/-! ## Sets -/

theorem upToFault_fault_iff {α ε : Type} {step : α → α × Option ε} {l : List α} :
    (upToFault step l).2 = none ↔ ∀ a ∈ l, (step a).2 = none := by
  induction l with
  | nil => simp [upToFault]
  | cons a l ih =>
    rw [upToFault, List.forall_mem_cons, ← ih]
    rcases hstep : step a with ⟨b, fault⟩
    cases fault <;> simp

theorem linkRack_fault_iff {r : Rack} :
    (linkRack f r).2 = none ↔ ∀ d ∈ r.devices, (linkDevice f d).2 = none := upToFault_fault_iff

theorem linkRack_eq_mapDevices {r : Rack} (h : ∀ d ∈ r.devices, (linkDevice f d).2 = none) :
    (linkRack f r).1 = r.mapDevices (linked f) := by
  show { r with devices := (upToFault (linkDevice f) r.devices).1 } = _
  rw [upToFault_ok h]
  rfl

theorem linkSet_fault_iff {s : RackSet} :
    (linkSet f s).2 = none ↔ ∀ d ∈ s.devices, (linkDevice f d).2 = none := by
  have hracks : (linkSet f s).2 = none ↔ ∀ r ∈ s.racks, (linkRack f r).2 = none :=
    upToFault_fault_iff
  simp only [hracks, linkRack_fault_iff, RackSet.mem_devices]
  exact ⟨fun h d ⟨r, hr, hd⟩ => h r hr d hd, fun h r hr d hd => h d ⟨r, hr, hd⟩⟩

theorem linkSet_eq_mapDevices {s : RackSet} (h : ∀ d ∈ s.devices, (linkDevice f d).2 = none) :
    (linkSet f s).1 = s.mapDevices (linked f) := by
  have hdevices : ∀ r ∈ s.racks, ∀ d ∈ r.devices, (linkDevice f d).2 = none :=
    fun r hr d hd => h d (RackSet.mem_devices.2 ⟨r, hr, hd⟩)
  have hracks : ∀ r ∈ s.racks, (linkRack f r).1 = r.mapDevices (linked f) :=
    fun r hr => linkRack_eq_mapDevices (hdevices r hr)
  show { s with racks := (upToFault (linkRack f) s.racks).1 } = _
  rw [upToFault_ok fun r hr => linkRack_fault_iff.2 (hdevices r hr),
    List.map_congr_left hracks]
  rfl

/-- A set is resolved exactly if each of its devices is. -/
theorem link_eq_ok_iff {s t : RackSet} : link f s = .ok t ↔
    (∀ d ∈ s.devices, (linkDevice f d).2 = none) ∧ t = s.mapDevices (linked f) := by
  have hlink : link f s = .ok t ↔ (linkSet f s).2 = none ∧ t = (linkSet f s).1 := by
    unfold link
    rcases linkSet f s with ⟨u, fault⟩
    cases fault <;> simp [eq_comm]
  rw [hlink, linkSet_fault_iff]
  constructor
  · intro h
    exact ⟨h.1, by rw [h.2, linkSet_eq_mapDevices h.1]⟩
  · intro h
    exact ⟨h.1, by rw [h.2, linkSet_eq_mapDevices h.1]⟩

/-- Devices that are resolved, beside what becomes of them. -/
theorem forall₂_of_link {R : Device → Device → Prop} {s t : RackSet} (h : link f s = .ok t)
    (hR : ∀ d e, linkDevice f d = (e, none) → R d e) : List.Forall₂ R s.devices t.devices := by
  obtain ⟨hall, rfl⟩ := link_eq_ok_iff.1 h
  rw [RackSet.devices_mapDevices, List.forall₂_map_right_iff, List.forall₂_same]
  exact fun d hd => hR d _ (linkDevice_eq_linked (hall d hd))

end RackElevation.Link
