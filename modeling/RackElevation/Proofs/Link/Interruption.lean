import RackElevation.Proofs.Conversion

/-
  Resolving that stops at a fault

  The devices of a set are resolved in place, one after the other, until one of
  them has a link that cannot be resolved. Those before it are resolved by then,
  and those after it are as they were. The device itself is as it was if the
  fault is that of its own link. If it is that of the note in its name, the
  brackets are gone already and no address has come for them, so the device is
  neither as it was nor resolved.

  What is proved:
    1. `upToFault_split` — what a list is when work on it stopped at a fault.
    2. `linkSet_split` — so for the devices of a set.
    3. `whole_iff` — each device is as it was or resolved, exactly if the fault is
       that of the own link of a device.
    4. `bracket_not_whole` — a set of one device that is left in between.
-/

namespace RackElevation.Link

open Outcome

/-! ## Where work stops -/

/-- Before the element with the fault each one is worked on, and after it none is. -/
theorem upToFault_split {α ε : Type} {step : α → α × Option ε} {l : List α} {e : ε}
    (h : (upToFault step l).2 = some e) :
    ∃ before a after, l = before ++ a :: after ∧ (∀ b ∈ before, (step b).2 = none) ∧
      (step a).2 = some e ∧
      (upToFault step l).1 = before.map (fun b => (step b).1) ++ (step a).1 :: after := by
  induction l with
  | nil => cases h
  | cons a l ih =>
    rw [upToFault] at h ⊢
    rcases hstep : step a with ⟨b, fault⟩
    rw [hstep] at h
    cases fault with
    | some e' =>
      cases h
      refine ⟨[], a, l, rfl, ?_, by rw [hstep], by rw [hstep]; rfl⟩
      exact fun b hb => absurd hb List.not_mem_nil
    | none =>
      obtain ⟨before, c, after, rfl, hbefore, hc, hl⟩ := ih h
      refine ⟨a :: before, c, after, rfl, List.forall_mem_cons.2 ⟨by rw [hstep], hbefore⟩, hc, ?_⟩
      simp [hstep, hl]

section Sets

variable {f : Resolver} {s : RackSet} {fault : Uri.Fault}

/-- What the devices of a set are when resolving them stopped at a fault. -/
theorem linkSet_split (h : (linkSet f s).2 = some fault) :
    ∃ before d after, s.devices = before ++ d :: after ∧
      (∀ b ∈ before, (linkDevice f b).2 = none) ∧ (linkDevice f d).2 = some fault ∧
      (linkSet f s).1.devices = before.map (linked f) ++ linked f d :: after := by
  obtain ⟨racks, r, racks', hs, hracks, hr, hset⟩ := upToFault_split h
  obtain ⟨before, d, after, hdevices, hbefore, hd, hrack⟩ := upToFault_split hr
  have hdone : ∀ q ∈ racks, ∀ b ∈ q.devices, (linkDevice f b).2 = none :=
    fun q hq => linkRack_fault_iff.1 (hracks q hq)
  refine ⟨racks.flatMap Rack.devices ++ before, d, after ++ racks'.flatMap Rack.devices, ?_, ?_, hd, ?_⟩
  · rw [RackSet.devices, hs, List.flatMap_append, List.flatMap_cons, hdevices]
    simp
  · rw [List.forall_mem_append]
    refine ⟨?_, hbefore⟩
    intro b hb
    obtain ⟨q, hq, hbq⟩ := List.mem_flatMap.1 hb
    exact hdone q hq b hbq
  · have hmapped : (racks.map fun q => (linkRack f q).1).flatMap Rack.devices =
        (racks.flatMap Rack.devices).map (linked f) := by
      rw [List.map_congr_left fun q hq => linkRack_eq_mapDevices (hdone q hq), List.flatMap_map,
        List.map_flatMap]
      rfl
    have hstop : (linkRack f r).1.devices = before.map (linked f) ++ linked f d :: after := hrack
    show ((upToFault (linkRack f) s.racks).1).flatMap Rack.devices = _
    rw [hset, List.flatMap_append, List.flatMap_cons, hmapped, hstop]
    simp

end Sets

/-! ## The device with the fault -/

section Device

variable {f : Resolver} {d d' : Device}

/-- A device is as it was, or as resolving it alone leaves it. -/
def Whole (f : Resolver) (d d' : Device) : Prop := d' = d ∨ linkDevice f d = (d', none)

/-- A device that has lost the brackets of a note has the address of the note. -/
def Addressed (f : Resolver) (d d' : Device) : Prop :=
  d'.name ≠ d.name → ∃ (n : NoteReference) (a : List Char), n.FirstIn d.name.toList ∧
    f n.target = .ok a ∧ d'.href = some (String.ofList a)

/-- The own link of a device is answered, if there is anything to answer. -/
def LinkAnswered (f : Resolver) (d : Device) : Prop :=
  ∀ href ∈ d.href, href ≠ "" → Succeeds (f href.toList)

theorem Whole.addressed (h : Whole f d d') : Addressed f d d' := by
  intro hname
  rcases h with rfl | h
  · exact absurd rfl hname
  · cases rewritten_of_linkDevice h with
    | named hn ha => exact ⟨_, _, hn, ha, rfl⟩
    | linked => exact absurd rfl hname
    | same => exact absurd rfl hname

/-- The text of a note reference is shorter without its brackets. -/
theorem NoteReference.In.ne {n : NoteReference} {s : List Char} (h : n.In s) :
    n.before ++ n.target ++ n.after ≠ s := by
  intro heq
  have hlength := congrArg List.length (heq.trans h.1)
  simp only [bracketed, List.length_append, List.length_cons, List.length_nil] at hlength
  omega

/-- A device whose own link is not answered stays as it was. -/
theorem linked_of_not_answered (h : ¬LinkAnswered f d) : linked f d = d := by
  unfold linked linkDevice
  cases hhref : d.href.mapM (resolveText f) with
  | error e => rfl
  | ok href => exact absurd (succeeds_mapM_resolveText.1 ⟨href, hhref⟩) h

/-- A device whose own link is answered has lost the brackets of a note that is not. -/
theorem linked_of_answered {fault : Uri.Fault} (h : LinkAnswered f d)
    (hfault : (linkDevice f d).2 = some fault) :
    ∃ n : NoteReference, n.FirstIn d.name.toList ∧ f n.target = .error fault ∧
      (linked f d).name.toList = n.before ++ n.target ++ n.after := by
  obtain ⟨href, hhref⟩ := succeeds_mapM_resolveText.2 h
  unfold linked
  unfold linkDevice at hfault ⊢
  rw [hhref] at hfault ⊢
  dsimp only at hfault ⊢
  cases hname : noteReference? d.name.toList with
  | none =>
    rw [hname] at hfault
    cases hfault
  | some n =>
    rw [hname] at hfault
    dsimp only at hfault ⊢
    cases htarget : f n.target with
    | ok a =>
      rw [htarget] at hfault
      cases hfault
    | error e =>
      rw [htarget] at hfault
      cases hfault
      exact ⟨n, noteReference?_eq_some_iff.1 hname, htarget, String.toList_ofList⟩

/-- If its own link is answered, the device has a new name and no address for it. -/
theorem not_addressed {fault : Uri.Fault} (h : LinkAnswered f d)
    (hfault : (linkDevice f d).2 = some fault) : ¬Addressed f d (linked f d) := by
  obtain ⟨n, hn, hrefused, hname⟩ := linked_of_answered h hfault
  intro haddressed
  obtain ⟨m, a, hm, ha, _⟩ := haddressed (fun heq => hn.stands.ne (by rw [← hname, heq]))
  have hsame := noteReference?_eq_some_iff.2 hm
  rw [noteReference?_eq_some_iff.2 hn, Option.some.injEq] at hsame
  rw [← hsame, hrefused] at ha
  cases ha

end Device

/-! ## Sets -/

/-- What each device has that is as it was or resolved, all devices have exactly if the one with the
fault has it. -/
theorem forall₂_split {f : Resolver} {R : Device → Device → Prop} (hR : ∀ d d', Whole f d d' → R d d')
    {before after : List Device} {d : Device} (hbefore : ∀ b ∈ before, (linkDevice f b).2 = none) :
    List.Forall₂ R (before ++ d :: after) (before.map (linked f) ++ linked f d :: after) ↔
      R d (linked f d) := by
  have hfront : List.Forall₂ R before (before.map (linked f)) := by
    rw [List.forall₂_map_right_iff, List.forall₂_same]
    exact fun b hb => hR b _ (.inr (linkDevice_eq_linked (hbefore b hb)))
  have hback : List.Forall₂ R after after := List.forall₂_same.2 fun a _ => hR a a (.inl rfl)
  constructor
  · intro h
    have hdrop := List.forall₂_drop before.length h
    simp only [List.drop_left', List.length_map] at hdrop
    exact (List.forall₂_cons.1 hdrop).1
  · exact fun h => List.rel_append hfront (.cons h hback)

/-- The first device of a set whose links cannot be resolved has an own link that is no proper
reference. -/
def FaultyLink (s : RackSet) : Prop :=
  ∃ before d after, s.devices = before ++ d :: after ∧ (∀ b ∈ before, Linkable b) ∧
    ∃ href, d.href = some href ∧ href ≠ "" ∧ wholeNote? href.toList = none ∧
      ¬Uri.Proper href.toList

/-- A list has one first element without a property. -/
theorem eq_of_first {α : Type} {p : α → Prop} {before before' after after' : List α} {a a' : α}
    (h : before ++ a :: after = before' ++ a' :: after') (hbefore : ∀ b ∈ before, p b) (ha : ¬p a)
    (hbefore' : ∀ b ∈ before', p b) (ha' : ¬p a') : a = a' := by
  induction before generalizing before' with
  | nil =>
    cases before' with
    | nil => exact (List.cons.inj h).1
    | cons b before' =>
      cases (List.cons.inj h).1
      exact absurd (hbefore' _ List.mem_cons_self) ha
  | cons b before ih =>
    cases before' with
    | nil =>
      cases (List.cons.inj h).1
      exact absurd (hbefore _ List.mem_cons_self) ha'
    | cons b' before' =>
      exact ih (List.cons.inj h).2 (List.forall_mem_cons.1 hbefore).2
        (List.forall_mem_cons.1 hbefore').2

section Base

variable {base : List Char} {s : RackSet}

theorem not_linkAnswered_iff {d : Device} : ¬LinkAnswered (resolver base) d ↔
    ∃ href, d.href = some href ∧ href ≠ "" ∧ wholeNote? href.toList = none ∧
      ¬Uri.Proper href.toList := by
  simp only [LinkAnswered, succeeds_resolver, Option.mem_def, not_forall, exists_prop]

/-- The device with the fault is the first that cannot be linked. -/
theorem faultyLink_iff {before after : List Device} {d : Device} (hs : s.devices = before ++ d :: after)
    (hbefore : ∀ b ∈ before, (linkDevice (resolver base) b).2 = none)
    (hd : (linkDevice (resolver base) d).2 ≠ none) :
    FaultyLink s ↔ ¬LinkAnswered (resolver base) d := by
  simp only [linkDevice_fault_iff, ne_eq] at hbefore hd
  rw [not_linkAnswered_iff]
  constructor
  · intro h
    obtain ⟨before', d', after', hs', hbefore', href, hhref, hne, hnote, hproper⟩ := h
    have hd' : ¬Linkable d' := fun hlinkable => hproper (hlinkable.link href hhref hne hnote)
    obtain rfl := eq_of_first (hs.symm.trans hs') hbefore hd hbefore' hd'
    exact ⟨href, hhref, hne, hnote, hproper⟩
  · exact fun h => ⟨before, d, after, hs, hbefore, h⟩

/-- When resolving stops at a fault, each device is as it was or as resolving it alone leaves it,
and each that has lost the brackets of a note has its address, exactly if the fault is that of the
own link of a device and not that of the note in its name. -/
theorem whole_iff {fault : Uri.Fault} (h : (linkSet (resolver base) s).2 = some fault) :
    (List.Forall₂ (Whole (resolver base)) s.devices (linkSet (resolver base) s).1.devices ↔
      FaultyLink s) ∧
    (List.Forall₂ (Addressed (resolver base)) s.devices (linkSet (resolver base) s).1.devices ↔
      FaultyLink s) := by
  obtain ⟨before, d, after, hs, hbefore, hd, ht⟩ := linkSet_split h
  have hwhole : ¬LinkAnswered (resolver base) d → Whole (resolver base) d (linked (resolver base) d) :=
    fun hnot => .inl (linked_of_not_answered hnot)
  have haddressed : Addressed (resolver base) d (linked (resolver base) d) →
      ¬LinkAnswered (resolver base) d := fun haddress hlink => not_addressed hlink hd haddress
  rw [faultyLink_iff hs hbefore (by rw [hd]; exact Option.some_ne_none fault), ht, hs]
  rw [forall₂_split (fun _ _ hd => hd) hbefore, forall₂_split (fun _ _ => Whole.addressed) hbefore]
  exact ⟨⟨fun h => haddressed h.addressed, hwhole⟩, haddressed, fun hnot => (hwhole hnot).addressed⟩

end Base

/-- Devices with a note each; the second has a link besides that is no proper reference. -/
def halted : RackSet :=
  { racks := [{ devices := [{ kind := "server", name := "[[a]]" },
      { kind := "ups", name := "[[b]]", href := some "//[x" }] },
      { devices := [{ kind := "pdu", name := "[[c]]" }] }] }

theorem whole_iff_halted :
    (linkSet (resolver "notes:".toList) halted).2 = some .brackets ∧ FaultyLink halted ∧
    List.Forall₂ (Whole (resolver "notes:".toList)) halted.devices
      (linkSet (resolver "notes:".toList) halted).1.devices ∧
    (linkSet (resolver "notes:".toList) halted).1.devices.map (fun d => (d.name, d.href)) =
      [("a", some "notes:a"), ("[[b]]", some "//[x"), ("[[c]]", none)] := by
  have hfault : (linkSet (resolver "notes:".toList) halted).2 = some .brackets := by decide +kernel
  have hrun : (linkSet (resolver "notes:".toList) halted).1.devices.map (fun d => (d.name, d.href)) =
      [("a", some "notes:a"), ("[[b]]", some "//[x"), ("[[c]]", none)] := by decide +kernel
  have hfirst : linkDevice (resolver "notes:".toList) { kind := "server", name := "[[a]]" } =
      ({ kind := "server", name := "a", href := some "notes:a" }, none) := by decide +kernel
  have hsecond : (linkSet (resolver "notes:".toList) halted).1.devices =
      [{ kind := "server", name := "a", href := some "notes:a" },
        { kind := "ups", name := "[[b]]", href := some "//[x" },
        { kind := "pdu", name := "[[c]]" }] := by decide +kernel
  obtain ⟨hwhole, _⟩ := whole_iff hfault
  have hall : List.Forall₂ (Whole (resolver "notes:".toList)) halted.devices
      (linkSet (resolver "notes:".toList) halted).1.devices := by
    rw [hsecond]
    exact .cons (.inr hfirst) (.cons (.inl rfl) (.cons (.inl rfl) .nil))
  exact ⟨hfault, hwhole.1 hall, hall, hrun⟩

/-- A device whose name holds a note that is no proper reference. -/
def bracketOnly : RackSet := { racks := [{ devices := [{ kind := "server", name := "[[//[x]]" }] }] }

/-- The device has lost its brackets and got no address. -/
theorem bracket_not_whole :
    (linkSet (resolver "notes:".toList) bracketOnly).2 = some .brackets ∧
    (linkSet (resolver "notes:".toList) bracketOnly).1.devices =
      [{ kind := "server", name := "//[x" }] ∧
    ¬List.Forall₂ (Whole (resolver "notes:".toList)) bracketOnly.devices
      (linkSet (resolver "notes:".toList) bracketOnly).1.devices := by
  have hleft : (linkSet (resolver "notes:".toList) bracketOnly).1.devices =
      [{ kind := "server", name := "//[x" }] := by decide +kernel
  refine ⟨by decide +kernel, hleft, ?_⟩
  rw [hleft]
  intro h
  rcases (List.forall₂_cons.1 h).1 with hsame | hlinked
  · revert hsame
    decide +kernel
  · revert hlinked
    decide +kernel

end RackElevation.Link
