import RackElevation.Proofs.Drawing.Survey
import RackElevation.Proofs.Link.Linking

/-
  Links on a drawing

  The address that a resolver gives to a device goes through two more hands
  before it is read from a drawing: it is joined with the base of the set, and
  written without the control characters that a document may not hold. An
  address under a base with a scheme has that scheme. If the set has no base, or
  one of another scheme, joining does not change it.

  What is proved:
    1. `deviceGroups?_of_draw` — where the devices of a rack are on a drawing.
    2. `address_eq_of_schemed` — an address with a scheme of its own is kept.
    3. `links_survive` — what a reader finds around a device that is linked.
-/

namespace RackElevation

open Markup Uri Outcome
open Plan (kind)

/-! ## Where devices are drawn -/

/-- The groups of the devices of a rack, which is number `i` of its set, on a drawing. -/
def deviceGroups? (out : String) (i : Nat) : Option (List Tree) := do
  let document ← Markup.read out.toList
  -- the group of each rack comes after that of its scale
  let rack ← (document.elements.filter (kind · = "g"))[2 * i + 1]?
  return rack.elements.filter (kind · = "g")

namespace Plan

theorem getElem?_racks (base : Option String) (j i : Nat) (l : List Rack) :
    (racks base j l)[2 * i + 1]? =
      l[i]?.map fun r => moved (toString (25 + 325 * (j + i : Nat) : Int)) "0" (rack base r) := by
  induction l generalizing i j with
  | nil => rfl
  | cons r l ih =>
    cases i with
    | zero => rfl
    | succ i =>
      rw [show 2 * (i + 1) + 1 = 2 * i + 1 + 1 + 1 by omega, racks, List.getElem?_cons_succ,
        List.getElem?_cons_succ, ih, List.getElem?_cons_succ, show j + 1 + i = j + (i + 1) by omega]

theorem elements_placed (base : Option String) (bottom : Int) (p : Placed) :
    (placed base bottom p).elements = device (target base p.device) p.device :=
  elements_moved (kind_device _ _) (by decide)

end Plan

section Drawn

variable {s : RackSet} {out : String} {i : Nat} {r : Rack}

theorem deviceGroups?_of_draw (h : Drawing.draw s = .ok out) (hr : s.racks[i]? = some r) :
    deviceGroups? out i = some (r.layout.map (Plan.placed s.base (25 + r.height * 25))) := by
  rw [deviceGroups?, read_of_draw h]
  have helements := Plan.elements_moved (x := toString (25 + 325 * (0 + i : Nat) : Int)) (y := "0")
    (Plan.kind_rack s.base r) (by decide)
  simp only [Option.bind_eq_bind, Option.bind_some, Plan.groups_document, Plan.getElem?_racks, hr,
    Option.map_some, helements, (Plan.groups_rack s.base r).2]
  rfl

/-- Each device of a rack has a group, in reverse order. -/
theorem forall₂_deviceGroups (h : Drawing.draw s = .ok out) (hr : s.racks[i]? = some r) :
    ∃ groups, deviceGroups? out i = some groups ∧ List.Forall₂ (fun d group =>
      group.elements = Plan.device (Plan.target s.base d) d) r.devices.reverse groups := by
  refine ⟨_, deviceGroups?_of_draw h hr, ?_⟩
  rw [← r.layout_device, List.forall₂_map_left_iff, List.forall₂_map_right_iff, List.forall₂_same]
  exact fun p hp => Plan.elements_placed _ _ p

theorem target_of_draw (h : Drawing.draw s = .ok out) (hr : r ∈ s.racks) {d : Device}
    (hd : d ∈ r.devices) {href : String} (hhref : d.href = some href) (hne : href ≠ "") :
    ∃ a, Drawing.address s.base href = .ok a ∧ Plan.target s.base d = Entity.kept a := by
  obtain ⟨n, hn, _⟩ := map_eq_ok.1 h
  obtain ⟨ns, hns⟩ := rack_of_document hn hr
  exact target_of_rack hns hd hhref hne

end Drawn

/-! ## Addresses with a scheme -/

section Addresses

variable {internal : List Char}

/-- Joining with a base of another scheme does not change an address. -/
theorem address_eq_of_schemed (hi : Schemed internal) {base : Option String}
    (hbase : ∀ b ∈ base, ownScheme b.toList ≠ ownScheme internal) {t a : List Char}
    (h : Drawing.address base (String.ofList (internal ++ t)) = .ok a) : a = internal ++ t := by
  cases base with
  | none =>
    rw [Drawing.address, String.toList_ofList] at h
    exact (Except.ok.inj h).symm
  | some b =>
    simp only [Drawing.address, String.toList_ofList] at h
    split at h
    · exact (Except.ok.inj h).symm
    · next hb =>
      obtain ⟨v, _, h⟩ := bind_eq_ok.1 h
      split at h
      · exact (Except.ok.inj h).symm
      · obtain ⟨hown, hscheme⟩ := hi.ownScheme_append t
        refine eq_of_resolve (by simpa using hb) ?_ (by rwa [hown]) ?_ h
        · exact List.ne_nil_of_mem (hi.mem_append t)
        · rw [hown]
          exact hbase b rfl

theorem kept_append_ne_nil (hi : Schemed internal) (t : List Char) :
    Entity.kept (internal ++ t) ≠ [] := by
  have hcolon : ':' ∈ Entity.kept (internal ++ t) :=
    List.mem_filter.2 ⟨hi.mem_append t, by decide⟩
  exact List.ne_nil_of_mem hcolon

end Addresses

/-! ## Linked devices -/

/-- What a reader finds in the group of a device with an address: its body in a link to what is left
of the address, and its name in another. -/
def ShowsLink (a : List Char) (d : Device) (group : Tree) : Prop :=
  group.elements = Plan.link (Entity.kept a) (onLines (Plan.body d)) ::
    if d.name.isEmpty then [] else [Plan.link (Entity.kept a) [Plan.name d]]

theorem Plan.device_of_ne_nil {target : List Char} (h : target ≠ []) (d : Device) :
    Plan.device target d = Plan.link target (onLines (Plan.body d)) ::
      if d.name.isEmpty then [] else [Plan.link target [Plan.name d]] := by
  have htarget : ¬target.isEmpty = true := by simpa using h
  simp only [Plan.device, if_neg htarget, List.singleton_append]

section Linked

variable {internal : List Char} {s t : RackSet} {out : String}

/-- The address of a note under a base with a scheme is found around the body and the name of its
device, whatever the base of the set is, as long as it has not the same scheme. -/
theorem links_survive (hi : Schemed internal)
    (hbase : ∀ b ∈ s.base, ownScheme b.toList ≠ ownScheme internal)
    (hlink : Link.link (Link.resolver internal) s = .ok t) (hdraw : Drawing.draw t = .ok out) :
    ∀ i r, s.racks[i]? = some r →
      ∃ groups, deviceGroups? out i = some groups ∧
        List.Forall₂ (fun d group => ∀ href target, d.href = some href → href ≠ "" →
          Link.resolver internal href.toList = .ok (internal ++ Percent.encode target) →
          Link.noteReference? d.name.toList = none →
          ShowsLink (internal ++ Percent.encode target) d group) r.devices.reverse groups := by
  intro i r hr
  obtain ⟨_, rfl⟩ := Link.link_eq_ok_iff.1 hlink
  have hrack : (s.mapDevices (Link.linked (Link.resolver internal))).racks[i]? =
      some (r.mapDevices (Link.linked (Link.resolver internal))) := by
    rw [RackSet.mapDevices, List.getElem?_map, hr, Option.map_some]
  obtain ⟨groups, hgroups, hdrawn⟩ := forall₂_deviceGroups hdraw hrack
  refine ⟨groups, hgroups, ?_⟩
  rw [Rack.mapDevices, ← List.map_reverse, List.forall₂_map_left_iff] at hdrawn
  have hmem : ∀ d ∈ r.devices.reverse, d ∈ r.devices := fun d => List.mem_reverse.1
  refine ((List.forall₂_and_left _ _).2 ⟨hmem, hdrawn⟩).imp ?_
  intro d group h href target hhref hne haddress hfree
  obtain ⟨hd, hgroup⟩ := h
  have hlinked : Link.linked (Link.resolver internal) d =
      { d with href := some (String.ofList (internal ++ Percent.encode target)) } := by
    rw [Link.linked, Link.linkDevice_of_address hhref hne hfree haddress]
  have hmem' := List.mem_map_of_mem (f := Link.linked (Link.resolver internal)) hd
  rw [hlinked] at hgroup hmem'
  have hne' : String.ofList (internal ++ Percent.encode target) ≠ "" :=
    Link.ofList_ne_empty (List.ne_nil_of_mem (hi.mem_append _))
  obtain ⟨a, ha, htarget⟩ := target_of_draw hdraw (List.mem_of_getElem? hrack) hmem' rfl hne'
  rw [address_eq_of_schemed hi hbase ha] at htarget
  rw [htarget, Plan.device_of_ne_nil (kept_append_ne_nil hi _)] at hgroup
  exact hgroup

/-- A rack with a device that is linked, in a set with a base of its own. -/
def noticeBoard (href : String) : RackSet :=
  { base := some "http://h/a"
    racks := [{ height := 1, devices := [{ kind := "server", name := "w", href := some href }] }] }

theorem links_survive_noticeBoard :
    Link.link (Link.resolver "notes:".toList) (noticeBoard "[[Web 1]]") =
      .ok (noticeBoard "notes:Web%201") ∧
    ∃ out group, Drawing.draw (noticeBoard "notes:Web%201") = .ok out ∧
      deviceGroups? out 0 = some [group] ∧
      ∀ d ∈ (noticeBoard "[[Web 1]]").devices, ShowsLink "notes:Web%201".toList d group := by
  have hi : Schemed "notes:".toList := ⟨"notes".toList, [], by decide, by decide⟩
  have hbase : ∀ b ∈ some "http://h/a", ownScheme b.toList ≠ ownScheme "notes:".toList := by
    intro b hb
    cases hb
    decide +kernel
  have hlink : Link.link (Link.resolver "notes:".toList) (noticeBoard "[[Web 1]]") =
      .ok (noticeBoard "notes:Web%201") := by decide +kernel
  obtain ⟨out, hdraw⟩ : Succeeds (Drawing.draw (noticeBoard "notes:Web%201")) :=
    succeeds_of_isOk (by decide +kernel)
  obtain ⟨groups, hgroups, hshown⟩ := links_survive hi hbase hlink hdraw 0 _ rfl
  obtain ⟨group, _, hgroup, hnil, rfl⟩ := List.forall₂_cons_left_iff.1 hshown
  obtain rfl := List.forall₂_nil_left_iff.1 hnil
  refine ⟨hlink, out, group, hdraw, hgroups, ?_⟩
  intro d hd
  obtain rfl := List.mem_singleton.1 hd
  exact hgroup "[[Web 1]]" "Web 1".toList rfl (by decide) (by decide +kernel) (by decide)

end Linked

end RackElevation
