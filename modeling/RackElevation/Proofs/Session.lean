import RackElevation.Proofs.Data.Acceptance
import RackElevation.Proofs.Layout
import RackElevation.Proofs.Link.Frame
import RackElevation.Proofs.Source
import RackElevation.Session

/-
  What a session keeps

  Every way to change the rack set of a session but one goes through a check: a
  source that is read and data that is loaded or added keep all bounds, and
  resolving links changes nothing that has a bound. Only an assignment is not
  checked. So without assignments the rack set keeps its bounds after every
  step, whether the step succeeds or not.

  What is proved:
    1. `change_valid`, `step_valid` — a step that is no assignment keeps the
       bounds.
    2. `step_error` — a step that fails leaves the rack set as it was, except
       that links resolved before the fault stay resolved.
    3. `sound_run` — the same for a whole session.
-/

namespace RackElevation.Session

open Data Outcome

/-- Whether a step replaces a field without a check. -/
def Step.assigns : Step → Bool
  | .assign .. => true
  | _ => false

/-- Whether a step resolves links. -/
def Step.links : Step → Bool
  | .link _ => true
  | _ => false

/-- A rack set as it should be: within its bounds, read back from its dump as it is, and with every
device upright in its rack. -/
structure Sound (s : RackSet) : Prop where
  valid : s.Valid
  check_dump : RackSet.check s.toValue = .accepted s
  upright : ∀ r ∈ s.racks, ∀ p ∈ r.layout, p.Upright

theorem sound_of_valid {s : RackSet} (h : s.Valid) : Sound s :=
  ⟨h, RackSet.check_toValue h, fun r hr => Rack.layout_upright (h r hr)⟩

/-! ## One step -/

variable {s s' : RackSet} {t : Step}

theorem checked_eq_ok {α : Type} {c : Checked α} {a : α} :
    checked c = .ok a ↔ c = .accepted a := by
  rw [checked, mapError_eq_ok]
  cases c <;> simp [Checked.toExcept]

/-- What all elements of a list have, they have after one was replaced by another that has it. -/
theorem forall_of_modifyAt {α β : Type} {P : α → Prop} {l m : List α} {i : Int}
    {f : α → Except Failure (α × β)} {b : β} (h : modifyAt l i f = .ok (m, b)) (hl : ∀ a ∈ l, P a)
    (hf : ∀ a a' b, P a → f a = .ok (a', b) → P a') : ∀ a ∈ m, P a := by
  unfold modifyAt at h
  split at h
  · cases h
  · next k a hplace =>
    obtain ⟨⟨a', _⟩, ha', heq⟩ := map_eq_ok.1 h
    cases heq
    obtain ⟨k, _, hget⟩ := Option.bind_eq_some_iff.1 hplace
    obtain ⟨a, hget, hpair⟩ := Option.map_eq_some_iff.1 hget
    cases hpair
    have hold : P a := hl a (List.mem_of_getElem? hget)
    intro x hx
    rcases List.mem_or_eq_of_mem_set hx with hmem | rfl
    · exact hl x hmem
    · exact hf a x b hold ha'

theorem addDevice_valid {data : Value} {r r' : Rack} {a : Answer} (hr : r.Valid)
    (h : addDevice data r = .ok (r', a)) : r'.Valid := by
  obtain ⟨d, hd, hok⟩ := bind_eq_ok.1 h
  cases hok
  have hdevice : d.Valid := Device.valid_of_check (checked_eq_ok.1 hd)
  refine ⟨hr.1, ?_⟩
  exact List.forall_mem_append.2 ⟨hr.2, List.forall_mem_singleton.2 hdevice⟩

theorem change_valid {a : Answer} (ht : t.assigns = false) (hs : s.Valid)
    (h : change t s = .ok (s', a)) : s'.Valid := by
  cases t with
  | parse dialect text =>
    obtain ⟨u, hu, hok⟩ := bind_eq_ok.1 h
    cases hok
    exact Source.parse_valid (mapError_eq_ok.1 hu)
  | load data =>
    obtain ⟨u, hu, hok⟩ := bind_eq_ok.1 h
    cases hok
    exact RackSet.valid_of_check (checked_eq_ok.1 hu)
  | addRack data =>
    obtain ⟨r, hr, hok⟩ := bind_eq_ok.1 h
    cases hok
    have hrack : r.Valid := Rack.valid_of_check (checked_eq_ok.1 hr)
    exact List.forall_mem_append.2 ⟨hs, List.forall_mem_singleton.2 hrack⟩
  | addDevice i data =>
    obtain ⟨⟨racks, b⟩, hracks, hok⟩ := map_eq_ok.1 h
    cases hok
    exact forall_of_modifyAt hracks hs fun _ _ _ => addDevice_valid
  | assign target field v => cases ht
  | link base =>
    obtain ⟨u, hu, hok⟩ := bind_eq_ok.1 h
    cases hok
    rw [Link.eq_linkSet_of_link (mapError_eq_ok.1 hu)]
    exact (Link.linkSet_frame s).valid hs

theorem step_error {e : Failure} (h : (step t s).2 = .error e) :
    (t.links = false → (step t s).1 = s) ∧ s.SameFrame (step t s).1 := by
  have hrefl : s.SameFrame s := ⟨rfl, rfl, List.forall₂_same.2 fun r _ => Rack.SameFrame.refl r⟩
  unfold step at h ⊢
  split at h
  · cases h
  · cases t with
    | link base => exact ⟨(fun h => nomatch h), Link.linkSet_frame s⟩
    | _ => exact ⟨fun _ => rfl, hrefl⟩

theorem step_valid (ht : t.assigns = false) (hs : s.Valid) : (step t s).1.Valid := by
  cases hstep : (step t s).2 with
  | error e => exact (step_error hstep).2.valid hs
  | ok a =>
    unfold step at hstep ⊢
    split at hstep
    · next hchange => exact change_valid ht hs hchange
    · cases t <;> cases hstep

/-! ## A whole session -/

theorem run_concat (before : List Step) (t : Step) (s : RackSet) :
    run (before ++ [t]) s = (step t (run before s)).1 := by
  rw [run, List.foldl_append]
  rfl

theorem run_valid {steps : List Step} (hsteps : ∀ t ∈ steps, t.assigns = false) (hs : s.Valid) :
    (run steps s).Valid := by
  induction steps generalizing s with
  | nil => exact hs
  | cons t rest ih =>
    obtain ⟨ht, hrest⟩ := List.forall_mem_cons.1 hsteps
    exact ih hrest (step_valid ht hs)

/-- After every step of a session without assignments the rack set is sound, and a step that fails
changes nothing but the names and links that were resolved before the fault. -/
theorem sound_run {steps : List Step} (hsteps : ∀ t ∈ steps, t.assigns = false) :
    (∀ before, before <+: steps → Sound (run before {})) ∧
      ∀ before t e, before ++ [t] <+: steps → (step t (run before {})).2 = .error e →
        (t.links = false → run (before ++ [t]) {} = run before {}) ∧
          (run before {}).SameFrame (run (before ++ [t]) {}) := by
  constructor
  · intro before hbefore
    have hchecked : ∀ t ∈ before, t.assigns = false := fun t ht => hsteps t (hbefore.subset ht)
    exact sound_of_valid (run_valid hchecked RackSet.valid_empty)
  · intro before t e _ herror
    rw [run_concat]
    exact step_error herror

/-- Data of a rack with a device that is named by a note and another whose link cannot be read. -/
def unreadable : Value :=
  .record [(.text "racks", .list [.record [(.text "height", .int 4), (.text "devices", .list
    [.record [(.text "type", .text "ups"), (.text "name", .text "[[Cellar]]")],
     .record [(.text "type", .text "server"), (.text "href", .text "//[")]])]])]

/-- A session that loads data, fails to read a source, and resolves links up to a fault. -/
def eventful : List Step :=
  [.load unreadable, .parse "rack" "caption: a", .addDevice (-2) .null, .link "notes:"]

theorem sound_run_eventful : (∀ t ∈ eventful, t.assigns = false) ∧
    (step (.link "notes:") (run (eventful.take 3) {})).2 = .error (.uri .brackets) ∧
    run eventful {} ≠ run (eventful.take 3) {} ∧
    Sound (run eventful {}) ∧ (run (eventful.take 3) {}).SameFrame (run eventful {}) := by
  have hsteps : ∀ t ∈ eventful, t.assigns = false := by decide
  have herror : (step (.link "notes:") (run (eventful.take 3) {})).2 = .error (.uri .brackets) := by
    rfl
  refine ⟨hsteps, herror, by decide +kernel, ?_, ?_⟩
  · exact (sound_run hsteps).1 eventful (List.prefix_refl eventful)
  · exact ((sound_run hsteps).2 (eventful.take 3) (.link "notes:") _ (List.prefix_refl eventful)
      herror).2

end RackElevation.Session
