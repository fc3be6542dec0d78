import RackElevation.Rack
import RackElevation.Uri.Parts
import RackElevation.Uri.Percent

/-
  Links

  A device may be linked, and its name may hold a note reference `[[target]]`.
  A resolver gives the address of a link: one that already has a scheme stays as
  it is, any other is a note whose percent-encoded target follows a base.
  Resolving the links of a rack set gives each device the address of its own
  link, or of the first note reference in its name, whose brackets then go.

  What is proved:
    1. `noteReference?_split` — a note reference found in a name is a part of
       the name.
    2. `upToFault_ok` — where no step fails, each element is changed alone.
-/

namespace RackElevation

open Text

/-- Gives the address of a link. -/
abbrev Resolver := List Char → Except Uri.Fault (List Char)

namespace Link

/-- A text around a note reference. -/
structure NoteReference where
  before : List Char
  target : List Char
  after : List Char
  deriving DecidableEq, Repr

/-- The note reference that a text starts with. -/
def noteAtStart? (s : List Char) : Option (List Char × List Char) :=
  match s with
  | '[' :: '[' :: r =>
    match r.takeWhile (· != ']'), r.dropWhile (· != ']') with
    | c :: target, ']' :: ']' :: after => some (c :: target, after)
    | _, _ => none
  | _ => none

/-- The first note reference in a text. -/
def noteReference? : List Char → Option NoteReference
  | [] => none
  | c :: r =>
    match noteAtStart? (c :: r) with
    | some (target, after) => some ⟨[], target, after⟩
    | none => (noteReference? r).map fun n => { n with before := c :: n.before }

/-- The target of a text that is a note reference as a whole. -/
def wholeNote? (s : List Char) : Option (List Char) :=
  match noteAtStart? s with
  | some (target, []) => some target
  | _ => none

/-- The resolver for notes under a base. -/
def resolver (base : List Char) : Resolver := fun link =>
  match wholeNote? link with
  | some target => .ok (base ++ Percent.encode target)
  | none => do
    let scheme ← Uri.scheme link
    return if scheme.isEmpty then base ++ Percent.encode link else link

/-- The address of a text that is not empty. -/
def resolveText (f : Resolver) (link : String) : Except Uri.Fault String :=
  if link.isEmpty then .ok link else (f link.toList).map String.ofList

/-- A device as far as its links can be resolved, and the fault that ends the work, if any. -/
def linkDevice (f : Resolver) (d : Device) : Device × Option Uri.Fault :=
  match d.href.mapM (resolveText f) with
  | .error e => (d, some e)
  | .ok href =>
    let d := { d with href := href }
    match noteReference? d.name.toList with
    | none => (d, none)
    | some n =>
      let d := { d with name := String.ofList (n.before ++ n.target ++ n.after) }
      match f n.target with
      | .error e => (d, some e)
      | .ok address => ({ d with href := some (String.ofList address) }, none)

/-- Applies a step to each element in turn, up to and including the first that has a fault. -/
def upToFault {α ε : Type} (step : α → α × Option ε) : List α → List α × Option ε
  | [] => ([], none)
  | a :: r =>
    match step a with
    | (b, some e) => (b :: r, some e)
    | (b, none) =>
      let (bs, e) := upToFault step r
      (b :: bs, e)

/-- A rack with the links of its devices resolved. -/
def linkRack (f : Resolver) (r : Rack) : Rack × Option Uri.Fault :=
  let (devices, e) := upToFault (linkDevice f) r.devices
  ({ r with devices := devices }, e)

/-- A rack set with its links resolved as far as the first fault, and that fault. -/
def linkSet (f : Resolver) (s : RackSet) : RackSet × Option Uri.Fault :=
  let (racks, e) := upToFault (linkRack f) s.racks
  ({ s with racks := racks }, e)

/-- A rack set with all its links resolved. -/
def link (f : Resolver) (s : RackSet) : Except Uri.Fault RackSet :=
  match linkSet f s with
  | (s, none) => .ok s
  | (_, some e) => .error e

theorem noteAtStart?_split {s target after : List Char} (h : noteAtStart? s = some (target, after)) :
    s = '[' :: '[' :: (target ++ ']' :: ']' :: after) := by
  unfold noteAtStart? at h
  split at h
  · next r =>
    split at h
    · next c t a ht ha =>
      simp only [Option.some.injEq, Prod.mk.injEq] at h
      have := List.takeWhile_append_dropWhile (p := (· != ']')) (l := r)
      rw [ht, ha] at this
      rw [← h.1, ← h.2, ← this]
    · simp at h
  · simp at h

theorem noteReference?_split {s : List Char} {n : NoteReference} (h : noteReference? s = some n) :
    s = n.before ++ '[' :: '[' :: (n.target ++ ']' :: ']' :: n.after) := by
  induction s generalizing n with
  | nil => simp [noteReference?] at h
  | cons c r ih =>
    unfold noteReference? at h
    split at h
    · next target after hs =>
      simp only [Option.some.injEq] at h
      subst h
      exact noteAtStart?_split hs
    · simp only [Option.map_eq_some_iff] at h
      obtain ⟨m, hm, rfl⟩ := h
      rw [List.cons_append, ← ih hm]

theorem upToFault_ok {α ε : Type} {step : α → α × Option ε} {l : List α}
    (h : ∀ a ∈ l, (step a).2 = none) : upToFault step l = (l.map fun a => (step a).1, none) := by
  induction l with
  | nil => rfl
  | cons a r ih =>
    have ha := h a (by simp)
    have hr := ih fun b hb => h b (by simp [hb])
    unfold upToFault
    rcases hs : step a with ⟨b, o⟩
    rw [hs] at ha
    simp only at ha
    subst ha
    simp [hr, hs]

end Link

end RackElevation
