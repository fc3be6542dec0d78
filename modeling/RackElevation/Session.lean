import RackElevation.Conversion
import RackElevation.Data.Dump
import RackElevation.Data.Schema

/-
  Editing sessions

  A rack set that grows and changes step by step. A step that fails says why;
  it leaves the rack set as it was, except that resolving links keeps what was
  done before the fault. Racks and devices are addressed by index, from the end
  if the index is negative. An assignment replaces one field and is not checked
  against the bounds.

  What is proved:
    1. `index?_lt` — an index that is found is one of the list.
-/

namespace RackElevation.Session

open Data

/-- The thing a field belongs to. -/
inductive Target
  | rackSet
  | rack (i : Int)
  | device (i j : Int)
  deriving DecidableEq, Repr

/-- One step of a session. -/
inductive Step
  | parse (dialect text : String)
  | load (data : Value)
  | addRack (data : Value)
  | addDevice (rack : Int) (data : Value)
  | assign (target : Target) (field : String) (value : Value)
  | link (base : String)

/-- Why a step fails. -/
inductive Failure
  | source (e : Source.Error)
  | invalid (issues : List Issue)
  | noSuchIndex
  | noSuchField (model field : String)
  /-- The value is of no form that the field can hold. -/
  | wrongForm
  | uri (fault : Uri.Fault)
  deriving DecidableEq, Repr

/-- What a step that succeeds answers. -/
inductive Answer
  | dump (v : Value)
  | count (n : Nat)
  | done

/-- The place in a list of `n` elements that an index means. -/
def index? (n : Nat) (i : Int) : Option Nat :=
  if 0 ≤ i then (if i < n then some i.toNat else none)
  else if 0 ≤ n + i then some (n + i).toNat else none

/-- Replaces the element at an index, with an answer. -/
def modifyAt {α β : Type} (l : List α) (i : Int) (f : α → Except Failure (α × β)) :
    Except Failure (List α × β) :=
  match (index? l.length i).bind fun k => l[k]?.map fun a => (k, a) with
  | none => .error .noSuchIndex
  | some (k, a) => (f a).map fun (a, b) => (l.set k a, b)

/-- The text or absent text that a value holds. -/
def optionalText : Value → Except Failure (Option String)
  | .null => .ok none
  | .text s => .ok (some s)
  | _ => .error .wrongForm

/-- The text that a value holds. -/
def plainText : Value → Except Failure String
  | .text s => .ok s
  | _ => .error .wrongForm

/-- The integer that a value holds. -/
def plainInt : Value → Except Failure Int
  | .int n => .ok n
  | _ => .error .wrongForm

/-- The integer or absent integer that a value holds. -/
def optionalInt : Value → Except Failure (Option Int)
  | .null => .ok none
  | v => some <$> plainInt v

/-- A device with one field replaced. -/
def assignDevice (field : String) (v : Value) (d : Device) : Except Failure Device :=
  match field with
  | "type" => do return { d with kind := ← plainText v }
  | "name" => do return { d with name := ← plainText v }
  | "height" => do return { d with height := ← plainInt v }
  | "href" => do return { d with href := ← optionalText v }
  | "color" => do return { d with color := ← optionalText v }
  | "position" => do return { d with position := ← optionalInt v }
  | "category" => do return { d with category := ← optionalText v }
  | _ => .error (.noSuchField "RackDevice" field)

/-- The elements of a list as a check accepts them. -/
def accepted {α : Type} (check : Value → Checked α) (v : Value) : Except Failure (List α) :=
  (listOf check v).toExcept.mapError fun _ => .wrongForm

/-- A rack with one field replaced. -/
def assignRack (field : String) (v : Value) (r : Rack) : Except Failure Rack :=
  match field with
  | "name" => do return { r with name := ← plainText v }
  | "height" => do return { r with height := ← plainInt v }
  | "devices" => do return { r with devices := ← accepted Device.check v }
  | _ => .error (.noSuchField "Rack" field)

/-- A rack set with one field replaced. -/
def assignSet (field : String) (v : Value) (s : RackSet) : Except Failure RackSet :=
  match field with
  | "base" => do return { s with base := ← optionalText v }
  | "id" => do return { s with id := ← optionalText v }
  | "racks" => do return { s with racks := ← accepted Rack.check v }
  | _ => .error (.noSuchField "RackSet" field)

/-- Replaces one rack of a rack set, with an answer. -/
def modifyRack {β : Type} (i : Int) (f : Rack → Except Failure (Rack × β)) (s : RackSet) :
    Except Failure (RackSet × β) :=
  (modifyAt s.racks i f).map fun (racks, b) => ({ s with racks := racks }, b)

/-- Replaces one field of a target; the answer is the target afterwards. -/
def assign (target : Target) (field : String) (v : Value) (s : RackSet) :
    Except Failure (RackSet × Answer) :=
  match target with
  | .rackSet => (assignSet field v s).map fun s => (s, .dump s.toValue)
  | .rack i => modifyRack i (fun r => (assignRack field v r).map fun r => (r, .dump r.toValue)) s
  | .device i j => modifyRack i (fun r =>
      (modifyAt r.devices j fun d => (assignDevice field v d).map fun d => (d, .dump d.toValue)).map
        fun (devices, b) => ({ r with devices := devices }, b)) s

/-- What a check accepts, or why it refuses. -/
def checked {α : Type} (c : Checked α) : Except Failure α := c.toExcept.mapError .invalid

/-- A rack with one device more. -/
def addDevice (data : Value) (r : Rack) : Except Failure (Rack × Answer) := do
  let d ← checked (Device.check data)
  return ({ r with devices := r.devices ++ [d] }, .count (r.devices.length + 1))

/-- A step that changes everything or nothing. -/
def change (step : Step) (s : RackSet) : Except Failure (RackSet × Answer) :=
  match step with
  | .parse dialect text => do
    let s ← (Source.parse dialect text).mapError .source
    return (s, .dump s.toValue)
  | .load data => do
    let s ← checked (RackSet.check data)
    return (s, .dump s.toValue)
  | .addRack data => do
    let r ← checked (Rack.check data)
    return ({ s with racks := s.racks ++ [r] }, .count (s.racks.length + 1))
  | .addDevice i data => modifyRack i (addDevice data) s
  | .assign target field v => assign target field v s
  | .link base => do
    let s ← (Link.link (Link.resolver base.toList) s).mapError .uri
    return (s, .done)

/-- One step: the rack set after it, and its answer. -/
def step (step : Step) (s : RackSet) : RackSet × Except Failure Answer :=
  match change step s with
  | .ok (s, answer) => (s, .ok answer)
  | .error e =>
    match step with
    | .link base => ((Link.linkSet (Link.resolver base.toList) s).1, .error e)
    | _ => (s, .error e)

/-- The rack set after a list of steps. -/
def run (steps : List Step) (s : RackSet) : RackSet := steps.foldl (fun s t => (step t s).1) s

theorem index?_lt {n k : Nat} {i : Int} (h : index? n i = some k) : k < n := by
  unfold index? at h
  split at h
  · split at h
    · simp only [Option.some.injEq] at h; omega
    · simp at h
  · split at h
    · simp only [Option.some.injEq] at h; omega
    · simp at h

end RackElevation.Session
