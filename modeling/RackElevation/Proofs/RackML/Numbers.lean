import Mathlib.Data.List.Forall2
import RackElevation.Proofs.RackML.Fields

/-
  Which numbers of a tree count

  A tree has the numbers of its racks and of the elements in them. If none of
  them is below one, the tree is read, and each rack and each device has its own
  numbers, or what stands in for a number that is not there. If one is, the tree
  is refused for the first of them. All else that a tree may hold can be pruned:
  gaps, the elements inside a device, and the elements beside the racks.

  What is proved:
    1. `Field.gives_of_read`, `Field.read_of_low` — what becomes of one number.
    2. `numbers_of_rackChildren`, `numbers_of_rootChildren` — the numbers of what
       is read.
    3. `decode_pruned` — pruning a tree changes nothing.
    4. `decode_of_first_low`, `succeeds_decode` — what becomes of a tree.
    5. `decode_numbers` — when a tree is refused, for which number, and otherwise
       which numbers it has.
-/

namespace RackElevation.RackML

open Text Xml Outcome
open Numeral (Integer Leading)

/-! ## One number -/

namespace Field

variable {f : Field}

/-- The integer is below one. -/
def Low (f : Field) : Prop := ∃ digits n, f.Holds digits n ∧ n < 1

/-- What the attribute gives: the integer it starts with, or nothing. -/
inductive Gives (f : Field) : Option Int → Prop
  | integer {digits : List Char} {n : Int} (h : f.Holds digits n) : Gives f (some n)
  | absent (h : ¬∃ digits n, f.Holds digits n) : Gives f none

theorem gives_of_read {r : Option Int} (h : f.read = .ok r) : f.Gives r := by
  by_cases hholds : ∃ digits n, f.Holds digits n
  · obtain ⟨digits, n, value, hvalue, hleading⟩ := hholds
    rw [read, integer?_of_leading hvalue hleading] at h
    split at h
    · cases h
    split at h
    · cases h
    · cases h
      exact .integer ⟨value, hvalue, hleading⟩
  · rw [read_of_not_holds hholds] at h
    cases h
    exact .absent hholds

theorem read_of_low {value digits : List Char} {n : Int} (hshort : ¬f.TooLong)
    (hvalue : attributeValue? f.key f.attributes = some value) (h : Leading value digits n)
    (hlow : n < 1) : f.read = .error (.tooLow f.key f.element.base value) := by
  have hdigits : ¬Numeral.maxDigits < digits.length :=
    fun hlong => hshort ⟨digits, n, ⟨value, hvalue, h⟩, hlong⟩
  rw [read, integer?_of_leading hvalue h, if_neg hdigits, if_pos hlow]

theorem readable_iff (hshort : ¬f.TooLong) : f.Readable ↔ ¬f.Low := by
  constructor
  · intro h hlow
    obtain ⟨digits, n, hholds, hn⟩ := hlow
    have := (h digits n hholds).2
    omega
  · intro h digits n hholds
    exact ⟨Nat.not_lt.1 fun hlong => hshort ⟨digits, n, hholds, hlong⟩,
      Int.not_lt.1 fun hn => h ⟨digits, n, hholds, hn⟩⟩

theorem not_low_of_read (hshort : ¬f.TooLong) (h : Succeeds f.read) : ¬f.Low :=
  (readable_iff hshort).1 (failure?_read_eq_none.1 (failure?_eq_none.2 h))

/-- The digits of an integer are no more than the characters of the value. -/
theorem not_tooLong_of_length
    (h : ∀ value ∈ attributeValue? f.key f.attributes, value.length ≤ Numeral.maxDigits) :
    ¬f.TooLong := by
  intro hlong
  obtain ⟨digits, n, ⟨value, hvalue, blanks, number, rest, rfl, _, hint, _⟩, hlong⟩ := hlong
  have hvalue := h _ hvalue
  have hdigits := hint.suffix.length_le
  simp only [List.length_append] at hvalue
  omega

end Field

/-! ## The numbers of what is read -/

/-- Whether a node of a rack is a device. -/
def isDevice : Node → Bool
  | .text _ => false
  | .element name _ _ => name.base != "gap".toList

/-- Whether a node of the root is a rack. -/
def isRack : Node → Bool
  | .text _ => false
  | .element name _ _ => name.base == "rack".toList

/-- A device has the numbers of its element; without a height it is one unit high. -/
inductive DeviceNumbers : Node → Device → Prop
  | element (name : Name) (attributes : List Attribute) (content : List Node) {d : Device}
      {height position : Option Int} (hheight : Field.Gives ⟨"height", name, attributes⟩ height)
      (hposition : Field.Gives ⟨"at", name, attributes⟩ position) (hd : d.height = height.getD 1)
      (hp : d.position = position) : DeviceNumbers (.element name attributes content) d

/-- A rack has the height of its element, 42 without one, and the devices in it have theirs. -/
inductive RackNumbers : Node → Rack → Prop
  | element (name : Name) (attributes : List Attribute) (content : List Node) {r : Rack}
      {height : Option Int} (hheight : Field.Gives ⟨"height", name, attributes⟩ height)
      (hr : r.height = height.getD 42)
      (hdevices : List.Forall₂ DeviceNumbers (content.filter isDevice) r.devices) :
      RackNumbers (.element name attributes content) r

theorem numbers_of_device {name : Name} {attributes : List Attribute} {content : List Node}
    {d : Device} (h : device name attributes content = .ok d) :
    DeviceNumbers (.element name attributes content) d := by
  obtain ⟨height, hheight, h⟩ := bind_eq_ok.1 h
  obtain ⟨position, hposition, h⟩ := bind_eq_ok.1 h
  cases h
  exact .element name attributes content (Field.gives_of_read hheight)
    (Field.gives_of_read hposition) rfl rfl

theorem numbers_of_rackChildren {content : List Node} {devices : List Device}
    (h : rackChildren content = .ok devices) :
    List.Forall₂ DeviceNumbers (content.filter isDevice) devices := by
  induction content generalizing devices with
  | nil =>
    cases h
    exact .nil
  | cons node rest ih =>
    cases node with
    | text s => exact ih h
    | element name attributes inner =>
      unfold rackChildren at h
      split at h
      case isTrue hgap =>
        rw [List.filter_cons_of_neg (by simp [isDevice, hgap])]
        exact ih h
      case isFalse hgap =>
        obtain ⟨d, hd, h⟩ := bind_eq_ok.1 h
        obtain ⟨ds, hds, h⟩ := bind_eq_ok.1 h
        cases h
        rw [List.filter_cons_of_pos (by simpa [isDevice] using hgap)]
        exact .cons (numbers_of_device hd) (ih hds)

theorem numbers_of_rack {name : Name} {attributes : List Attribute} {content : List Node} {r : Rack}
    (h : rack name attributes content = .ok r) : RackNumbers (.element name attributes content) r := by
  obtain ⟨height, hheight, h⟩ := bind_eq_ok.1 h
  obtain ⟨devices, hdevices, h⟩ := bind_eq_ok.1 h
  cases h
  exact .element name attributes content (Field.gives_of_read hheight) rfl
    (numbers_of_rackChildren hdevices)

theorem numbers_of_rootChildren {content : List Node} {racks : List Rack}
    (h : rootChildren content = .ok racks) :
    List.Forall₂ RackNumbers (content.filter isRack) racks := by
  induction content generalizing racks with
  | nil =>
    cases h
    exact .nil
  | cons node rest ih =>
    cases node with
    | text s => exact ih h
    | element name attributes inner =>
      unfold rootChildren at h
      split at h
      case isTrue hrack =>
        obtain ⟨r, hr, h⟩ := bind_eq_ok.1 h
        obtain ⟨rs, hrs, h⟩ := bind_eq_ok.1 h
        cases h
        rw [List.filter_cons_of_pos (by simpa [isRack] using hrack)]
        exact .cons (numbers_of_rack hr) (ih hrs)
      case isFalse hrack =>
        rw [List.filter_cons_of_neg (by simpa [isRack] using hrack)]
        exact ih h

/-! ## Pruning -/

/-- A device without the elements in it, only with their text. -/
def prunedDevice : Node → Node
  | .text s => .text s
  | .element name attributes content => .element name attributes [.text (allText content)]

/-- A rack with its devices only. -/
def prunedRack : Node → Node
  | .text s => .text s
  | .element name attributes content =>
    .element name attributes ((content.filter isDevice).map prunedDevice)

/-- A root with its racks only. -/
def pruned : Node → Node
  | .text s => .text s
  | .element name attributes content =>
    .element name attributes ((content.filter isRack).map prunedRack)

theorem device_pruned (name : Name) (attributes : List Attribute) (content : List Node) :
    device name attributes [.text (allText content)] = device name attributes content := by
  have htext : allText [.text (allText content)] = allText content := by
    rw [allText, allText, Node.allText, List.append_nil]
  rw [device, device, htext]

theorem rackChildren_pruned (content : List Node) :
    rackChildren ((content.filter isDevice).map prunedDevice) = rackChildren content := by
  induction content with
  | nil => rfl
  | cons node rest ih =>
    cases node with
    | text s => exact ih
    | element name attributes inner =>
      by_cases hgap : name.base = "gap".toList
      · rw [List.filter_cons_of_neg (by simp [isDevice, hgap]), ih, rackChildren, if_pos hgap]
      · rw [List.filter_cons_of_pos (by simpa [isDevice] using hgap), List.map_cons, prunedDevice,
          rackChildren, rackChildren, if_neg hgap, if_neg hgap, device_pruned, ih]

theorem rootChildren_pruned (content : List Node) :
    rootChildren ((content.filter isRack).map prunedRack) = rootChildren content := by
  induction content with
  | nil => rfl
  | cons node rest ih =>
    cases node with
    | text s => exact ih
    | element name attributes inner =>
      by_cases hrack : name.base = "rack".toList
      · rw [List.filter_cons_of_pos (by simpa [isRack] using hrack), List.map_cons, prunedRack,
          rootChildren, rootChildren, if_pos hrack, if_pos hrack, rack, rack, rackChildren_pruned, ih]
      · rw [List.filter_cons_of_neg (by simpa [isRack] using hrack), ih, rootChildren, if_neg hrack]

theorem decode_pruned (node : Node) : decode (pruned node) = decode node := by
  cases node with
  | text s => rfl
  | element name attributes content => rw [pruned, decode, decode, rootChildren_pruned]

/-! ## Trees -/

/-- What is reported for an integer below one. -/
def Field.report (f : Field) (value : List Char) : Diagnostic :=
  ⟨f.key ++ " must be at least 1 on <" ++ String.ofList f.element.base ++ ">, got " ++
    String.ofList (quote value), none⟩

/-- Among the numbers below one there is a first. -/
theorem exists_first_low {fields : List Field} (h : ∃ f ∈ fields, f.Low) :
    ∃ before f after, fields = before ++ f :: after ∧ (∀ g ∈ before, ¬g.Low) ∧ f.Low := by
  classical
  obtain ⟨f, hfind⟩ := Option.isSome_iff_exists.1
    (List.find?_isSome (p := fun f : Field => decide f.Low) |>.2
      (h.imp fun f hf => ⟨hf.1, decide_eq_true hf.2⟩))
  obtain ⟨hlow, before, after, hfields, hbefore⟩ := List.find?_eq_some_iff_append.1 hfind
  exact ⟨before, f, after, hfields, fun g hg => by simpa using hbefore g hg, of_decide_eq_true hlow⟩

section Tree

variable {name : Name} {attributes : List Attribute} {content : List Node}
  (hroot : name.base = "racks".toList) (hshort : ∀ f ∈ rootFields content, ¬f.TooLong)

include hroot hshort

/-- A tree is refused for the first number below one. -/
theorem decode_of_first_low {before after : List Field} {f : Field}
    (hfields : rootFields content = before ++ f :: after) (hbefore : ∀ g ∈ before, ¬g.Low)
    (hlow : f.Low) : ∃ e value, decode (.element name attributes content) = .error e ∧
      attributeValue? f.key f.attributes = some value ∧ e.diagnostic? = some (f.report value) := by
  obtain ⟨digits, n, ⟨value, hvalue, hleading⟩, hn⟩ := hlow
  rw [hfields, List.forall_mem_append, List.forall_mem_cons] at hshort
  obtain ⟨hshortBefore, hshortField, _⟩ := hshort
  have hread := Field.read_of_low hshortField hvalue hleading hn
  refine ⟨.tooLow f.key f.element.base value, value, ?_, hvalue, rfl⟩
  rw [← failure?_eq_some, failure?_decode hroot, hfields, firstFailure, List.findSome?_eq_some_iff]
  refine ⟨before, f, after, rfl, failure?_eq_some.2 hread, ?_⟩
  intro g hg
  exact Field.failure?_read_eq_none.2 ((Field.readable_iff (hshortBefore g hg)).2 (hbefore g hg))

theorem succeeds_decode (hlow : ∀ f ∈ rootFields content, ¬f.Low) :
    Succeeds (decode (.element name attributes content)) := by
  rw [← failure?_eq_none, failure?_decode hroot, firstFailure, List.findSome?_eq_none_iff]
  intro f hf
  exact Field.failure?_read_eq_none.2 ((Field.readable_iff (hshort f hf)).2 (hlow f hf))

end Tree

/-- A tree of racks whose numbers are short enough to be read is refused exactly if one of them is
below one, and then for the first of these, with its element and its value; if none is, it is read,
and has the numbers of its racks and devices. What it may hold besides makes no difference. -/
theorem decode_numbers {name : Name} {attributes : List Attribute} {content : List Node}
    (hroot : name.base = "racks".toList) (hshort : ∀ f ∈ rootFields content, ¬f.TooLong) :
    ((∃ e report, decode (.element name attributes content) = .error e ∧
        e.diagnostic? = some report) ↔ ∃ f ∈ rootFields content, f.Low) ∧
    (∀ before f after, rootFields content = before ++ f :: after → (∀ g ∈ before, ¬g.Low) → f.Low →
      ∃ e value, decode (.element name attributes content) = .error e ∧
        attributeValue? f.key f.attributes = some value ∧ e.diagnostic? = some (f.report value)) ∧
    ((∀ f ∈ rootFields content, ¬f.Low) →
      ∃ s, decode (.element name attributes content) = .ok s ∧
        List.Forall₂ RackNumbers (content.filter isRack) s.racks) ∧
    decode (pruned (.element name attributes content)) =
      decode (.element name attributes content) := by
  refine ⟨⟨?_, ?_⟩, fun _ _ _ => decode_of_first_low hroot hshort, ?_, decode_pruned _⟩
  · intro h
    obtain ⟨e, _, herror, _⟩ := h
    by_contra hnone
    obtain ⟨s, hs⟩ := @succeeds_decode name attributes content hroot hshort
      fun f hf hlow => hnone ⟨f, hf, hlow⟩
    rw [herror] at hs
    cases hs
  · intro h
    obtain ⟨before, f, after, hfields, hbefore, hlow⟩ := exists_first_low h
    obtain ⟨e, value, herror, _, hreport⟩ := decode_of_first_low hroot hshort hfields hbefore hlow
    exact ⟨e, _, herror, hreport⟩
  · intro hlow
    obtain ⟨s, hs⟩ := succeeds_decode hroot hshort hlow
    refine ⟨s, hs, ?_⟩
    rw [decode, if_pos hroot] at hs
    obtain ⟨racks, hracks, hs⟩ := bind_eq_ok.1 hs
    cases hs
    exact numbers_of_rootChildren hracks

/-- An attribute in no namespace. -/
def numbered (key value : String) : Attribute := ⟨⟨[], key.toList⟩, value.toList⟩

/-- A rack with a gap and a device in it and a note beside it; the gap, the element in the device
and the note all have heights of zero. -/
def crowded (place : String) : List Node :=
  [.element ⟨[], "rack".toList⟩ [numbered "height" " +٤U"]
    [.element ⟨[], "gap".toList⟩ [numbered "height" "0"] [],
     .element ⟨[], "server".toList⟩ [numbered "at" place, numbered "height" "tall"]
      [.element ⟨[], "rack".toList⟩ [numbered "height" "0"] []]],
   .element ⟨[], "note".toList⟩ [numbered "height" "0"] []]

theorem decode_numbers_crowded :
    (∀ f ∈ rootFields (crowded "-1x"), ¬f.TooLong) ∧
    (∃ e, decode (.element ⟨[], "racks".toList⟩ [] (crowded "-1x")) = .error e ∧
      e.diagnostic? = some ⟨"at must be at least 1 on <server>, got '-1x'", none⟩) ∧
    (∀ f ∈ rootFields (crowded "3"), ¬f.TooLong ∧ ¬f.Low) ∧
    ∃ s, decode (.element ⟨[], "racks".toList⟩ [] (crowded "3")) = .ok s ∧
      List.Forall₂ RackNumbers ((crowded "3").filter isRack) s.racks ∧
      s.racks.map (fun r => (r.height, r.devices.map fun d => (d.height, d.position))) =
        [(4, [(1, some 3)])] := by
  have hlow : ∀ f ∈ rootFields (crowded "-1x"), ¬f.TooLong := fun f hf =>
    Field.not_tooLong_of_length ((by decide +kernel : ∀ f ∈ rootFields (crowded "-1x"),
      ∀ value ∈ attributeValue? f.key f.attributes, value.length ≤ Numeral.maxDigits) f hf)
  have hhigh : ∀ f ∈ rootFields (crowded "3"), ¬f.TooLong := fun f hf =>
    Field.not_tooLong_of_length ((by decide +kernel : ∀ f ∈ rootFields (crowded "3"),
      ∀ value ∈ attributeValue? f.key f.attributes, value.length ≤ Numeral.maxDigits) f hf)
  have hnone : ∀ f ∈ rootFields (crowded "3"), ¬f.Low := by
    intro f hf
    apply Field.not_low_of_read (hhigh f hf)
    apply succeeds_of_isOk
    revert f
    decide +kernel
  obtain ⟨_, hrefused, _, _⟩ :=
    @decode_numbers ⟨[], "racks".toList⟩ [] _ rfl hlow
  obtain ⟨_, _, hread, _⟩ :=
    @decode_numbers ⟨[], "racks".toList⟩ [] _ rfl hhigh
  refine ⟨hlow, ?_, fun f hf => ⟨hhigh f hf, hnone f hf⟩, ?_⟩
  · -- the heights before it can be read, and the position holds minus one
    obtain ⟨e, value, herror, hvalue, hreport⟩ := hrefused [_, _] _ [] rfl (by
      intro f hf
      apply Field.not_low_of_read (hlow f (List.mem_append_left [_] hf))
      apply succeeds_of_isOk
      revert f
      decide +kernel) ⟨['1'], -1, ⟨"-1x".toList, rfl, [], ['-', '1'], ['x'], rfl, blanks_nil,
        .minus ⟨List.cons_ne_nil _ _, List.forall_mem_singleton.2 (by decide)⟩,
        fun c hc => by cases hc; decide⟩, by decide⟩
    refine ⟨e, herror, ?_⟩
    cases hvalue
    rw [hreport]
    decide +kernel
  · obtain ⟨s, hs, hnumbers⟩ := hread hnone
    refine ⟨s, hs, hnumbers, ?_⟩
    have hrun : (decode (.element ⟨[], "racks".toList⟩ [] (crowded "3"))).map (fun s =>
        s.racks.map (fun r => (r.height, r.devices.map fun d => (d.height, d.position)))) =
          .ok [(4, [(1, some 3)])] := by
      decide +kernel
    rw [hs] at hrun
    exact Except.ok.inj hrun

end RackElevation.RackML
