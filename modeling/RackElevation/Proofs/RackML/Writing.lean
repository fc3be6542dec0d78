import RackElevation.Proofs.Drawing.Look
import RackElevation.Proofs.RackML.Fields
import RackElevation.Proofs.RackText.Writing

/-
  Writing RackML

  A rack set is written as a tree: an element for each rack, in it one for each
  device, its kind as the tag and its name as the text. Numbers are written in
  decimal, and what a device or a set does not have is left out. A category has
  no place in the tree; apart from it, the tree is read as the set that was
  written, also if that set was read from rack-text.

  What is proved:
    1. `attributeValue?_written` — an attribute is found by its name.
    2. `device_written`, `rack_written`, `decode_encode` — what is written for a
       device, a rack and a set is read back.
    3. `decode_encode_agrees` — the two dialects agree.
-/

namespace RackElevation

/-- A device as it is written in a tree. -/
def Device.withoutCategory (d : Device) : Device := { d with category := none }

theorem Device.withoutCategory_eq_self {d : Device} (h : d.category = none) :
    d.withoutCategory = d := by
  rw [Device.withoutCategory, ← h]

namespace RackML

open Text Xml Outcome
open RackText (WritableHeight)

/-! ## How it is written -/

/-- The name that a tag stands for; braces at its start hold the namespace. -/
def tagName (tag : String) : Name :=
  match tag.toList with
  | '{' :: r => ⟨r.takeWhile (· != '}'), (r.dropWhile (· != '}')).drop 1⟩
  | s => ⟨[], s⟩

/-- An attribute, left out if there is no value. -/
def written (key : String) (value : Option String) : List Attribute :=
  value.toList.map fun v => ⟨⟨[], key.toList⟩, v.toList⟩

def deviceAttributes (d : Device) : List Attribute :=
  written "height" (some (toString d.height)) ++ (written "href" d.href ++
    (written "color" d.color ++ written "at" (d.position.map toString)))

def rackAttributes (r : Rack) : List Attribute :=
  written "name" (some r.name) ++ written "height" (some (toString r.height))

def rootAttributes (s : RackSet) : List Attribute := written "base" s.base ++ written "id" s.id

/-- A name as the text of an element, which has none if the name is empty. -/
def nameText (name : String) : List Node := if name.isEmpty then [] else [.text name.toList]

def encodeDevice (d : Device) : Node :=
  .element (tagName d.kind) (deviceAttributes d) (nameText d.name)

def encodeRack (r : Rack) : Node :=
  .element (tagName "rack") (rackAttributes r) (r.devices.map encodeDevice)

/-- The tree of a rack set. -/
def encode (s : RackSet) : Node :=
  .element (tagName "racks") (rootAttributes s) (s.racks.map encodeRack)

/-! ## What can be written -/

/-- A device that can be written. -/
structure DeviceEncodable (d : Device) : Prop where
  kind : d.kind ≠ "gap"
  tag : d.kind.toList.head? ≠ some '{'
  name : trim d.name.toList = d.name.toList
  height : WritableHeight d.height
  position : ∀ p ∈ d.position, WritableHeight p

/-- A rack that can be written. -/
structure RackEncodable (r : Rack) : Prop where
  height : WritableHeight r.height
  devices : ∀ d ∈ r.devices, DeviceEncodable d

/-! ## Attributes -/

section Attributes

variable {key : String} {attributes : List Attribute} {element : Name}

@[simp] theorem attributeValue?_append (key : String) (as bs : List Attribute) :
    attributeValue? key (as ++ bs) = (attributeValue? key as).or (attributeValue? key bs) := by
  rw [attributeValue?, List.find?_append, Option.map_or, attributeValue?, attributeValue?]

@[simp] theorem attributeValue?_written (key other : String) (value : Option String) :
    attributeValue? key (written other value) =
      if other = key then value.map String.toList else none := by
  cases value with
  | none => simp [attributeValue?, written]
  | some v =>
    by_cases hkey : other = key
    · simp [attributeValue?, written, hkey]
    · simp [attributeValue?, written, hkey, String.toList_inj]

theorem text?_of_attributeValue? {value : Option String}
    (h : attributeValue? key attributes = value.map String.toList) :
    text? key attributes = value := by
  rw [text?, h, Option.map_map]
  cases value <;> simp

theorem integer?_of_attributeValue? {value : Option Int} (hvalue : ∀ n ∈ value, WritableHeight n)
    (h : attributeValue? key attributes = (value.map toString).map String.toList) :
    integer? key element attributes = .ok value := by
  cases value with
  | none =>
    rw [integer?, h]
    rfl
  | some n =>
    obtain ⟨hlow, hhigh⟩ := hvalue n rfl
    obtain ⟨hdigits, hshort, hn⟩ := RackText.digits_toString (hvalue n rfl)
    have hint := Numeral.Integer.unsigned hdigits
    rw [hn] at hint
    have hleading : Numeral.Leading (toString n).toList (toString n).toList n :=
      ⟨[], _, [], (List.append_nil _).symm, blanks_nil, hint, fun c hc => nomatch hc⟩
    rw [integer?_of_leading h hleading, if_neg (by omega), if_neg (by omega)]

end Attributes

/-! ## Elements -/

theorem tagName_base {kind : String} (h : kind.toList.head? ≠ some '{') :
    tagName kind = ⟨[], kind.toList⟩ := by
  unfold tagName
  split
  · next hs =>
    rw [hs] at h
    exact absurd rfl h
  · rfl

theorem allText_nameText (name : String) : allText (nameText name) = name.toList := by
  unfold nameText
  split
  · next hempty =>
    rw [String.isEmpty_iff.1 hempty]
    rfl
  · simp [allText, Node.allText]

theorem device_written {d : Device} (h : DeviceEncodable d) :
    device (tagName d.kind) (deviceAttributes d) (nameText d.name) = .ok d.withoutCategory := by
  have hheight : attributeValue? "height" (deviceAttributes d) =
      ((some d.height).map toString).map String.toList := by
    simp [deviceAttributes]
  have hposition : attributeValue? "at" (deviceAttributes d) =
      (d.position.map toString).map String.toList := by
    simp [deviceAttributes]
  have hhref : attributeValue? "href" (deviceAttributes d) = d.href.map String.toList := by
    simp [deviceAttributes]
  have hcolor : attributeValue? "color" (deviceAttributes d) = d.color.map String.toList := by
    simp [deviceAttributes]
  rw [device, integer?_of_attributeValue? (by simpa using h.height) hheight,
    integer?_of_attributeValue? h.position hposition, text?_of_attributeValue? hhref,
    text?_of_attributeValue? hcolor, allText_nameText, h.name, tagName_base h.tag,
    String.ofList_toList, String.ofList_toList]
  rfl

theorem rackChildren_written {devices : List Device} (h : ∀ d ∈ devices, DeviceEncodable d) :
    rackChildren (devices.map encodeDevice) = .ok (devices.map Device.withoutCategory) := by
  induction devices with
  | nil => rfl
  | cons d rest ih =>
    obtain ⟨hd, hrest⟩ := List.forall_mem_cons.1 h
    have hgap : (tagName d.kind).base ≠ "gap".toList := by
      rw [tagName_base hd.tag]
      exact fun heq => hd.kind (String.toList_inj.1 heq)
    rw [List.map_cons, encodeDevice, rackChildren, if_neg hgap, device_written hd, ih hrest]
    rfl

theorem rack_written {r : Rack} (h : RackEncodable r) :
    rack (tagName "rack") (rackAttributes r) (r.devices.map encodeDevice) =
      .ok (r.mapDevices Device.withoutCategory) := by
  have hheight : attributeValue? "height" (rackAttributes r) =
      ((some r.height).map toString).map String.toList := by
    simp [rackAttributes]
  have hname : attributeValue? "name" (rackAttributes r) = (some r.name).map String.toList := by
    simp [rackAttributes]
  rw [rack, integer?_of_attributeValue? (by simpa using h.height) hheight,
    rackChildren_written h.devices, text?_of_attributeValue? hname]
  rfl

theorem rootChildren_written {racks : List Rack} (h : ∀ r ∈ racks, RackEncodable r) :
    rootChildren (racks.map encodeRack) =
      .ok (racks.map (Rack.mapDevices Device.withoutCategory)) := by
  induction racks with
  | nil => rfl
  | cons r rest ih =>
    obtain ⟨hr, hrest⟩ := List.forall_mem_cons.1 h
    have htag : (tagName "rack").base = "rack".toList := by decide
    rw [List.map_cons, encodeRack, rootChildren, if_pos htag, rack_written hr, ih hrest]
    rfl

/-- What is written for a set is read back without the categories. -/
theorem decode_encode {s : RackSet} (h : ∀ r ∈ s.racks, RackEncodable r) :
    decode (encode s) = .ok (s.mapDevices Device.withoutCategory) := by
  have hbase : attributeValue? "base" (rootAttributes s) = s.base.map String.toList := by
    simp [rootAttributes]
  have hid : attributeValue? "id" (rootAttributes s) = s.id.map String.toList := by
    simp [rootAttributes]
  have htag : (tagName "racks").base = "racks".toList := by decide
  rw [encode, decode, if_pos htag, rootChildren_written h, text?_of_attributeValue? hbase,
    text?_of_attributeValue? hid]
  rfl

/-! ## Both dialects -/

/-- A rack that was read from rack-text can be written as a tree. -/
theorem rackEncodable_of_rackWritable {r : Rack} (h : RackText.RackWritable r)
    (hdevices : ∀ d ∈ r.devices, d.kind ≠ "gap" ∧ trim d.name.toList = d.name.toList) :
    RackEncodable r := by
  refine ⟨h.height, fun d hd => ?_⟩
  obtain ⟨hgap, hname⟩ := hdevices d hd
  have hwritable := h.devices d hd
  refine ⟨hgap, ?_, hname, hwritable.height, ?_⟩
  · -- a key starts with a letter
    obtain ⟨c, rest, hkind, hletter, _⟩ := hwritable.kind
    rw [hkind]
    intro hbrace
    cases hbrace
    cases hletter
  · rw [hwritable.position]
    exact fun p hp => nomatch hp

/-- The tree of a set without categories is read as that set. The tree of a set that was read from
rack-text is read as that set but for the categories, and drawn like it. -/
theorem decode_encode_agrees :
    (∀ s : RackSet, (∀ r ∈ s.racks, RackEncodable r) → (∀ d ∈ s.devices, d.category = none) →
      decode (encode s) = .ok s) ∧
    ∀ text s, RackText.parse text = .ok s →
      (∀ d ∈ s.devices, d.kind ≠ "gap" ∧ trim d.name.toList = d.name.toList) →
      decode (encode s) = .ok (s.mapDevices Device.withoutCategory) ∧
        Drawing.draw (s.mapDevices Device.withoutCategory) = Drawing.draw s := by
  constructor
  · intro s hs hcategory
    have hself : s.mapDevices Device.withoutCategory = s :=
      RackSet.mapDevices_eq_self fun d hd => Device.withoutCategory_eq_self (hcategory d hd)
    rw [decode_encode hs, hself]
  · intro text s hparse hdevices
    obtain ⟨r, rfl, hreads⟩ := RackText.parse_eq_ok_iff.1 hparse
    have hracks : ∀ q ∈ [r], RackEncodable q := by
      rw [List.forall_mem_singleton]
      apply rackEncodable_of_rackWritable (RackText.rackWritable_of_reads hreads)
      exact fun d hd => hdevices d (RackSet.mem_devices.2 ⟨r, List.mem_singleton_self r, hd⟩)
    have hplace : KeepsPlace Device.withoutCategory := ⟨fun _ => rfl, fun _ => rfl⟩
    exact ⟨decode_encode hracks, draw_mapDevices hplace (fun _ => rfl) _⟩

/-- A set in which everything occurs that is written. -/
def closet : RackSet :=
  { base := some "http://h", id := some ""
    racks := [
      { name := " B ", height := 12
        devices := [
          { kind := "server", name := "Web 1", height := 2, href := some "x y", color := some "",
            position := some 10 }] },
      {}] }

/-- A set with a category. -/
def patched : RackSet :=
  { racks := [
      { name := "C", height := 9
        devices := [{ kind := "switch", name := "SW", height := 3, category := some "net" }] }] }

theorem decode_encode_agrees_closet :
    decode (encode closet) = .ok closet ∧
    RackText.parse "caption: C\nheight: 9\nitems:\n- net:switch[3]: SW" = .ok patched ∧
    decode (encode patched) = .ok (patched.mapDevices Device.withoutCategory) ∧
    Drawing.draw (patched.mapDevices Device.withoutCategory) = Drawing.draw patched := by
  obtain ⟨hplain, hparsed⟩ := decode_encode_agrees
  have hracks : ∀ r ∈ closet.racks, RackEncodable r := by
    refine List.forall_mem_cons.2 ⟨⟨by decide +kernel, ?_⟩, ?_⟩
    · refine List.forall_mem_singleton.2 ⟨by decide, by decide, by decide, by decide +kernel, ?_⟩
      intro p hp
      cases hp
      decide +kernel
    · exact List.forall_mem_singleton.2 ⟨by decide +kernel, fun d hd => nomatch hd⟩
  have htext : RackText.parse "caption: C\nheight: 9\nitems:\n- net:switch[3]: SW" =
      .ok patched := by decide +kernel
  exact ⟨hplain closet hracks (by decide), htext, hparsed _ _ htext (by decide)⟩

end RackML

end RackElevation
