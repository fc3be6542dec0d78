import Mathlib.Logic.Relation
import RackElevation.RackML

/-
  What RackML does not read

  Much of an element tree counts for nothing: gaps in a rack, elements beside
  the racks, text that stands directly in either, every namespace, every
  attribute without a meaning, and how the text of a device is nested. A change
  of one of these is an edit, and trees are alike if edits, made or undone, turn
  one into the other. Alike trees have the same outcome, be it a rack set or a
  fault.

  Each level of a tree has its own edits, and they have the same form: an element
  is changed in its tag or in its content, and content in one node. So one step
  lemma for the content serves the devices of a rack and the racks of a root.

  What is proved:
    1. `attributeValue?_remove` — an attribute of another name is not seen.
    2. `gather_of_edit` — an edit among nodes leaves what they give together.
    3. `rackChild_of_edit`, `rootChild_of_edit`, `decode_of_edit` — an edit of a
       device, a rack or a document leaves what is read.
    4. `decode_of_alike` — so do any number of edits.
-/

namespace RackElevation.RackML

open Text Xml

/-! ## Edits -/

/-- A change of an element: of its namespace, of an attribute under none of the `keys`, or of what
is inside it. -/
inductive ElementEdit (keys : List String) (inside : List Node → List Node → Prop) :
    Node → Node → Prop
  | space (s s' base : List Char) (attributes : List Attribute) (content : List Node) :
    ElementEdit keys inside (.element ⟨s, base⟩ attributes content)
      (.element ⟨s', base⟩ attributes content)
  | attr (name : Name) (before after : List Attribute) (content : List Node) {a : Attribute}
      (h : ∀ key ∈ keys, a.name ≠ ⟨[], key.toList⟩) :
    ElementEdit keys inside (.element name (before ++ a :: after) content)
      (.element name (before ++ after) content)
  | content (name : Name) (attributes : List Attribute) {c c' : List Node} (h : inside c c') :
    ElementEdit keys inside (.element name attributes c) (.element name attributes c')

/-- A change among nodes: one that counts for nothing is removed, or one is changed. -/
inductive ContentEdit (idle : Node → Prop) (change : Node → Node → Prop) :
    List Node → List Node → Prop
  | removed (before after : List Node) {n : Node} (h : idle n) :
    ContentEdit idle change (before ++ n :: after) (before ++ after)
  | changed (before after : List Node) {n n' : Node} (h : change n n') :
    ContentEdit idle change (before ++ n :: after) (before ++ n' :: after)

/-- A text or a gap. -/
def IdleInRack : Node → Prop
  | .text _ => True
  | .element name _ _ => name.base = "gap".toList

/-- A text, or an element that is no rack. -/
def IdleInRoot : Node → Prop
  | .text _ => True
  | .element name _ _ => name.base ≠ "rack".toList

/-- An edit of a device; its text may be nested in any way. -/
def DeviceEdit : Node → Node → Prop :=
  ElementEdit ["height", "href", "color", "at"] fun c c' => allText c = allText c'

/-- An edit of a rack. -/
def RackEdit : Node → Node → Prop :=
  ElementEdit ["name", "height"] (ContentEdit IdleInRack DeviceEdit)

/-- An edit of a document. -/
def DocumentEdit : Node → Node → Prop :=
  ElementEdit ["base", "id"] (ContentEdit IdleInRoot RackEdit)

/-- Edits, each made or undone, turn one tree into the other. -/
def Alike : Node → Node → Prop := Relation.EqvGen DocumentEdit

/-! ## Tags -/

section Tags

variable {key : String} {a : Attribute} (h : a.name ≠ ⟨[], key.toList⟩) (before after : List Attribute)

include h

theorem attributeValue?_remove :
    attributeValue? key (before ++ a :: after) = attributeValue? key (before ++ after) := by
  have hother : ¬(a.name.space.isEmpty && a.name.base == key.toList) = true := by
    rw [Bool.and_eq_true, List.isEmpty_iff, beq_iff_eq]
    intro hname
    exact h (by rw [← hname.1, ← hname.2])
  rw [attributeValue?, attributeValue?, List.find?_append, List.find?_append]
  rw [List.find?_cons_of_neg (p := fun a : Attribute => a.name.space.isEmpty && a.name.base == key.toList)
    hother]

theorem text?_remove : text? key (before ++ a :: after) = text? key (before ++ after) := by
  rw [text?, text?, attributeValue?_remove h]

theorem integer?_remove (element : Name) :
    integer? key element (before ++ a :: after) = integer? key element (before ++ after) := by
  rw [integer?, integer?, attributeValue?_remove h]

end Tags

/-! ## Content -/

/-- What nodes give together, in order. -/
def gather {α : Type} (f : Node → Except Error (List α)) : List Node → Except Error (List α)
  | [] => .ok []
  | n :: rest => do
    let here ← f n
    return here ++ (← gather f rest)

theorem gather_cons_nil {α : Type} {f : Node → Except Error (List α)} {n : Node}
    (h : f n = .ok []) (rest : List Node) : gather f (n :: rest) = gather f rest := by
  rw [gather, h]
  exact bind_pure (gather f rest)

theorem gather_append_congr {α : Type} {f : Node → Except Error (List α)} (before : List Node)
    {c c' : List Node} (h : gather f c = gather f c') :
    gather f (before ++ c) = gather f (before ++ c') := by
  induction before with
  | nil => exact h
  | cons n before ih => rw [List.cons_append, List.cons_append, gather, gather, ih]

/-- An edit is not seen if each node that is removed gives nothing, and each that is changed gives
the same as before. -/
theorem gather_of_edit {α : Type} {f : Node → Except Error (List α)} {idle : Node → Prop}
    {change : Node → Node → Prop} (hidle : ∀ n, idle n → f n = .ok [])
    (hchange : ∀ n n', change n n' → f n = f n') {c c' : List Node}
    (h : ContentEdit idle change c c') : gather f c = gather f c' := by
  cases h with
  | removed before after hn => exact gather_append_congr before (gather_cons_nil (hidle _ hn) after)
  | changed before after hn =>
    apply gather_append_congr
    rw [gather, gather, hchange _ _ hn]

/-- The device that a node in a rack gives, if any. -/
def rackChild : Node → Except Error (List Device)
  | .text _ => .ok []
  | .element name attributes content =>
    if name.base = "gap".toList then .ok [] else (device name attributes content).map fun d => [d]

/-- The rack that a node in the root gives, if any. -/
def rootChild : Node → Except Error (List Rack)
  | .text _ => .ok []
  | .element name attributes content =>
    if name.base = "rack".toList then (rack name attributes content).map fun r => [r] else .ok []

theorem rackChildren_eq (content : List Node) : rackChildren content = gather rackChild content := by
  induction content with
  | nil => rfl
  | cons n rest ih =>
    cases n with
    | text s => rw [gather_cons_nil rfl, ← ih, rackChildren]
    | element name attributes inner =>
      by_cases hgap : name.base = "gap".toList
      · rw [gather_cons_nil (if_pos hgap), ← ih, rackChildren, if_pos hgap]
      · rw [gather, rackChild, if_neg hgap, ← ih, rackChildren, if_neg hgap]
        cases device name attributes inner <;> rfl

theorem rootChildren_eq (content : List Node) : rootChildren content = gather rootChild content := by
  induction content with
  | nil => rfl
  | cons n rest ih =>
    cases n with
    | text s => rw [gather_cons_nil rfl, ← ih, rootChildren]
    | element name attributes inner =>
      by_cases hrack : name.base = "rack".toList
      · rw [gather, rootChild, if_pos hrack, ← ih, rootChildren, if_pos hrack]
        cases rack name attributes inner <;> rfl
      · rw [gather_cons_nil (if_neg hrack), ← ih, rootChildren, if_neg hrack]

/-! ## One edit -/

theorem rackChild_of_idle (n : Node) (h : IdleInRack n) : rackChild n = .ok [] := by
  cases n with
  | text s => rfl
  | element name attributes content => exact if_pos h

theorem rootChild_of_idle (n : Node) (h : IdleInRoot n) : rootChild n = .ok [] := by
  cases n with
  | text s => rfl
  | element name attributes content => exact if_neg h

theorem rackChild_of_edit (n n' : Node) (h : DeviceEdit n n') : rackChild n = rackChild n' := by
  cases h with
  | space s s' base attributes content => rfl
  | attr name before after content ha =>
    simp only [List.forall_mem_cons] at ha
    obtain ⟨hheight, hhref, hcolor, hat, _⟩ := ha
    rw [rackChild, rackChild, device, device, integer?_remove hheight, integer?_remove hat,
      text?_remove hhref, text?_remove hcolor]
  | content name attributes htext => rw [rackChild, rackChild, device, device, htext]

theorem rootChild_of_edit (n n' : Node) (h : RackEdit n n') : rootChild n = rootChild n' := by
  cases h with
  | space s s' base attributes content => rfl
  | attr name before after content ha =>
    simp only [List.forall_mem_cons] at ha
    obtain ⟨hname, hheight, _⟩ := ha
    rw [rootChild, rootChild, rack, rack, integer?_remove hheight, text?_remove hname]
  | content name attributes hinside =>
    have hdevices := gather_of_edit rackChild_of_idle rackChild_of_edit hinside
    rw [rootChild, rootChild, rack, rack, rackChildren_eq, rackChildren_eq, hdevices]

theorem decode_of_edit {t t' : Node} (h : DocumentEdit t t') : decode t = decode t' := by
  cases h with
  | space s s' base attributes content => rfl
  | attr name before after content ha =>
    simp only [List.forall_mem_cons] at ha
    obtain ⟨hbase, hid, _⟩ := ha
    rw [decode, decode, text?_remove hbase, text?_remove hid]
  | content name attributes hinside =>
    have hracks := gather_of_edit rootChild_of_idle rootChild_of_edit hinside
    rw [decode, decode, rootChildren_eq, rootChildren_eq, hracks]

/-! ## Any number of edits -/

/-- Alike trees are read as equal rack sets, or refused for the same fault. -/
theorem decode_of_alike {t t' : Node} (h : Alike t t') : decode t = decode t' := by
  -- along the edits; each may be made in either direction
  induction h with
  | rel _ _ hedit => exact decode_of_edit hedit
  | refl _ => rfl
  | symm _ _ _ ih => exact ih.symm
  | trans _ _ _ _ _ ih ih' => exact ih.trans ih'

/-- An attribute in no namespace. -/
def plain (key value : String) : Attribute := ⟨⟨[], key.toList⟩, value.toList⟩

/-- A root with one rack of these children, and what stands beside it. -/
def closetTree (children beside : List Node) : Node :=
  .element ⟨[], "racks".toList⟩ [plain "base" "http://h"]
    (.element ⟨[], "rack".toList⟩ [plain "name" "A", plain "height" "3U"] children :: beside)

/-- A device without further ado. -/
def bareServer : Node :=
  .element ⟨[], "server".toList⟩ [plain "at" "2"] [.text "Web".toList]

/-- The text of the device in elements that would be a rack and a gap elsewhere. -/
def nestedText : List Node :=
  [.element ⟨[], "rack".toList⟩ [plain "height" "0"]
    [.text "W".toList, .element ⟨[], "gap".toList⟩ [] [.text "eb".toList]]]

/-- The device in a namespace, with an attribute in that namespace and its text nested. -/
def nestedServer : Node :=
  .element ⟨"u".toList, "server".toList⟩ [⟨⟨"u".toList, "at".toList⟩, "0".toList⟩, plain "at" "2"]
    nestedText

/-- A gap whose numbers and content would not be read elsewhere. -/
def fullGap : Node :=
  .element ⟨"u".toList, "gap".toList⟩ [plain "height" "0", plain "at" "-1"] [bareServer]

theorem decode_of_alike_cluttered :
    Alike (closetTree [nestedServer, fullGap, .text "spare".toList] [fullGap])
      (closetTree [bareServer] []) ∧
    decode (closetTree [nestedServer, fullGap, .text "spare".toList] [fullGap]) =
      decode (closetTree [bareServer] []) := by
  -- what counts for nothing is removed first, and then the device is changed step by step
  have hrack : ∀ {c c' beside : List Node}, ContentEdit IdleInRack DeviceEdit c c' →
      Alike (closetTree c beside) (closetTree c' beside) := fun h =>
    .rel _ _ (.content _ _ (.changed [] _ (.content _ _ h)))
  have hdevice : ∀ {n n' : Node}, DeviceEdit n n' → Alike (closetTree [n] []) (closetTree [n'] []) :=
    fun h => hrack (.changed [] [] h)
  have hbeside : Alike (closetTree [nestedServer, fullGap, .text "spare".toList] [fullGap])
      (closetTree [nestedServer, fullGap, .text "spare".toList] []) :=
    .rel _ _ (.content _ _ (.removed [_] [] (show "gap".toList ≠ "rack".toList by decide)))
  have hspare : Alike (closetTree [nestedServer, fullGap, .text "spare".toList] [])
      (closetTree [nestedServer, fullGap] []) := hrack (.removed [_, _] [] trivial)
  have hgap : Alike (closetTree [nestedServer, fullGap] []) (closetTree [nestedServer] []) :=
    hrack (.removed [_] [] rfl)
  have hattribute : Alike (closetTree [nestedServer] [])
      (closetTree [.element ⟨"u".toList, "server".toList⟩ [plain "at" "2"] nestedText] []) :=
    hdevice (.attr _ [] _ _ (by decide))
  have hspace : Alike (closetTree [.element ⟨"u".toList, "server".toList⟩ [plain "at" "2"] nestedText] [])
      (closetTree [.element ⟨[], "server".toList⟩ [plain "at" "2"] nestedText] []) :=
    hdevice (.space _ _ _ _ _)
  have htext : Alike (closetTree [.element ⟨[], "server".toList⟩ [plain "at" "2"] nestedText] [])
      (closetTree [bareServer] []) := hdevice (.content _ _ rfl)
  have halike := hbeside.trans _ _ _ (hspare.trans _ _ _ (hgap.trans _ _ _ (hattribute.trans _ _ _
    (hspace.trans _ _ _ htext))))
  exact ⟨halike, decode_of_alike halike⟩

end RackElevation.RackML
