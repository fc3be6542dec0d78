import RackElevation.Proofs.RackText.Result
import RackElevation.Proofs.Text.Trimming

/-
  Writing rack-text

  A rack is written as one line for its name, one for its height, the heading of
  the list and one line for each device: the key, the height in brackets, a
  colon and the label. The height of a device of one unit may be left out.

  Not every rack set can be written so that it is read back: there has to be one
  rack and nothing besides, and names have to be on one line without blanks at
  their ends. These are also the rack sets that are read from any text at all.

  What is proved:
    1. `linkLabel_eq_some_iff` — the labels that are read as a name with a link.
    2. `describes_writeItem` — the line of a device is read as that device.
    3. `reads_writeLines` — the lines of a rack are read as that rack.
    4. `rackWritable_of_reads` — a rack that is read can be written.
    5. `parse_image` — the rack sets that are read from some text are those that
       can be written, and each way to write one is read back.
-/

namespace RackElevation.RackText

open Text Grammar
open Numeral (Digits Integer)

/-! ## What can be written -/

/-- A name in brackets and a link in parentheses. -/
def Grammar.Linked (s name href : List Char) : Prop :=
  s = '[' :: (name ++ ']' :: '(' :: (href ++ [')'])) ∧
    (name ≠ [] ∧ ']' ∉ name) ∧ href ≠ [] ∧ ')' ∉ href

/-- Text on one line, without blanks at either end. -/
def Grammar.Tidy (s : List Char) : Prop := trim s = s ∧ Unbroken s

instance (s : List Char) : Decidable (Tidy s) := inferInstanceAs (Decidable (trim s = s ∧ Unbroken s))

/-- A label that is a name and does not look like a name with a link. -/
def PlainName (d : Device) : Prop :=
  d.href = none ∧ Tidy d.name.toList ∧ ¬∃ name href, Linked d.name.toList name href

/-- A name with a link that can be told apart by the brackets. -/
def LinkedName (d : Device) : Prop :=
  (d.name.toList ≠ [] ∧ ']' ∉ d.name.toList ∧ Unbroken d.name.toList) ∧
    ∃ href ∈ d.href, href.toList ≠ [] ∧ ')' ∉ href.toList ∧ Unbroken href.toList

/-- A height that is at least one and not too long. -/
def WritableHeight (n : Int) : Prop := 1 ≤ n ∧ n < tooLong

instance (n : Int) : Decidable (WritableHeight n) := inferInstanceAs (Decidable (1 ≤ n ∧ n < tooLong))

/-- A device that can be written. -/
structure DeviceWritable (d : Device) : Prop where
  color : d.color = none
  position : d.position = none
  kind : Ident d.kind.toList
  category : ∀ c ∈ d.category, Ident c.toList
  height : WritableHeight d.height
  label : PlainName d ∨ LinkedName d

/-- A rack that can be written. -/
structure RackWritable (r : Rack) : Prop where
  name : Tidy r.name.toList
  height : WritableHeight r.height
  devices : ∀ d ∈ r.devices, DeviceWritable d

/-- A rack set that can be written. -/
def Writable (s : RackSet) : Prop :=
  s.base = none ∧ s.id = none ∧ ∃ r, s.racks = [r] ∧ RackWritable r

/-! ## How it is written -/

/-- The label of a device. -/
def writeLabel (d : Device) : List Char :=
  match d.href with
  | none => d.name.toList
  | some href => '[' :: (d.name.toList ++ ']' :: '(' :: (href.toList ++ [')']))

/-- The key of a device. -/
def writeKey (d : Device) : List Char :=
  match d.category with
  | none => d.kind.toList
  | some category => category.toList ++ ':' :: d.kind.toList

/-- A height in brackets, unless it is left out. -/
def writeHeight (given : Bool) (n : Int) : List Char :=
  if given then '[' :: ((toString n).toList ++ [']']) else []

/-- The line of a device. -/
def writeItem (given : Bool) (d : Device) : List Char :=
  "- ".toList ++ (writeKey d ++ writeHeight given d.height) ++ ':' :: ' ' :: writeLabel d

/-- The lines of a rack; `given` tells which devices have their height written. -/
def writeLines (given : List Bool) (r : Rack) : List (List Char) :=
  ("caption: ".toList ++ r.name.toList) :: ("height: ".toList ++ (toString r.height).toList) ::
    "items:".toList :: List.zipWith writeItem given r.devices

/-- A rack as text. -/
def write (given : List Bool) (r : Rack) : String := String.ofList (join '\n' (writeLines given r))

/-- Only a height of one is left out. -/
def Omissible (given : List Bool) (devices : List Device) : Prop :=
  List.Forall₂ (fun g d => g = false → d.height = 1) given devices

/-! ## Labels -/

theorem linkLabel_eq_some_iff {s name href : List Char} :
    linkLabel s = some (name, href) ↔ Linked s name href := by
  constructor
  · intro h
    unfold linkLabel at h
    split at h
    case h_2 => cases h
    case h_1 r =>
      split at h
      case h_2 => cases h
      case h_1 n ns t hname hrest =>
        split at h
        case h_2 => cases h
        case h_1 l ls hhref hend =>
          cases h
          have hr : r = (n :: ns) ++ ']' :: '(' :: t := by
            rw [← hname, ← hrest, List.takeWhile_append_dropWhile]
          have ht : t = (l :: ls) ++ [')'] := by
            rw [← hhref, ← hend, List.takeWhile_append_dropWhile]
          refine ⟨by rw [hr, ht], ⟨by simp, ?_⟩, by simp, ?_⟩
          · intro hmem
            rw [← hname] at hmem
            simpa using mem_takeWhile hmem
          · intro hmem
            rw [← hhref] at hmem
            simpa using mem_takeWhile hmem
  · intro h
    obtain ⟨rfl, ⟨hname, hbracket⟩, hhref, hparen⟩ := h
    obtain ⟨n, ns, rfl⟩ := List.exists_cons_of_ne_nil hname
    obtain ⟨l, ls, rfl⟩ := List.exists_cons_of_ne_nil hhref
    have hrun : ∀ {d : Char} {s : List Char}, d ∉ s → ∀ c ∈ s, (c != d) = true :=
      fun hd c hc => bne_iff_ne.2 fun heq => hd (heq ▸ hc)
    have hstop : ∀ {d : Char} {r : List Char}, ∀ c ∈ (d :: r).head?, (c != d) = false := by
      intro d r c hc
      cases hc
      exact bne_self_eq_false d
    simp only [linkLabel, takeWhile_run (hrun hbracket) hstop, dropWhile_run (hrun hbracket) hstop,
      takeWhile_run (hrun hparen) hstop, dropWhile_run (hrun hparen) hstop]

theorem writeLabel_none {d : Device} (h : d.href = none) : writeLabel d = d.name.toList := by
  rw [writeLabel, h]

theorem LinkedName.href_eq_some {d : Device} (h : LinkedName d) : ∃ href, d.href = some href := by
  obtain ⟨_, href, hhref, _⟩ := h
  exact ⟨href, hhref⟩

theorem linked_writeLabel {d : Device} (h : LinkedName d) {href : String} (hhref : d.href = some href) :
    Linked (writeLabel d) d.name.toList href.toList := by
  obtain ⟨⟨hname, hbracket, _⟩, _, hmem, hne, hparen, _⟩ := h
  rw [hhref, Option.mem_some_iff] at hmem
  subst hmem
  rw [writeLabel, hhref]
  exact ⟨rfl, ⟨hname, hbracket⟩, hne, hparen⟩

/-- A label that is written keeps its ends. -/
theorem trim_writeLabel {d : Device} (h : DeviceWritable d) : trim (writeLabel d) = writeLabel d := by
  rcases h.label with ⟨hhref, ⟨htrim, _⟩, _⟩ | hlinked
  · rw [writeLabel_none hhref]
    exact htrim
  · obtain ⟨href, hhref⟩ := hlinked.href_eq_some
    obtain ⟨hform, _⟩ := linked_writeLabel hlinked hhref
    have hstart : ∀ c ∈ ('[' :: (d.name.toList ++ ']' :: '(' :: href.toList)).head?,
        isBlank c = false := by
      intro c hc
      cases hc
      decide
    have hend := trim_append_cons (c := ')') (by decide) hstart []
    rw [hform]
    simpa [trimEnd] using hend

/-- A label that is written is read as the name and the link of the device. -/
theorem made_writeLabel {d : Device} (h : DeviceWritable d) {item : Item}
    (hkind : item.kind = d.kind.toList) (hcategory : item.category = d.category.map String.toList)
    (hlabel : trim item.label = writeLabel d) : item.made d.height = d := by
  have hcategory : item.category.map String.ofList = d.category := by
    rw [hcategory, Option.map_map]
    cases d.category with
    | none => rfl
    | some c => simp
  obtain ⟨hcolor, hposition, _, _, _, hname⟩ := h
  obtain ⟨kind, name, height, href, color, position, category⟩ := d
  subst hcolor hposition
  rcases hname with ⟨rfl, _, hplain⟩ | hlinked
  · have hnone : linkLabel name.toList = none := by
      rw [Option.eq_none_iff_forall_ne_some]
      rintro ⟨x, y⟩ hlink
      exact hplain ⟨x, y, linkLabel_eq_some_iff.1 hlink⟩
    have hlabel : trim item.label = name.toList := hlabel
    rw [← hlabel] at hnone
    rw [Item.made_of_plain hnone, hlabel, hkind, hcategory]
    simp
  · obtain ⟨l, rfl⟩ := hlinked.href_eq_some
    have hsome := linkLabel_eq_some_iff.2 (linked_writeLabel hlinked rfl)
    rw [← hlabel] at hsome
    rw [Item.made_of_linked hsome, hkind, hcategory]
    simp

/-! ## Items -/

theorem not_isBlank_of_isAlpha {c : Char} (h : c.isAlpha = true) : isBlank c = false :=
  not_isBlank_of_continuesIdentifier (continuesIdentifier_iff.2 (.inl (by simp [Char.isAlphanum, h])))

/-- The digits that are written for a height. -/
def writeDigits (given : Bool) (n : Int) : List Char := if given then (toString n).toList else []

theorem digits_toString {n : Int} (h : WritableHeight n) :
    Digits (toString n).toList ∧ (toString n).toList.length ≤ Numeral.maxDigits ∧
      Numeral.valueOf (toString n).toList = n := by
  obtain ⟨m, rfl⟩ := Int.eq_ofNat_of_zero_le (Int.le_trans (by decide) h.1)
  have hshort : m < tooLong := Int.ofNat_lt.1 h.2
  rw [Numeral.toList_toString]
  exact ⟨Numeral.digits_digits m, Numeral.size_le_iff.2 hshort, by rw [Numeral.valueOf_digits]⟩

theorem height_writeHeight {n : Int} (h : WritableHeight n) (given : Bool) :
    Height (writeHeight given n) (writeDigits given n) := by
  cases given with
  | false => exact .absent
  | true => exact .given blanks_nil (digits_toString h).1

theorem bare_written {d : Device} (h : DeviceWritable d) (given : Bool) (label : List Char) :
    Bare (d.kind.toList ++ (writeHeight given d.height ++ ':' :: label)) d.kind.toList
      (writeDigits given d.height) label :=
  ⟨_, [], rfl, h.kind, height_writeHeight h.height given, blanks_nil⟩

/-- A key without a category is not read as one with a category: a colon is followed by a blank. -/
theorem not_qualified_written {d : Device} (h : DeviceWritable d) (given : Bool) {label : List Char}
    (hlabel : ∀ c ∈ label.head?, c.isAlpha = false) :
    ¬∃ category kind digits rest,
      Qualified (d.kind.toList ++ (writeHeight given d.height ++ ':' :: label)) category kind digits rest := by
  intro hq
  obtain ⟨category, kind, digits, rest, r, hsplit, hcategory, hbare⟩ := hq
  have hstop : ∀ c ∈ (':' :: r).head?, continuesIdentifier c = false := by
    intro c hc
    cases hc
    decide
  have hread := takeIdentifier_eq_some_iff.2 ⟨hsplit, hcategory, hstop⟩
  have hhead : ∀ c ∈ (writeHeight given d.height ++ ':' :: label).head?, continuesIdentifier c = false :=
    head_height label (height_writeHeight h.height given) blanks_nil
  rw [takeIdentifier_eq_some_iff.2 ⟨rfl, h.kind, hhead⟩, Option.some.injEq, Prod.mk.injEq] at hread
  obtain ⟨_, hrest⟩ := hread
  -- so there is no height, and what follows the colon is the label
  cases given with
  | true => cases hrest
  | false =>
    cases hrest
    obtain ⟨_, _, hlabel', hkind, _⟩ := hbare
    obtain ⟨c, k, rfl, hc, _⟩ := hkind
    have hnot := hlabel c (by rw [hlabel']; rfl)
    rw [hc] at hnot
    cases hnot

theorem split_written {d : Device} (h : DeviceWritable d) (given : Bool) {label : List Char}
    (hlabel : ∀ c ∈ label.head?, c.isAlpha = false) :
    Item.split (writeKey d ++ writeHeight given d.height ++ ':' :: label) =
      some ⟨d.category.map String.toList, d.kind.toList, writeDigits given d.height, label⟩ := by
  have hbare := bare_written h given label
  rw [split_eq_some_iff, List.append_assoc, writeKey]
  cases hcategory : d.category with
  | none => exact .inr ⟨not_qualified_written h given hlabel, rfl, hbare⟩
  | some category =>
    refine .inl ⟨category.toList, rfl, _, ?_, h.category category hcategory, hbare⟩
    rw [List.append_assoc, List.cons_append]

theorem key_start {d : Device} (h : DeviceWritable d) (given : Bool) :
    ∀ c ∈ (writeKey d ++ writeHeight given d.height).head?, isBlank c = false := by
  have hident : ∃ i r, writeKey d ++ writeHeight given d.height = i ++ r ∧ Ident i := by
    rw [writeKey]
    cases hcategory : d.category with
    | none => exact ⟨_, _, rfl, h.kind⟩
    | some category => exact ⟨_, _, List.append_assoc .., h.category category hcategory⟩
  obtain ⟨_, r, hsplit, i, t, rfl, hi, _⟩ := hident
  intro c hc
  rw [hsplit] at hc
  cases hc
  exact not_isBlank_of_isAlpha hi

theorem trim_writeItem (given : Bool) (d : Device) :
    trim (writeItem given d) = '-' :: ' ' ::
      (writeKey d ++ writeHeight given d.height ++ ':' :: trimEnd (' ' :: writeLabel d)) := by
  have hstart : ∀ c ∈ ("- ".toList ++ (writeKey d ++ writeHeight given d.height)).head?,
      isBlank c = false := by
    intro c hc
    cases hc
    decide
  rw [writeItem, trim_append_cons (by decide) hstart]
  rfl

/-- The line of a device is read as that device. -/
theorem describes_writeItem {d : Device} (h : DeviceWritable d) {given : Bool}
    (hgiven : given = false → d.height = 1) :
    Describes (trim ((trim (writeItem given d)).drop 1)) d := by
  have hentry : trim ((trim (writeItem given d)).drop 1) =
      writeKey d ++ writeHeight given d.height ++ ':' :: trimEnd (' ' :: writeLabel d) := by
    rw [trim_writeItem, List.drop_one, List.tail_cons, trim_blank_cons (by decide),
      trim_append_cons (by decide) (key_start h given), trimEnd_trimEnd]
  have hlabel : ∀ c ∈ (trimEnd (' ' :: writeLabel d)).head?, c.isAlpha = false := by
    intro c hc
    cases head_trimEnd c hc
    decide
  have hread : trim (trimEnd (' ' :: writeLabel d)) = writeLabel d := by
    rw [trim_trimEnd_cons (by decide), trim_writeLabel h]
  have hmade : ∀ digits, Item.made ⟨d.category.map String.toList, d.kind.toList, digits,
      trimEnd (' ' :: writeLabel d)⟩ d.height = d := fun _ => made_writeLabel h rfl rfl hread
  have hone := h.height.1
  rw [hentry]
  refine ⟨_, split_written h given hlabel, ?_⟩
  cases given with
  | false =>
    have hvalue : d.height = 1 := hgiven rfl
    rw [hvalue] at hmade
    exact ⟨Nat.zero_le _, Nat.le_refl 1, (hmade []).symm⟩
  | true =>
    obtain ⟨hdigits, hshort, hvalue⟩ := digits_toString h.height
    have hpositive : 1 ≤ Numeral.valueOf (toString d.height).toList := by omega
    refine ⟨hshort, ?_⟩
    rw [writeDigits, if_pos rfl, Item.value, if_neg hdigits.1, hvalue]
    exact ⟨hpositive, (hmade _).symm⟩

/-! ## Lines -/

theorem unbroken_ident {s : List Char} (h : Ident s) : Unbroken s := by
  obtain ⟨c, r, rfl, hc, hr⟩ := h
  rw [unbroken_cons (not_isBlank_of_isAlpha hc)]
  apply unbroken_of_not_blank
  intro d hd
  exact not_isBlank_of_continuesIdentifier (continuesIdentifier_iff.2 (hr d hd))

theorem unbroken_writeLabel {d : Device} (h : DeviceWritable d) : Unbroken (writeLabel d) := by
  rcases h.label with ⟨hhref, ⟨_, hname⟩, _⟩ | hlinked
  · rw [writeLabel_none hhref]
    exact hname
  · obtain ⟨⟨_, _, hname⟩, href, hhref, _, _, hlink⟩ := hlinked
    rw [writeLabel, Option.mem_def.1 hhref, unbroken_cons (by decide), unbroken_append,
      unbroken_cons (by decide), unbroken_cons (by decide), unbroken_append]
    exact ⟨hname, hlink, by decide⟩

theorem unbroken_writeItem {d : Device} (h : DeviceWritable d) (given : Bool) :
    Unbroken (writeItem given d) := by
  have hkey : Unbroken (writeKey d) := by
    rw [writeKey]
    cases hcategory : d.category with
    | none => exact unbroken_ident h.kind
    | some category =>
      dsimp only
      rw [unbroken_append, unbroken_cons (by decide)]
      exact ⟨unbroken_ident (h.category category hcategory), unbroken_ident h.kind⟩
  have hheight : Unbroken (writeHeight given d.height) := by
    cases given with
    | false => exact unbroken_of_not_blank fun _ hc => nomatch hc
    | true =>
      show Unbroken ('[' :: ((toString d.height).toList ++ [']']))
      rw [unbroken_cons (by decide), unbroken_append]
      exact ⟨(digits_toString h.height).1.unbroken, by decide⟩
  have hlabel : Unbroken (' ' :: writeLabel d) :=
    (unbroken_append (s := [' '])).2 ⟨by decide, unbroken_writeLabel h⟩
  have hword : Unbroken "- ".toList := by decide
  rw [writeItem, unbroken_append, unbroken_append, unbroken_append, unbroken_cons (by decide)]
  exact ⟨⟨hword, hkey, hheight⟩, hlabel⟩

/-- The lines of a rack that can be written are kept, without the blanks at their ends. -/
theorem kept_write {r : Rack} (h : RackWritable r) (given : List Bool) :
    kept (write given r).toList = (writeLines given r).map trim := by
  rw [write, String.toList_ofList]
  apply kept_join (List.cons_ne_nil _ _)
  -- every line starts with a letter or a dash, so something is left of it
  have hleft : ∀ {c : Char}, isBlank c = false → ∀ s, trim (c :: s) ≠ [] := by
    intro c hc s
    have htrim := trim_append_blanks blanks_nil hc s
    rw [List.nil_append] at htrim
    simp [htrim]
  intro l hl
  rcases List.mem_cons.1 hl with rfl | hl
  · exact ⟨unbroken_append.2 ⟨by decide, h.name.2⟩, hleft (by decide) _⟩
  rcases List.mem_cons.1 hl with rfl | hl
  · exact ⟨unbroken_append.2 ⟨by decide, (digits_toString h.height).1.unbroken⟩, hleft (by decide) _⟩
  rcases List.mem_cons.1 hl with rfl | hl
  · exact ⟨by decide, by decide⟩
  · rw [← List.map_uncurry_zip_eq_zipWith] at hl
    obtain ⟨⟨g, d⟩, hzip, rfl⟩ := List.mem_map.1 hl
    exact ⟨unbroken_writeItem (h.devices d (List.of_mem_zip hzip).2) g, hleft (by decide) _⟩

/-- A keyword stands apart from what follows it. -/
theorem trim_keyword (word : List Char) (hword : ∀ c ∈ word.head?, isBlank c = false)
    {s : List Char} (hs : trim s = s) :
    ∃ r, trim (word ++ ':' :: ' ' :: s) = (word ++ [':']) ++ r ∧ trim r = s := by
  refine ⟨trimEnd (' ' :: s), ?_, ?_⟩
  · rw [trim_append_cons (by decide) hword, List.append_assoc]
    rfl
  · rw [trim_trimEnd_cons (by decide), hs]

theorem describes_items {devices : List Device} (h : ∀ d ∈ devices, DeviceWritable d)
    {given : List Bool} (hgiven : Omissible given devices) :
    List.Forall₂ (fun l d => Describes (trim (l.drop 1)) d)
      (((List.zipWith writeItem given devices).map trim).takeWhile (·.head? == some '-')) devices := by
  unfold Omissible at hgiven
  induction hgiven with
  | nil => exact .nil
  | @cons g d given devices hd _ ih =>
    obtain ⟨hwritable, hrest⟩ := List.forall_mem_cons.1 h
    have hdash : ((trim (writeItem g d)).head? == some '-') = true := by
      rw [trim_writeItem]
      rfl
    rw [List.zipWith_cons_cons, List.map_cons, List.takeWhile_cons, if_pos hdash]
    exact .cons (describes_writeItem hwritable hd) (ih hrest)

/-- The lines of a rack that can be written are read as that rack. -/
theorem reads_writeLines {r : Rack} (h : RackWritable r) {given : List Bool}
    (hgiven : Omissible given r.devices) : Reads ((writeLines given r).map trim) r := by
  obtain ⟨hdigits, hshort, hvalue⟩ := digits_toString h.height
  obtain ⟨name, hcaption, hname⟩ := trim_keyword "caption".toList
    (fun c hc => by cases hc; decide) h.name.1
  obtain ⟨number, hheight, hnumber⟩ := trim_keyword "height".toList
    (fun c hc => by cases hc; decide) hdigits.trim_eq
  refine ⟨_, _, _, _, (toString r.height).toList, rfl, ?_, ?_, ?_, hshort, h.height.1, by decide,
    describes_items h.devices hgiven⟩
  · exact ⟨name, hcaption.symm⟩
  · have hdrop : (trim ("caption: ".toList ++ r.name.toList)).drop "caption:".toList.length = name := by
      have hline : trim ("caption: ".toList ++ r.name.toList) = "caption:".toList ++ name := hcaption
      rw [hline, List.drop_left]
    rw [hdrop, hname, String.ofList_toList]
  · have hint : Integer (toString r.height).toList (toString r.height).toList r.height := by
      have hunsigned := Integer.unsigned hdigits
      rwa [hvalue] at hunsigned
    exact ⟨number, hheight, hnumber.symm ▸ hint⟩

/-! ## What is read -/

theorem unbroken_of_mem_kept {text l : List Char} (h : l ∈ kept text) : Unbroken l := by
  obtain ⟨k, hk, rfl⟩ := List.mem_map.1 (List.mem_filter.1 h).1
  have hline : Unbroken k := not_mem_break_of_mem_lines hk
  exact hline.within (trim_within k)

theorem tidy_trim {s : List Char} (h : Unbroken s) : Tidy (trim s) :=
  ⟨trim_trim s, h.within (trim_within s)⟩

/-- The parts of an item that is read. -/
theorem parts_of_split {s : List Char} {item : Item} (h : Item.split s = some item) :
    Ident item.kind ∧ (∀ c ∈ item.category, Ident c) ∧ item.label <:+ s := by
  have hbare : ∀ {t kind digits label : List Char}, Bare t kind digits label →
      Ident kind ∧ label <:+ t := by
    intro t kind digits label hbare
    obtain ⟨height, blanks, rfl, hkind, _⟩ := hbare
    exact ⟨hkind, kind ++ height ++ blanks ++ [':'], by simp⟩
  rcases split_eq_some_iff.1 h with ⟨category, hcategory, r, rfl, hident, hrest⟩ | ⟨_, hnone, hrest⟩
  · obtain ⟨hkind, hlabel⟩ := hbare hrest
    refine ⟨hkind, ?_, hlabel.trans ⟨category ++ [':'], by simp⟩⟩
    rw [hcategory]
    intro c hc
    cases hc
    exact hident
  · obtain ⟨hkind, hlabel⟩ := hbare hrest
    rw [hnone]
    refine ⟨hkind, ?_, hlabel⟩
    intro c hc
    cases hc

theorem writableHeight_of_integer {s digits : List Char} {n : Int} (h : Integer s digits n)
    (hshort : digits.length ≤ Numeral.maxDigits) (hn : 1 ≤ n) : WritableHeight n := by
  have hvalue := Numeral.valueOf_lt_tooLong hshort
  refine ⟨hn, ?_⟩
  cases h <;> omega

theorem writableHeight_value {item : Item} (hshort : item.height.length ≤ Numeral.maxDigits)
    (hone : 1 ≤ item.value) : WritableHeight item.value := by
  refine ⟨Int.ofNat_le.2 hone, Int.ofNat_lt.2 ?_⟩
  rw [Item.value]
  split
  · exact Numeral.valueOf_lt_tooLong (s := ['1']) (by decide)
  · exact Numeral.valueOf_lt_tooLong hshort

/-- The label of an item that is read is written as it was. -/
theorem label_made {item : Item} (h : Tidy (trim item.label)) (n : Int) :
    PlainName (item.made n) ∨ LinkedName (item.made n) := by
  cases hlink : linkLabel (trim item.label) with
  | none =>
    rw [Item.made_of_plain hlink]
    refine .inl ⟨rfl, ?_⟩
    rw [String.toList_ofList]
    refine ⟨h, ?_⟩
    intro hlinked
    obtain ⟨name, href, hlinked⟩ := hlinked
    rw [linkLabel_eq_some_iff.2 hlinked] at hlink
    cases hlink
  | some p =>
    obtain ⟨name, href⟩ := p
    obtain ⟨hform, ⟨hname, hbracket⟩, hhref, hparen⟩ := linkLabel_eq_some_iff.1 hlink
    have hunbroken := h.2
    rw [hform, unbroken_cons (by decide), unbroken_append, unbroken_cons (by decide),
      unbroken_cons (by decide), unbroken_append] at hunbroken
    obtain ⟨hleft, hright, _⟩ := hunbroken
    rw [Item.made_of_linked hlink]
    refine .inr ⟨?_, String.ofList href, rfl, ?_⟩
    · rw [String.toList_ofList]
      exact ⟨hname, hbracket, hleft⟩
    · rw [String.toList_ofList]
      exact ⟨hhref, hparen, hright⟩

/-- A device that is read can be written. -/
theorem deviceWritable_of_describes {entry : List Char} (hentry : Unbroken entry) {d : Device}
    (h : Describes entry d) : DeviceWritable d := by
  obtain ⟨item, hsplit, hshort, hone, rfl⟩ := h
  obtain ⟨hkind, hcategory, hlabel⟩ := parts_of_split hsplit
  have htidy := tidy_trim (hentry.within hlabel.isInfix)
  refine ⟨rfl, rfl, ?_, ?_, writableHeight_value hshort hone, label_made htidy _⟩
  · exact (String.toList_ofList).symm ▸ hkind
  · intro c hc
    obtain ⟨i, hi, rfl⟩ := Option.map_eq_some_iff.1 hc
    exact (String.toList_ofList).symm ▸ hcategory i hi

theorem forall_writable_of_describes {items : List (List Char)} (hitems : ∀ l ∈ items, Unbroken l)
    {devices : List Device} (h : List.Forall₂ (fun l d => Describes (trim (l.drop 1)) d) items devices) :
    ∀ d ∈ devices, DeviceWritable d := by
  induction h with
  | nil => exact fun d hd => nomatch hd
  | @cons l d items devices hd _ ih =>
    obtain ⟨hl, hrest⟩ := List.forall_mem_cons.1 hitems
    have hentry := (hl.within (List.drop_suffix 1 l).isInfix).within (trim_within _)
    exact List.forall_mem_cons.2 ⟨deviceWritable_of_describes hentry hd, ih hrest⟩

/-- A rack that is read can be written. -/
theorem rackWritable_of_reads {text : List Char} {r : Rack} (h : Reads (kept text) r) :
    RackWritable r := by
  obtain ⟨caption, height, heading, rest, digits, hls, _, hname, ⟨_, _, hint⟩, hshort, hone, _,
    hdevices⟩ := h
  have hunbroken : ∀ l ∈ kept text, Unbroken l := fun l hl => unbroken_of_mem_kept hl
  rw [hls, List.forall_mem_cons, List.forall_mem_cons, List.forall_mem_cons] at hunbroken
  obtain ⟨hcaption, _, _, hrest⟩ := hunbroken
  refine ⟨?_, writableHeight_of_integer hint hshort hone, ?_⟩
  · rw [hname, String.toList_ofList]
    exact tidy_trim (hcaption.within (List.drop_suffix _ caption).isInfix)
  · apply forall_writable_of_describes _ hdevices
    intro l hl
    exact hrest l ((List.takeWhile_prefix _).subset hl)

/-! ## Rack sets -/

/-- The rack sets that are read from some text are those that can be written, and they are read back
however they are written. -/
theorem parse_image {s : RackSet} :
    ((∃ text, parse text = .ok s) ↔ Writable s) ∧
      ∀ r given, s.racks = [r] → Writable s → Omissible given r.devices →
        parse (write given r) = .ok s := by
  have hback : ∀ r given, s.racks = [r] → Writable s → Omissible given r.devices →
      parse (write given r) = .ok s := by
    intro r given hracks hs hgiven
    obtain ⟨hbase, hid, r', hr', hr⟩ := hs
    obtain rfl : r' = r := List.singleton_inj.1 (hr'.symm.trans hracks)
    obtain ⟨base, id, racks⟩ := s
    subst hbase hid hracks
    rw [parse_eq_ok_iff, kept_write hr]
    exact ⟨r', rfl, reads_writeLines hr hgiven⟩
  refine ⟨⟨?_, ?_⟩, hback⟩
  · intro h
    obtain ⟨text, h⟩ := h
    obtain ⟨r, rfl, hreads⟩ := parse_eq_ok_iff.1 h
    exact ⟨rfl, rfl, r, rfl, rackWritable_of_reads hreads⟩
  · intro h
    obtain ⟨r, hracks, _⟩ := h.2.2
    -- all heights can be written, so this is one way to write it
    have hgiven : Omissible (r.devices.map fun _ => true) r.devices := by
      rw [Omissible, List.forall₂_map_left_iff, List.forall₂_same]
      intro d _ hfalse
      cases hfalse
    exact ⟨_, hback r _ hracks h hgiven⟩

/-- A rack with a linked device, and with one whose height may be left out. -/
def core : Rack :=
  { name := "Core [x](y)", height := 12
    devices := [
      { kind := "switch", category := some "net", height := 2, name := "SW 1", href := some "//a [b]" },
      { kind := "a-b", name := "[x]" }] }

theorem parse_image_core :
    Writable { racks := [core] } ∧ Omissible [true, false] core.devices ∧
      parse (write [true, false] core) = .ok { racks := [core] } := by
  have hident : ∀ s, takeIdentifier s = some (s, []) → Ident s :=
    fun s hs => (takeIdentifier_eq_some_iff.1 hs).2.1
  have hlinked : DeviceWritable core.devices[0] := by
    refine ⟨rfl, rfl, hident _ (by decide), ?_, by decide +kernel, .inr ?_⟩
    · intro c hc
      cases hc
      exact hident _ (by decide)
    · exact ⟨by decide, "//a [b]", by decide⟩
  have hplain : DeviceWritable core.devices[1] := by
    refine ⟨rfl, rfl, hident _ (by decide), ?_, by decide +kernel, .inl ?_⟩
    · intro c hc
      cases hc
    · refine ⟨rfl, by decide, ?_⟩
      intro h
      obtain ⟨name, href, h⟩ := h
      cases linkLabel_eq_some_iff.2 h
  have hwritable : Writable { racks := [core] } := by
    refine ⟨rfl, rfl, core, rfl, by decide, by decide +kernel, ?_⟩
    exact List.forall_mem_cons.2 ⟨hlinked, List.forall_mem_singleton.2 hplain⟩
  have hgiven : Omissible [true, false] core.devices := .cons (by decide) (.cons (by decide) .nil)
  exact ⟨hwritable, hgiven, parse_image.2 core _ rfl hwritable hgiven⟩

end RackElevation.RackText
