import RackElevation.Proofs.Decimal.Notation
import RackElevation.Proofs.Outcome
import RackElevation.RackML

/-
  The numbers of an element tree

  A tree is read for the numbers in it, one after another: rack by rack, the
  height of a rack before its elements, and of an element its height before its
  position. Nothing else in a tree can fail, so the first of these attributes
  that fails is the failure of the tree.

  What is proved:
    1. `integer?_of_leading`, `integer?_of_not_leading` — what becomes of an
       attribute that starts with an integer, and of one that does not.
    2. `failure?_decode` — the failure of a tree is that of its first attribute
       that fails.
    3. `valid_of_decode` — a tree that is read keeps its bounds.
-/

namespace RackElevation.RackML

open Text Xml Outcome
open Numeral (Integer Leading)

/-- An attribute that holds a number, among the attributes of an element. -/
structure Field where
  key : String
  element : Name
  attributes : List Attribute

namespace Field

/-- The number of the attribute, if it holds one. -/
def read (f : Field) : Except Error (Option Int) := integer? f.key f.element f.attributes

/-- The attribute starts with an integer of these digits. -/
def Holds (f : Field) (digits : List Char) (n : Int) : Prop :=
  ∃ value, attributeValue? f.key f.attributes = some value ∧ Leading value digits n

/-- The integer, if there is one, can be read and is at least one. -/
def Readable (f : Field) : Prop :=
  ∀ digits n, f.Holds digits n → digits.length ≤ Numeral.maxDigits ∧ 1 ≤ n

/-- The integer has too many digits. -/
def TooLong (f : Field) : Prop := ∃ digits n, f.Holds digits n ∧ Numeral.maxDigits < digits.length

end Field

/-- The numbers of the elements in a rack; a gap has none. -/
def childFields : List Node → List Field
  | [] => []
  | .text _ :: rest => childFields rest
  | .element name attributes _ :: rest =>
    if name.base = "gap".toList then childFields rest
    else ⟨"height", name, attributes⟩ :: ⟨"at", name, attributes⟩ :: childFields rest

/-- The numbers of the racks in a root. -/
def rootFields : List Node → List Field
  | [] => []
  | .text _ :: rest => rootFields rest
  | .element name attributes content :: rest =>
    if name.base = "rack".toList
    then ⟨"height", name, attributes⟩ :: (childFields content ++ rootFields rest)
    else rootFields rest

/-! ## Leading integers -/

theorem leadingInteger?_of_leading {blanks number rest digits : List Char} {n : Int}
    (hblanks : Blanks blanks) (h : Integer number digits n)
    (hrest : ∀ c ∈ rest.head?, isDigit c = false) :
    leadingInteger? (blanks ++ (number ++ rest)) = some number := by
  have hrun : (digits ++ rest).takeWhile isDigit = digits := takeWhile_run h.digits hrest
  unfold leadingInteger?
  rw [h.trimStart_eq hblanks]
  cases h with
  | unsigned hd =>
    obtain ⟨c, r, rfl⟩ := List.exists_cons_of_ne_nil hd.1
    have hplus : c ≠ '+' := fun hc => hd.head_ne (by decide) (congrArg some hc)
    have hminus : c ≠ '-' := fun hc => hd.head_ne (by decide) (congrArg some hc)
    rw [List.cons_append] at hrun
    simp only [List.cons_append, hplus, hminus, or_self, if_false, hrun]
  | plus hd =>
    obtain ⟨c, r, rfl⟩ := List.exists_cons_of_ne_nil hd.1
    simp only [List.cons_append, true_or, if_true]
    rw [← List.cons_append, hrun]
  | minus hd =>
    obtain ⟨c, r, rfl⟩ := List.exists_cons_of_ne_nil hd.1
    simp only [List.cons_append, or_true, if_true]
    rw [← List.cons_append, hrun]

/-- What is taken for the integer that a text starts with is one. -/
theorem leading_of_leadingInteger? {s number : List Char} (h : leadingInteger? s = some number) :
    ∃ digits n, Integer number digits n ∧ Leading s digits n := by
  have hrun : ∀ r : List Char, r.takeWhile isDigit ≠ [] → Numeral.Digits (r.takeWhile isDigit) :=
    fun r hr => ⟨hr, fun c hc => mem_takeWhile hc⟩
  have hsplit : ∀ r : List Char, r = r.takeWhile isDigit ++ r.dropWhile isDigit :=
    fun r => List.takeWhile_append_dropWhile.symm
  unfold leadingInteger? at h
  split at h
  case h_1 => cases h
  case h_2 c r hs =>
    obtain ⟨blanks, rfl, hblanks⟩ := eq_blanks_append hs
    -- what is left after the run of digits does not start with one
    have hleading : ∀ digits n, Integer number digits n →
        (∃ t : List Char, c :: r = number ++ t.dropWhile isDigit) → ∃ digits n,
          Integer number digits n ∧ Leading (blanks ++ c :: r) digits n := by
      intro digits n hint hr
      obtain ⟨t, hr⟩ := hr
      exact ⟨digits, n, hint, blanks, number, _, by rw [hr], hblanks, hint, head_dropWhile t⟩
    split at h
    case isTrue hsign =>
      split at h
      case h_1 => cases h
      case h_2 hne =>
        cases h
        have hd := hrun r hne
        have hr : c :: r = (c :: r.takeWhile isDigit) ++ r.dropWhile isDigit := by
          rw [List.cons_append, ← hsplit]
        rcases hsign with rfl | rfl
        · exact hleading _ _ (.plus hd) ⟨r, hr⟩
        · exact hleading _ _ (.minus hd) ⟨r, hr⟩
    case isFalse =>
      split at h
      case h_1 => cases h
      case h_2 hne =>
        cases h
        exact hleading _ _ (.unsigned (hrun _ hne)) ⟨c :: r, hsplit _⟩

/-! ## Attributes -/

section Attributes

variable {key : String} {element : Name} {attributes : List Attribute}

theorem integer?_of_leading {value digits : List Char} {n : Int}
    (hvalue : attributeValue? key attributes = some value) (h : Leading value digits n) :
    integer? key element attributes = if Numeral.maxDigits < digits.length
      then .error (.numeral (.tooLongToRead digits.length))
      else if n < 1 then .error (.tooLow key element.base value) else .ok (some n) := by
  obtain ⟨blanks, number, rest, rfl, hblanks, hint, hrest⟩ := h
  unfold integer?
  rw [hvalue]
  dsimp only
  rw [leadingInteger?_of_leading hblanks hint hrest]
  dsimp only
  rw [Numeral.read_of_integer hint]
  split
  · rfl
  · by_cases hlow : n < 1
    · rw [if_pos hlow]
      simp only [Except.mapError, bind, Except.bind, if_pos hlow]
      rfl
    · rw [if_neg hlow]
      simp only [Except.mapError, bind, Except.bind, if_neg hlow]
      rfl

theorem integer?_of_not_leading
    (h : ∀ value ∈ attributeValue? key attributes, ¬∃ digits n, Leading value digits n) :
    integer? key element attributes = .ok none := by
  unfold integer?
  cases hvalue : attributeValue? key attributes with
  | none => rfl
  | some value =>
    cases hs : leadingInteger? value with
    | none => simp only [hs]
    | some number =>
      obtain ⟨digits, n, _, hleading⟩ := leading_of_leadingInteger? hs
      exact absurd ⟨digits, n, hleading⟩ (h value hvalue)

theorem one_le_of_integer? {r : Option Int} (h : integer? key element attributes = .ok r) :
    ∀ n ∈ r, 1 ≤ n := by
  by_cases hleading : ∃ value ∈ attributeValue? key attributes, ∃ digits n, Leading value digits n
  · obtain ⟨value, hvalue, digits, m, hleading⟩ := hleading
    rw [integer?_of_leading hvalue hleading] at h
    split at h
    · cases h
    split at h
    · cases h
    · cases h
      intro n hn
      cases hn
      omega
  · rw [integer?_of_not_leading fun value hvalue hinteger => hleading ⟨value, hvalue, hinteger⟩] at h
    cases h
    exact fun n hn => nomatch hn

end Attributes

/-! ## Failures -/

namespace Field

variable {f : Field}

theorem read_of_not_holds (h : ¬∃ digits n, f.Holds digits n) : f.read = .ok none := by
  apply integer?_of_not_leading
  intro value hvalue hleading
  obtain ⟨digits, n, hleading⟩ := hleading
  exact h ⟨digits, n, value, hvalue, hleading⟩

theorem failure?_read_eq_none : failure? f.read = none ↔ f.Readable := by
  rw [failure?_eq_none]
  constructor
  · intro h digits n hholds
    obtain ⟨r, hr⟩ := h
    obtain ⟨value, hvalue, hleading⟩ := hholds
    rw [read, integer?_of_leading hvalue hleading] at hr
    split at hr
    · cases hr
    split at hr
    · cases hr
    · omega
  · intro h
    by_cases hholds : ∃ digits n, f.Holds digits n
    · obtain ⟨digits, n, value, hvalue, hleading⟩ := hholds
      obtain ⟨hshort, hn⟩ := h digits n ⟨value, hvalue, hleading⟩
      rw [read, integer?_of_leading hvalue hleading, if_neg (by omega), if_neg (by omega)]
      exact succeeds_ok _
    · rw [read_of_not_holds hholds]
      exact succeeds_ok _

theorem read_eq_numeral : (∃ fault, f.read = .error (.numeral fault)) ↔ f.TooLong := by
  constructor
  · intro h
    obtain ⟨fault, h⟩ := h
    by_cases hholds : ∃ digits n, f.Holds digits n
    · obtain ⟨digits, n, value, hvalue, hleading⟩ := hholds
      refine ⟨digits, n, ⟨value, hvalue, hleading⟩, ?_⟩
      rw [read, integer?_of_leading hvalue hleading] at h
      split at h
      case isTrue hlong => exact hlong
      case isFalse => split at h <;> cases h
    · rw [read_of_not_holds hholds] at h
      cases h
  · intro h
    obtain ⟨digits, n, ⟨value, hvalue, hleading⟩, hlong⟩ := h
    refine ⟨.tooLongToRead digits.length, ?_⟩
    rw [read, integer?_of_leading hvalue hleading, if_pos hlong]

end Field

/-- The first failure among attributes, in order. -/
def firstFailure (fields : List Field) : Option Error := fields.findSome? fun f => failure? f.read

theorem firstFailure_cons (f : Field) (fields : List Field) :
    firstFailure (f :: fields) = (failure? f.read).or (firstFailure fields) := by
  unfold firstFailure
  rw [List.findSome?_cons]
  cases failure? f.read <;> rfl

theorem failure?_device (name : Name) (attributes : List Attribute) (content : List Node) :
    failure? (device name attributes content) =
      firstFailure [⟨"height", name, attributes⟩, ⟨"at", name, attributes⟩] := by
  rw [firstFailure_cons, firstFailure_cons]
  unfold device
  apply failure?_bind
  intro height
  apply failure?_bind
  intro position
  rfl

theorem failure?_rackChildren (content : List Node) :
    failure? (rackChildren content) = firstFailure (childFields content) := by
  induction content with
  | nil => rfl
  | cons node rest ih =>
    cases node with
    | text s => exact ih
    | element name attributes inner =>
      unfold rackChildren childFields
      split
      · exact ih
      · -- both numbers of the element come before those of the elements after it
        rw [firstFailure_cons, firstFailure_cons, ← Option.or_assoc, ← ih]
        rw [failure?_bind fun d => failure?_bind_pure, failure?_device]
        rw [firstFailure_cons, firstFailure_cons]
        congr 1
        exact congrArg _ (Option.or_none)

theorem failure?_rack (name : Name) (attributes : List Attribute) (content : List Node) :
    failure? (rack name attributes content) =
      firstFailure (⟨"height", name, attributes⟩ :: childFields content) := by
  -- the height is read before the children, and fails before them
  rw [firstFailure_cons, ← failure?_rackChildren]
  unfold rack
  apply failure?_bind
  intro height
  exact failure?_bind_pure

theorem failure?_rootChildren (content : List Node) :
    failure? (rootChildren content) = firstFailure (rootFields content) := by
  induction content with
  | nil => rfl
  | cons node rest ih =>
    cases node with
    | text s => exact ih
    | element name attributes inner =>
      unfold rootChildren rootFields
      split
      · rw [← List.cons_append]
        unfold firstFailure at ih ⊢
        rw [List.findSome?_append, ← ih]
        rw [failure?_bind fun r => failure?_bind_pure, failure?_rack]
        rfl
      · exact ih

/-- Beyond its root, a tree fails only for its numbers. -/
theorem failure?_decode {name : Name} {attributes : List Attribute} {content : List Node}
    (h : name.base = "racks".toList) :
    failure? (decode (.element name attributes content)) = firstFailure (rootFields content) := by
  rw [decode, if_pos h, failure?_bind_pure, failure?_rootChildren]

/-! ## Bounds -/

theorem valid_of_device {name : Name} {attributes : List Attribute} {content : List Node} {d : Device}
    (h : device name attributes content = .ok d) : d.Valid := by
  obtain ⟨height, hheight, h⟩ := bind_eq_ok.1 h
  obtain ⟨position, hposition, h⟩ := bind_eq_ok.1 h
  cases h
  refine ⟨?_, one_le_of_integer? hposition⟩
  cases height with
  | none => exact Int.le_refl 1
  | some n => exact one_le_of_integer? hheight n rfl

theorem valid_of_rackChildren {content : List Node} {devices : List Device}
    (h : rackChildren content = .ok devices) : ∀ d ∈ devices, d.Valid := by
  induction content generalizing devices with
  | nil =>
    cases h
    exact fun d hd => nomatch hd
  | cons node rest ih =>
    cases node with
    | text s => exact ih h
    | element name attributes inner =>
      unfold rackChildren at h
      split at h
      · exact ih h
      · obtain ⟨d, hd, h⟩ := bind_eq_ok.1 h
        obtain ⟨ds, hds, h⟩ := bind_eq_ok.1 h
        cases h
        exact List.forall_mem_cons.2 ⟨valid_of_device hd, ih hds⟩

theorem valid_of_rack {name : Name} {attributes : List Attribute} {content : List Node} {r : Rack}
    (h : rack name attributes content = .ok r) : r.Valid := by
  obtain ⟨height, hheight, h⟩ := bind_eq_ok.1 h
  obtain ⟨devices, hdevices, h⟩ := bind_eq_ok.1 h
  cases h
  refine ⟨?_, valid_of_rackChildren hdevices⟩
  -- without a height the default stands in, which keeps the bound
  cases height with
  | none => exact Rack.valid_default.1
  | some n => exact one_le_of_integer? hheight n rfl

theorem valid_of_rootChildren {content : List Node} {racks : List Rack}
    (h : rootChildren content = .ok racks) : ∀ r ∈ racks, r.Valid := by
  induction content generalizing racks with
  | nil =>
    cases h
    exact fun r hr => nomatch hr
  | cons node rest ih =>
    cases node with
    | text s => exact ih h
    | element name attributes inner =>
      unfold rootChildren at h
      split at h
      · obtain ⟨r, hr, h⟩ := bind_eq_ok.1 h
        obtain ⟨rs, hrs, h⟩ := bind_eq_ok.1 h
        cases h
        exact List.forall_mem_cons.2 ⟨valid_of_rack hr, ih hrs⟩
      · exact ih h

theorem valid_of_decode {node : Node} {s : RackSet} (h : decode node = .ok s) : s.Valid := by
  cases node with
  | text => cases h
  | element name attributes content =>
    rw [decode] at h
    split at h
    · obtain ⟨racks, hracks, h⟩ := bind_eq_ok.1 h
      cases h
      exact valid_of_rootChildren hracks
    · cases h

end RackElevation.RackML
