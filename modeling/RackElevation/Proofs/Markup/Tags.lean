import RackElevation.Proofs.Text.Escaping
import RackElevation.Proofs.Text.Runs
import RackElevation.Svg.Node

/-
  Reading tags

  A tag opens an element, closes one, or is an element by itself. The first and
  the last kind have attributes, each after a blank and with its value in double
  quotes; what a reader knows of a value is what its entities stand for.

  What is proved:
    1. `mark?_writeInner`, `mark?_empty`, `mark?_end` — a tag is read as it was
       written, if its names are names and its values were escaped.
-/

namespace RackElevation.Markup

open Text Svg

/-- A name and the text that its value stands for. -/
abbrev Pair := String × List Char

/-- What a tag says. -/
inductive Mark
  | opens (name : String) (attributes : List Pair)
  | closes (name : String)
  | stands (name : String) (attributes : List Pair)
  deriving DecidableEq, Repr

/-- Whether a character may stand in a name. -/
def isNameChar (c : Char) : Bool := c.isAlphanum || c == '-' || c == ':'

/-- Whether a text is a name. -/
def isName (s : List Char) : Bool := !s.isEmpty && s.all isNameChar

/-- The attributes that follow the name of a tag, and whether a slash ends the tag. -/
def attributes? (s : List Char) : Option (List Pair × Bool) :=
  match s with
  | [] => some ([], false)
  | ['/'] => some ([], true)
  | ' ' :: r =>
    match _hn : cut '=' r with
    | (name, some ('"' :: q)) =>
      match _hv : cut '"' q with
      | (value, some rest) =>
        if isName name then do
          let value ← Entity.unescape value
          let (others, stands) ← attributes? rest
          return ((String.ofList name, value) :: others, stands)
        else none
      | _ => none
    | _ => none
  | _ => none
termination_by s.length
decreasing_by
  have h1 := length_of_cut (c := '=') (s := r) (r := '"' :: q) (by rw [_hn])
  have h2 := length_of_cut (c := '"') (s := q) (r := rest) (by rw [_hv])
  simp only [List.length_cons] at h1 ⊢
  omega

/-- What a tag says, given what stands between its brackets. -/
def mark? (body : List Char) : Option Mark :=
  match body with
  | '/' :: name => if isName name then some (.closes (String.ofList name)) else none
  | body =>
    let name := body.takeWhile isNameChar
    if name.isEmpty then none
    else match attributes? (body.dropWhile isNameChar) with
      | some (attributes, false) => some (.opens (String.ofList name) attributes)
      | some (attributes, true) => some (.stands (String.ofList name) attributes)
      | none => none

/-- Whether written text was made by escaping. -/
def Escaped (s : List Char) : Prop := ∃ t, s = Entity.escape t

/-- An attribute that can be read back: its name is a name and its value was escaped. -/
structure Readable (a : Svg.Attribute) : Prop where
  name : isName a.name.toList = true
  value : Escaped a.value

/-- A tag that can be read back. -/
structure Legible (t : Tag) : Prop where
  name : isName t.name.toList = true
  attributes : ∀ a ∈ t.attributes, Readable a

/-- The text that written text stands for, nothing if it stands for none. -/
def meaning (s : List Char) : List Char := (Entity.unescape s).getD []

/-- What is read of an attribute. -/
def pair (a : Svg.Attribute) : Pair := (a.name, meaning a.value)

theorem unescape_of_escaped {s : List Char} (h : Escaped s) :
    Entity.unescape s = some (meaning s) := by
  obtain ⟨t, rfl⟩ := h
  simp [meaning, Entity.unescape_escape]

theorem Escaped.bracketless {s : List Char} (h : Escaped s) : '<' ∉ s ∧ '>' ∉ s ∧ '"' ∉ s := by
  obtain ⟨t, rfl⟩ := h
  exact ⟨Entity.not_mem_escape t (by simp), Entity.not_mem_escape t (by simp),
    Entity.not_mem_escape t (by simp)⟩

theorem isNameChar_of_mem {s : List Char} (h : isName s = true) {c : Char} (hc : c ∈ s) :
    isNameChar c = true := by
  simp only [isName, Bool.and_eq_true, List.all_eq_true] at h
  exact h.2 c hc

/-- A character that no name holds is not in a name. -/
theorem not_mem_of_isName {s : List Char} {c : Char} (h : isName s = true)
    (hc : isNameChar c = false) : c ∉ s := by
  intro hm
  rw [isNameChar_of_mem h hm] at hc
  exact Bool.noConfusion hc

theorem attributes?_cons {a : Svg.Attribute} (h : Readable a) (r : List Char) :
    attributes? (a.write ++ r) = (attributes? r).map fun p => (pair a :: p.1, p.2) := by
  have hkey : cut '=' (a.name.toList ++ '=' :: '"' :: (a.value ++ '"' :: r)) =
      (a.name.toList, some ('"' :: (a.value ++ '"' :: r))) :=
    cut_append _ (not_mem_of_isName h.name (by decide))
  have hvalue : cut '"' (a.value ++ '"' :: r) = (a.value, some r) :=
    cut_append _ h.value.bracketless.2.2
  have hwrite : a.write ++ r = ' ' :: (a.name.toList ++ '=' :: '"' :: (a.value ++ '"' :: r)) := by
    simp [Svg.Attribute.write]
  -- the key ends at the first equals sign and the value at the quote after it
  rw [hwrite, attributes?]
  split
  · next name q hcut =>
    rw [hkey] at hcut
    simp only [Prod.mk.injEq, Option.some.injEq, List.cons.injEq, true_and] at hcut
    obtain ⟨rfl, rfl⟩ := hcut
    split
    · next value rest hcut =>
      rw [hvalue] at hcut
      simp only [Prod.mk.injEq, Option.some.injEq] at hcut
      obtain ⟨rfl, rfl⟩ := hcut
      rw [if_pos h.name, unescape_of_escaped h.value, String.ofList_toList]
      cases attributes? r <;> rfl
    · next hne => exact absurd hvalue (hne _ _)
  · next hne => exact absurd hkey (hne _ _)

theorem attributes?_flatMap {l : List Svg.Attribute} (h : ∀ a ∈ l, Readable a) (r : List Char) :
    attributes? (l.flatMap Svg.Attribute.write ++ r) =
      (attributes? r).map fun p => (l.map pair ++ p.1, p.2) := by
  induction l with
  | nil => simp
  | cons a l ih =>
    have ih := ih fun b hb => h b (List.mem_cons_of_mem a hb)
    rw [List.flatMap_cons, List.append_assoc, attributes?_cons (h a List.mem_cons_self), ih]
    cases attributes? r <;> rfl

/-- What follows the name of a tag starts with no name character. -/
theorem not_isNameChar_head {t : Tag} {r : List Char} (hr : ∀ c ∈ r.head?, isNameChar c = false) :
    ∀ c ∈ (t.attributes.flatMap Svg.Attribute.write ++ r).head?, isNameChar c = false := by
  cases ht : t.attributes with
  | nil => exact hr
  | cons a l =>
    intro c hc
    have : c = ' ' := by simpa [Svg.Attribute.write, eq_comm] using hc
    subst this
    decide

/-- The body of a start tag, or of a tag that stands alone, with a tail that is read as `stands`. -/
theorem mark?_append {t : Tag} (h : Legible t) (r : List Char) (stands : Bool)
    (hr : ∀ c ∈ r.head?, isNameChar c = false) (hread : attributes? r = some ([], stands)) :
    mark? (t.writeInner ++ r) = some (if stands then .stands t.name (t.attributes.map pair)
      else .opens t.name (t.attributes.map pair)) := by
  have hname : ∀ c ∈ t.name.toList, isNameChar c = true := fun c hc => isNameChar_of_mem h.name hc
  have htake := takeWhile_run hname (not_isNameChar_head (t := t) hr)
  have hdrop := dropWhile_run hname (not_isNameChar_head (t := t) hr)
  have hattributes := attributes?_flatMap h.attributes r
  rw [hread] at hattributes
  have hne : t.name.toList ≠ [] := by
    intro hnil
    have := h.name
    rw [hnil] at this
    exact Bool.noConfusion this
  rw [Tag.writeInner, List.append_assoc, mark?]
  · simp only [htake, hdrop, hattributes, String.ofList_toList, List.isEmpty_iff, hne]
    cases stands <;> simp
  · -- a name does not start with a slash, so the body is not that of an end tag
    intro name hslash
    cases hs : t.name.toList with
    | nil => exact hne hs
    | cons c s =>
      rw [hs, List.cons_append] at hslash
      have hc := isNameChar_of_mem h.name (c := c) (by rw [hs]; exact List.mem_cons_self)
      rw [(List.cons.inj hslash).1] at hc
      exact Bool.noConfusion hc

theorem mark?_writeInner {t : Tag} (h : Legible t) :
    mark? t.writeInner = some (.opens t.name (t.attributes.map pair)) := by
  have := mark?_append h [] false (by simp) (by rw [attributes?])
  simpa using this

theorem mark?_empty {t : Tag} (h : Legible t) :
    mark? (t.writeInner ++ ['/']) = some (.stands t.name (t.attributes.map pair)) := by
  have := mark?_append h ['/'] true (by simp [isNameChar]) (by rw [attributes?])
  simpa using this

theorem mark?_end {t : Tag} (h : Legible t) :
    mark? ('/' :: t.name.toList) = some (.closes t.name) := by
  simp [mark?, h.name]

end RackElevation.Markup
