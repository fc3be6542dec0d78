import RackElevation.Proofs.RackML.Fields

/-
  Long numerals in RackML

  An integer of more than 4300 digits is not read, and what comes of it is no
  fault of the document. It shows only where reading gets that far: in a
  well-formed document with a root `racks`, on the first of its attributes that
  cannot be read.

  What is proved:
    1. `lengthy_parse_iff` — the documents that fail for a numeral, exactly.
    2. `parse_valid` — a rack set that is read keeps its bounds.
-/

namespace RackElevation.RackML

open Text Xml Outcome

/-- The first attribute of the document that cannot be read has too many digits. -/
def Overlong (s : List Char) : Prop :=
  ∃ name attributes content before f after,
    Xml.parse (document s) = .ok (.element name attributes content) ∧
    name.base = "racks".toList ∧ rootFields content = before ++ f :: after ∧
    (∀ g ∈ before, g.Readable) ∧ f.TooLong

/-- A numeral was too long to be read. -/
def Lengthy {α : Type} (x : Except Error α) : Prop := ∃ fault, x = .error (.numeral fault)

theorem lengthy_iff_failure? {α : Type} {x : Except Error α} :
    Lengthy x ↔ ∃ fault, failure? x = some (.numeral fault) := by
  simp only [Lengthy, failure?_eq_some]

theorem lengthy_firstFailure_iff {fields : List Field} :
    (∃ fault, firstFailure fields = some (.numeral fault)) ↔ ∃ before f after,
      fields = before ++ f :: after ∧ (∀ g ∈ before, g.Readable) ∧ f.TooLong := by
  simp only [firstFailure, List.findSome?_eq_some_iff, Field.failure?_read_eq_none, failure?_eq_some]
  constructor
  · intro h
    obtain ⟨fault, before, f, after, hfields, hf, hbefore⟩ := h
    exact ⟨before, f, after, hfields, hbefore, Field.read_eq_numeral.1 ⟨fault, hf⟩⟩
  · intro h
    obtain ⟨before, f, after, hfields, hbefore, hf⟩ := h
    obtain ⟨fault, hf⟩ := Field.read_eq_numeral.2 hf
    exact ⟨fault, before, f, after, hfields, hf, hbefore⟩

theorem lengthy_decode_iff {node : Node} :
    Lengthy (decode node) ↔ ∃ name attributes content before f after,
      node = .element name attributes content ∧ name.base = "racks".toList ∧
      rootFields content = before ++ f :: after ∧ (∀ g ∈ before, g.Readable) ∧ f.TooLong := by
  cases node with
  | text s => exact iff_of_false (fun h => nomatch h) (by simp)
  | element name attributes content =>
    by_cases hname : name.base = "racks".toList
    · rw [lengthy_iff_failure?, failure?_decode hname, lengthy_firstFailure_iff]
      constructor
      · intro h
        obtain ⟨before, f, after, h⟩ := h
        exact ⟨name, attributes, content, before, f, after, rfl, hname, h⟩
      · intro h
        obtain ⟨_, _, _, before, f, after, hnode, _, h⟩ := h
        cases hnode
        exact ⟨before, f, after, h⟩
    · refine iff_of_false ?_ ?_
      · intro h
        obtain ⟨fault, h⟩ := h
        rw [decode, if_neg hname] at h
        cases h
      · intro h
        obtain ⟨_, _, _, _, _, _, hnode, hroot, _⟩ := h
        cases hnode
        exact hname hroot

theorem lengthy_parse_iff {text : String} : Lengthy (parse text) ↔ Overlong text.toList := by
  unfold parse Overlong
  cases Xml.parse (document text.toList) with
  | error fault =>
    refine iff_of_false ?_ (by simp)
    intro h
    obtain ⟨_, h⟩ := h
    cases h
  | ok root =>
    simp only [Except.ok.injEq]
    exact lengthy_decode_iff

theorem parse_valid {text : String} {s : RackSet} (h : parse text = .ok s) : s.Valid := by
  obtain ⟨root, _, h⟩ := bind_eq_ok.1 h
  exact valid_of_decode h

end RackElevation.RackML
