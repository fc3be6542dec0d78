import RackElevation.Dialect
import RackElevation.Proofs.RackML.Overlong
import RackElevation.Proofs.RackText.Overlong

/-
  What becomes of a source

  A source that is no rack set is reported as a fault of the source, with a
  sentence and mostly a line. Long numerals are the exception: a numeral of more
  than 4300 digits that reading gets to fails in a way that no report covers,
  and nothing else does, in either dialect.

  What is proved:
    1. `read_or_diagnose_iff` — a source is read, with all bounds kept, or it is
       reported, exactly if reading does not stop at a long numeral.
    2. `tower_not_diagnosed` (anti-vacuity) — three plain lines that are neither
       read nor reported.
-/

namespace RackElevation.Source

open Text Outcome RackText.Grammar
open Numeral (Digits)

/-- Reading stops at a numeral of too many digits. -/
def Overlong : Dialect → String → Prop
  | .lines, text => RackText.Grammar.Overlong (kept text.toList)
  | .markup, text => RackML.Overlong text.toList

theorem lines_diagnostic?_isSome {e : RackText.Error} :
    (Error.lines e).diagnostic?.isSome = true ↔ ¬∃ fault, e = .numeral fault := by
  cases e <;> simp [Error.diagnostic?]

theorem markup_diagnostic?_isSome {e : RackML.Error} :
    (Error.markup e).diagnostic?.isSome = true ↔ ¬∃ fault, e = .numeral fault := by
  cases e <;> simp [Error.diagnostic?, RackML.Error.diagnostic?]

theorem read_valid {d : Dialect} {text : String} {s : RackSet} (h : read d text = .ok s) :
    s.Valid := by
  cases d with
  | lines => exact RackText.parse_valid (mapError_eq_ok.1 h)
  | markup => exact RackML.parse_valid (mapError_eq_ok.1 h)

/-- A source in a dialect that there is is read in it. -/
theorem parse_of_ofName? {dialect text : String} {d : Dialect}
    (h : Dialect.ofName? dialect = some d) : parse dialect text = read d text := by
  rw [parse, h]

theorem exists_dialect {dialect : String} (h : dialect ∈ Dialect.names) :
    ∃ d, Dialect.ofName? dialect = some d :=
  Option.isSome_iff_exists.1 ((Dialect.ofName?_isSome dialect).2 h)

theorem parse_valid {dialect text : String} {s : RackSet} (h : parse dialect text = .ok s) :
    s.Valid := by
  unfold parse at h
  split at h
  · exact read_valid h
  · cases h

/-- An error of a dialect goes without a report exactly if it is that of a numeral. -/
theorem not_diagnosed_mapError {ε : Type} {wrap : ε → Error} {numeral : Numeral.Fault → ε}
    (hreport : ∀ e, (wrap e).diagnostic?.isSome = true ↔ ¬∃ fault, e = numeral fault)
    {x : Except ε RackSet} :
    (∃ e, x.mapError wrap = .error e ∧ ¬e.diagnostic?.isSome = true) ↔
      ∃ fault, x = .error (numeral fault) := by
  constructor
  · intro h
    obtain ⟨_, herror, hsilent⟩ := h
    obtain ⟨e, he, rfl⟩ := mapError_eq_error.1 herror
    rw [hreport, not_not] at hsilent
    obtain ⟨fault, rfl⟩ := hsilent
    exact ⟨fault, he⟩
  · intro h
    obtain ⟨fault, h⟩ := h
    refine ⟨_, mapError_eq_error.2 ⟨_, h, rfl⟩, ?_⟩
    rw [hreport, not_not]
    exact ⟨fault, rfl⟩

theorem not_diagnosed_iff {d : Dialect} {text : String} :
    (∃ e, read d text = .error e ∧ ¬e.diagnostic?.isSome = true) ↔ Overlong d text := by
  cases d with
  | lines =>
    calc (∃ e, read .lines text = .error e ∧ ¬e.diagnostic?.isSome = true)
      _ ↔ RackText.Lengthy (RackText.parse text) :=
        not_diagnosed_mapError fun _ => lines_diagnostic?_isSome
      _ ↔ Overlong .lines text := RackText.lengthy_parse_iff
  | markup =>
    calc (∃ e, read .markup text = .error e ∧ ¬e.diagnostic?.isSome = true)
      _ ↔ RackML.Lengthy (RackML.parse text) :=
        not_diagnosed_mapError fun _ => markup_diagnostic?_isSome
      _ ↔ Overlong .markup text := RackML.lengthy_parse_iff

theorem read_or_diagnose_iff (d : Dialect) (text : String) :
    ((∃ s, read d text = .ok s ∧ s.Valid) ∨
      ∃ e, read d text = .error e ∧ e.diagnostic?.isSome = true) ↔ ¬Overlong d text := by
  rw [← not_diagnosed_iff]
  cases hread : read d text with
  | ok s =>
    refine iff_of_true (.inl ⟨s, rfl, read_valid hread⟩) ?_
    intro h
    obtain ⟨_, h, _⟩ := h
    cases h
  | error e =>
    simp only [Except.error.injEq, reduceCtorEq, false_and, exists_false, false_or,
      exists_eq_left', not_not]

/-! ## An exception -/

/-- A rack whose height has these digits. -/
def tower (digits : List Char) : String :=
  String.ofList (join '\n' ["caption: a".toList, "height: ".toList ++ digits, "items:".toList])

section Tower

variable {digits : List Char} (h : Digits digits)

include h

theorem whole_height : Whole ("height: ".toList ++ digits) := by
  refine ⟨List.append_ne_nil_of_right_ne_nil _ h.1, unbroken_append.2 ⟨by decide, h.unbroken⟩,
    h.trim_append ?_⟩
  intro c hc
  cases hc
  decide

theorem kept_tower : kept (tower digits).toList =
    ["caption: a".toList, "height: ".toList ++ digits, "items:".toList] := by
  rw [tower, String.toList_ofList]
  apply kept_join_whole (List.cons_ne_nil _ _)
  simp only [List.forall_mem_cons]
  refine ⟨⟨by decide, by decide, by decide⟩, whole_height h, ⟨by decide, by decide, by decide⟩, ?_⟩
  exact fun l hl => nomatch hl

/-- Three plain lines at which reading stops. -/
theorem overlong_tower (hlong : Numeral.maxDigits < digits.length) :
    Overlong .lines (tower digits) := by
  have htrim : trim (' ' :: digits) = digits := by
    rw [trim, trimStart, List.dropWhile_cons_of_pos (by decide)]
    exact h.trim_eq
  have hnumeral : HeightNumeral ("height: ".toList ++ digits) digits (Numeral.valueOf digits) := by
    refine ⟨' ' :: digits, rfl, ?_⟩
    rw [htrim]
    exact .unsigned h
  exact ⟨_, _, _, digits, _, kept_tower h, by decide, hnumeral, .inl hlong⟩

end Tower

theorem tower_not_diagnosed :
    ¬((∃ s, read .lines (tower (List.replicate 4301 '1')) = .ok s) ∨
      ∃ e, read .lines (tower (List.replicate 4301 '1')) = .error e ∧
        e.diagnostic?.isSome = true) := by
  have hdigits : Digits (List.replicate 4301 '1') := by
    refine ⟨by rw [Ne, List.replicate_eq_nil_iff]; decide, ?_⟩
    intro c hc
    rw [List.eq_of_mem_replicate hc]
    decide
  have hlong : Numeral.maxDigits < (List.replicate 4301 '1').length := by
    rw [List.length_replicate]
    decide
  obtain ⟨e, herror, hsilent⟩ := not_diagnosed_iff.2 (overlong_tower hdigits hlong)
  rw [herror]
  intro h
  rcases h with ⟨s, h⟩ | ⟨_, h, hreport⟩
  · cases h
  · cases h
    exact hsilent hreport

end RackElevation.Source
