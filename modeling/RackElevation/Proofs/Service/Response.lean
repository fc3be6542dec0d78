import RackElevation.Proofs.Data.Json
import RackElevation.Proofs.Decimal.Literal
import RackElevation.Service

/-
  Refusals tell what they refuse

  A refusal is a JSON record of a sentence, with a line or without one. What it
  says can be read back from it, so refusals of different kinds differ, and so do
  two refusals of one kind with different sentences or lines.

  What is proved:
    1. `refusal_inj` — a refusal with a line determines its sentence and line.
    2. `refusal_ne_located` — a refusal without a line is none with one.
    3. `diagnostic_ne_tooHigh` — no fault of a source reads like the sentence for
       a rack that is too high.
-/

namespace RackElevation

open Text

namespace Json

theorem toList_write_sentence (key sentence : String) :
    (write (.record [(key, .text sentence)])).toList =
      '\x7b' :: ((quotedText key).toList ++ ':' :: ((quotedText sentence).toList ++ ['\x7d'])) := by
  have hfield : write (.record [(key, .text sentence)]) =
      "\x7b" ++ (quotedText key ++ ":" ++ quotedText sentence) ++ "\x7d" := by
    simp only [write, writeFields]
    rfl
  rw [hfield]
  simp only [String.toList_append]
  simp

theorem toList_write_located (key sentence place : String) (v : Json) :
    (write (.record [(key, .text sentence), (place, v)])).toList =
      '\x7b' :: ((quotedText key).toList ++ ':' :: ((quotedText sentence).toList ++
        ',' :: ((quotedText place).toList ++ ':' :: ((write v).toList ++ ['\x7d'])))) := by
  have hfields : write (.record [(key, .text sentence), (place, v)]) =
      "\x7b" ++ ((quotedText key ++ ":" ++ quotedText sentence) ++ "," ++
        (quotedText place ++ ":" ++ write v)) ++ "\x7d" := by
    simp only [write, writeFields]
    rfl
  rw [hfields]
  simp only [String.toList_append]
  simp

/-- No two lines are written alike, and none like the lack of one. -/
theorem ofInt?_inj {m n : Option Int} (h : write (ofInt? m) = write (ofInt? n)) : m = n := by
  have hnull : ∀ k : Int, toString k ≠ "null" := by
    intro k hk
    have hmem : 'n' ∈ (toString k).toList := by
      rw [hk]
      decide
    exact absurd (mem_toString_int hmem) (by decide)
  cases m with
  | none =>
    cases n with
    | none => rfl
    | some n => exact absurd h.symm (hnull n)
  | some m =>
    cases n with
    | none => exact absurd h (hnull m)
    | some n => rw [Numeral.eq_of_toString_eq h]

end Json

namespace Service

open Json

variable {status status' : Nat} {key place : String} {a b : String}

theorem write_of_refusal {fields fields' : List (String × Json)}
    (h : refusal status fields = refusal status' fields') :
    (write (.record fields)).toList = (write (.record fields')).toList := by
  have hbody := congrArg (fun r => r.body.toList) h
  simp only [refusal, Response.json, String.toList_append] at hbody
  exact List.append_cancel_right hbody

theorem refusal_inj {m n : Option Int}
    (h : refusal status [(key, .text a), (place, ofInt? m)] =
      refusal status' [(key, .text b), (place, ofInt? n)]) : a = b ∧ m = n := by
  have hwritten := write_of_refusal h
  rw [toList_write_located, toList_write_located] at hwritten
  obtain ⟨-, hrest⟩ := quotedText_append_inj (List.cons.inj hwritten).2
  obtain ⟨hsentence, hrest⟩ := quotedText_append_inj (List.cons.inj hrest).2
  obtain ⟨-, hrest⟩ := quotedText_append_inj (List.cons.inj hrest).2
  have hline := List.append_cancel_right (List.cons.inj hrest).2
  exact ⟨hsentence, ofInt?_inj (String.toList_inj.1 hline)⟩

theorem refusal_ne_located {v : Json} :
    refusal status [(key, .text a)] ≠ refusal status' [(key, .text b), (place, v)] := by
  intro h
  have hwritten := write_of_refusal h
  rw [toList_write_sentence, toList_write_located] at hwritten
  obtain ⟨-, hrest⟩ := quotedText_append_inj (List.cons.inj hwritten).2
  obtain ⟨-, hrest⟩ := quotedText_append_inj (List.cons.inj hrest).2
  -- the record ends where the line would begin
  exact absurd (List.cons.inj hrest).1 (by decide)

/-! ## Racks that are too high -/

theorem not_mem_tooHighText (height limit : Int) : 'u' ∉ (tooHighText height limit).toList := by
  have hnumber : ∀ n : Int, 'u' ∉ (toString n).toList :=
    fun n h => absurd (mem_toString_int h) (by decide)
  have hfirst : 'u' ∉ "rack height ".toList := by decide
  have hsecond : 'u' ∉ " exceeds limit of ".toList := by decide
  simp only [tooHighText, String.toList_append, List.mem_append, not_or]
  exact ⟨⟨⟨hfirst, hnumber height⟩, hsecond⟩, hnumber limit⟩

/-- A fault without a line is told with the word must, which no height is. -/
theorem diagnostic_ne_tooHigh {e : Source.Error} {d : Diagnostic} (h : e.diagnostic? = some d)
    (hline : d.line = none) (height limit : Int) : d.message ≠ tooHighText height limit := by
  suffices hmust : 'u' ∈ d.message.toList by
    intro hmessage
    rw [hmessage] at hmust
    exact not_mem_tooHighText height limit hmust
  cases e with
  | unknownDialect => cases h
  | lines e =>
    cases e with
    | format =>
      cases h
      cases hline
    | numeral => cases h
  | markup e =>
    cases e with
    | malformed =>
      cases h
      cases hline
    | notRacks =>
      cases h
      decide
    | tooLow key element value =>
      cases h
      have hmust : 'u' ∈ " must be at least 1 on <".toList := by decide
      simp only [String.toList_append, List.mem_append]
      exact .inl (.inl (.inl (.inr hmust)))
    | numeral => cases h

end Service

end RackElevation
