import RackElevation.Proofs.Xml.Lead

/-
  Blank text behind a document: before its root

  What stands before the root is read in the same way with blank text behind the
  document: a mark is the same, only further from the end, and so is what follows
  from it. Where something stands matters to faults alone, so a step with a result
  has the same result at another place.

  What is proved:
    1. `SameResult.bind`, `SameResult.foldlM` — one step after another.
    2. `attributeValue_place`, `entityText_place` — values.
    3. `step_more`, `readProlog_more` — the marks before the root.
-/

namespace RackElevation.Xml

open Text Outcome

/-! ## Results -/

/-- What has a result has the same one. -/
def SameResult {α : Type} (x y : Except Failure α) : Prop := ∀ a, x = .ok a → y = .ok a

namespace SameResult

variable {α β : Type}

theorem refl (x : Except Failure α) : SameResult x x := fun _ h => h

theorem error (f : Failure) (y : Except Failure α) : SameResult (.error f) y :=
  fun _ h => nomatch h

theorem bind {x y : Except Failure α} {f g : α → Except Failure β} (hx : SameResult x y)
    (hf : ∀ a, x = .ok a → SameResult (f a) (g a)) : SameResult (x >>= f) (y >>= g) := by
  intro b hb
  obtain ⟨a, ha, hb⟩ := bind_eq_ok.1 hb
  exact bind_eq_ok.2 ⟨a, hx a ha, hf a ha b hb⟩

theorem ite {c : Prop} [Decidable c] {x x' y y' : Except Failure α} (hx : SameResult x x')
    (hy : SameResult y y') : SameResult (if c then x else y) (if c then x' else y') := by
  split
  · exact hx
  · exact hy

theorem foldlM {f g : β → α → Except Failure β} (h : ∀ b a, SameResult (f b a) (g b a)) (l : List α)
    (b : β) : SameResult (l.foldlM f b) (l.foldlM g b) := by
  induction l generalizing b with
  | nil => exact refl _
  | cons a l ih =>
    rw [List.foldlM_cons, List.foldlM_cons]
    exact (h b a).bind fun b' _ => ih b'

theorem mapM {f g : α → Except Failure β} (h : ∀ a, SameResult (f a) (g a)) (l : List α) :
    SameResult (l.mapM f) (l.mapM g) := by
  intro r hr
  rw [mapM_eq_ok] at hr ⊢
  exact hr.imp fun a b hb => h a b hb

/-- A fault is told in another place. -/
theorem mapError {ε : Type} (x : Except ε α) (f g : ε → Failure) :
    SameResult (x.mapError f) (x.mapError g) := by
  intro a ha
  rw [mapError_eq_ok] at ha ⊢
  exact ha

end SameResult

/-! ## Values -/

theorem appendPart_place (d : Doctype) (isCdata : Bool) (opened : List (List Char)) (p p' : Placing)
    {enter enter' : List Char → List Char → List Char → Except Failure (List Char)}
    (henter : ∀ name inner out, SameResult (enter name inner out) (enter' name inner out))
    (out : List Char) (part : List Char × ValuePart) :
    SameResult (appendPart d isCdata opened p enter out part)
      (appendPart d isCdata opened p' enter' out part) := by
  unfold appendPart
  split
  · exact .refl _
  · exact .refl _
  · exact .error _ _
  · exact .error _ _
  · exact .refl _
  · split
    · exact .refl _
    · exact .ite (.error _ _) (.refl _)
    · refine .ite (.error _ _) ?_
      split
      · exact .error _ _
      · exact .error _ _
      · exact henter _ _ _

theorem appendValue_place (d : Doctype) (isCdata : Bool) (depth : Nat) (opened : List (List Char))
    (p p' : Placing) (out text : List Char) :
    SameResult (appendValue d isCdata depth opened p out text)
      (appendValue d isCdata depth opened p' out text) := by
  induction depth generalizing opened p p' out text with
  | zero =>
    exact .foldlM (appendPart_place d isCdata opened p p' fun _ _ _ => .error _ _) _ out
  | succ depth ih =>
    refine .foldlM (appendPart_place d isCdata opened p p' fun name inner out => ?_) _ out
    exact ih _ _ _ out inner

theorem attributeValue_place (d : Doctype) (isCdata : Bool) (opened : List (List Char))
    (p p' : Placing) (text : List Char) :
    SameResult (attributeValue d isCdata opened p text) (attributeValue d isCdata opened p' text) :=
  (appendValue_place d isCdata _ opened p p' [] text).bind fun _ _ => .refl _

theorem entityText_place (p p' : Placing) (text : List Char) :
    SameResult (entityText p text) (entityText p' text) :=
  (SameResult.mapM (fun part => .mapError part _ _) _).bind fun _ _ => .refl _

/-! ## Before the root -/

theorem checkPublicId_place (value valueEnd valueEnd' : List Char) :
    SameResult (checkPublicId value valueEnd) (checkPublicId value valueEnd') := by
  unfold checkPublicId
  split
  · exact .refl _
  · exact .error _ _

theorem addDefault_place (d : Doctype) (a : AttributeTarget) (isCdata : Bool) (place place' : Nat)
    (value valueEnd valueEnd' : List Char) :
    SameResult (d.addDefault a isCdata place value valueEnd)
      (d.addDefault a isCdata place' value valueEnd') :=
  .ite ((attributeValue_place d isCdata [] _ _ value).bind fun _ _ => .refl _) (.refl _)

/-- A mark that holds no text from further on. -/
def Mark.Bare : Mark → Prop
  | .literal .. | .declaration .. => False
  | _ => True

theorem Mark.eq_of_more {w : List Char} {m m' : Mark} (hbare : m'.Bare) (h : m.more w = m') :
    m = m' := by
  subst h
  cases m with
  | literal | declaration => exact hbare.elim
  | _ => rfl

section Step

variable (d : Doctype) (e : Expect) (place place' : Nat)

theorem step_literal (value valueEnd valueEnd' : List Char) :
    SameResult (step d e place (.literal value valueEnd)) (step d e place' (.literal value valueEnd')) := by
  cases e with
  | doctypePublicId | entityPublicId | notePublicId =>
    exact (checkPublicId_place value valueEnd valueEnd').bind fun _ _ => .refl _
  | entityValue t => exact .ite ((entityText_place _ _ value).bind fun _ _ => .refl _) (.refl _)
  | attributeDefault a isCdata | fixedDefault a isCdata =>
    exact (addDefault_place d a isCdata place place' value valueEnd valueEnd').bind fun _ _ => .refl _
  | doctypeSystemId | entitySystemId | noteSystemId | noteEnd => exact .refl _
  | _ => exact .error _ _

theorem step_declaration (body rest rest' : List Char) :
    SameResult (step d e place (.declaration body rest)) (step d e place' (.declaration body rest')) := by
  cases e with
  | start =>
    rw [step.eq_3, step.eq_3]
    cases isStandalone body with
    | ok standalone => exact .refl _
    | error on => exact .error _ _
  | _ => exact .error _ _

theorem step_bare {m : Mark} (hbare : m.Bare) :
    SameResult (step d e place m) (step d e place' m) := by
  generalize hy : step d e place' m = y
  unfold step
  split
  · subst hy
    exact .refl _
  · next hstart =>
    rw [← hy, step.eq_2 d e place' hstart]
    exact .refl _
  · exact hbare.elim
  · exact hbare.elim
  · exact hbare.elim
  · subst hy
    exact .refl _
  · subst hy
    exact .refl _
  · exact hbare.elim
  · exact hbare.elim
  · exact hbare.elim
  · subst hy
    exact .refl _
  · exact hbare.elim
  · next a isCdata word =>
    subst hy
    refine .ite (.refl _) ?_
    cases follow (.attributeDefault a isCdata) (.hashName word) with
    | some e => exact .refl _
    | none => exact .error _ _
  · exact hbare.elim
  · exact hbare.elim
  · exact .error _ _
  · next h1 h2 h3 h4 h5 h6 h7 h8 h9 h10 h11 h12 h13 h14 h15 h16 =>
    rw [← hy, step.eq_17 d e place' m h1 h2 h3 h4 h5 h6 h7 h8 h9 h10 h11 h12 h13 h14 h15 h16]
    cases follow e m with
    | some e => exact .refl _
    | none => exact .error _ _

/-- A mark further from the end is read the same. -/
theorem step_more (w : List Char) (m : Mark) :
    SameResult (step d e place m) (step d e place' (m.more w)) := by
  cases m with
  | literal value valueEnd => exact step_literal d e place place' value valueEnd _
  | declaration body rest => exact step_declaration d e place place' body rest _
  | _ => exact step_bare d e place place' trivial

end Step

/-- The root is reached at the first mark, or after a step. -/
theorem readProlog_cons {d d' : Doctype} {e : Expect} {p : Placed} {rest : List Placed} {on : List Char}
    (h : readProlog d e (p :: rest) = .ok (d', on)) :
    (p.mark = .rootTag ∧ e.allowsRoot = true ∧ d = d' ∧ p.on = on) ∨
    (p.mark = .rootTag → e.allowsRoot = false) ∧ ∃ d₁ e₁,
      step d e p.on.length p.mark = .ok (d₁, e₁) ∧ readProlog d₁ e₁ rest = .ok (d', on) := by
  rw [readProlog] at h
  split at h
  · next hmark hroot =>
    cases h
    exact .inl ⟨hmark, hroot, rfl, rfl⟩
  · next hno =>
    split at h
    · next d₁ e₁ hstep => exact .inr ⟨fun hmark => by simpa using hno hmark, d₁, e₁, hstep, h⟩
    · cases h

theorem readProlog_root_mark {d : Doctype} {e : Expect} {p : Placed} {rest : List Placed}
    (hmark : p.mark = .rootTag) (hroot : e.allowsRoot = true) :
    readProlog d e (p :: rest) = .ok (d, p.on) := by
  rw [readProlog, hmark, hroot]

theorem readProlog_step {d d₁ : Doctype} {e e₁ : Expect} {p : Placed} {rest : List Placed}
    (hroot : p.mark = .rootTag → e.allowsRoot = false)
    (hstep : step d e p.on.length p.mark = .ok (d₁, e₁)) :
    readProlog d e (p :: rest) = readProlog d₁ e₁ rest := by
  rw [readProlog]
  split
  · next hmark hallows =>
    rw [hroot hmark] at hallows
    cases hallows
  · rw [hstep]

/-- What stands before the root is the same with blanks behind the document. -/
theorem readProlog_more {w : List Char} (hw : Blanks w) {s on : List Char} {d d' : Doctype} {e : Expect}
    (h : readProlog d e (marks s) = .ok (d', on)) :
    readProlog d e (marks (s ++ w)) = .ok (d', on ++ w) := by
  induction hn : s.length using Nat.strongRecOn generalizing s d e with
  | ind n ih =>
    subst hn
    cases s with
    | nil => cases h
    | cons c r =>
      have hsteady := steady_markAt hw c r
      rw [List.cons_append]
      generalize hx : markAt c r = x at hsteady
      generalize hy : markAt c (r ++ w) = y at hsteady
      cases hsteady with
      | @found mark rest _ hfound hrest hmore =>
        have hskip := suffix_of_skip hrest
        rw [marks_found hx] at h
        rcases readProlog_cons h with ⟨hmark, hroot, rfl, rfl⟩ | ⟨hroot, d₁, e₁, hstep, h⟩
        · dsimp only at hmark
          subst hmark
          rw [hmore fun hloose => hloose.elim] at hy
          rw [marks_found hy]
          exact readProlog_root_mark rfl hroot
        · -- the root is behind the mark, so the mark does not end the text
          have hleft : rest ≠ [] := by
            rintro rfl
            rw [List.suffix_nil.1 hskip] at h
            cases h
          rw [hmore fun _ => hleft] at hy
          rw [marks_found hy, skip_append]
          rw [readProlog_step _ (step_more d e _ _ w mark _ hstep)]
          · exact ih _ (length_skip_lt c r _) h rfl
          · exact fun hmark => hroot (mark.eq_of_more trivial hmark)
      | invalid hrest =>
        rw [marks_invalid hx, readProlog] at h
        simp only [step_broken] at h
        cases h
      | cutShort =>
        rw [marks_cutShort hx, readProlog] at h
        simp only [step_broken] at h
        cases h

end RackElevation.Xml
