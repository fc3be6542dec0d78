import RackElevation.Proofs.Xml.Lexeme
import RackElevation.Xml.Prolog

/-
  Marks and the text around them

  What holds of lexemes holds of the marks before and after the root element: a
  mark that is found is the same with more blank text behind. A name or a text in
  quotes may end with the document, so it counts as the same only if something
  is left behind it. The marks of a text are then those of the text with blanks
  behind, one by one, up to the last.

  What is proved:
    1. `steady_nameMark`, `steady_literalUpTo`, `steady_openingMark`,
       `steady_instructionMark`, `steady_markAt` — the marks.
    2. `marks_found`, `marks_invalid`, `marks_cutShort` — the first mark of a
       text, and the marks of what it leaves.
    3. `marks_within` — each mark and all texts in it lie in the text.
-/

namespace RackElevation.Xml

open Text

/-- The texts in a mark go on behind it. -/
def Mark.more (w : List Char) : Mark → Mark
  | .declaration body rest => .declaration body (rest ++ w)
  | .literal value valueEnd => .literal value (valueEnd ++ w)
  | m => m

/-- A mark beside the root tag and the declaration of the document, the places in it in a text of so
many characters. -/
def Mark.Within (n : Nat) : Mark → Prop
  | .literal value valueEnd => value.length + valueEnd.length ≤ n
  | .broken _ on => on.length ≤ n
  | .rootTag | .declaration .. => False
  | _ => True

/-- A text that starts with the tag of an element. -/
def RootStart (on : List Char) : Prop :=
  ∃ c r, on = '<' :: c :: r ∧ (isNameStart c = true ∨ 0x80 ≤ c.toNat)

/-- What is found at a text may be found there, the places in it in a text of so many characters. -/
inductive Mark.FoundAt (n : Nat) (on : List Char) : Mark → Prop
  | within {m : Mark} (h : m.Within n) : FoundAt n on m
  | rootTag (h : RootStart on) : FoundAt n on .rootTag
  | declaration {body rest : List Char} (h : body.length + 2 + rest.length ≤ n)
      (hword : ['<', '?', 'x', 'm', 'l'] <+: on) : FoundAt n on (.declaration body rest)

/-- A mark that may end with the document. -/
def Mark.Loose : Mark → Prop
  | .literal .. | .name .. | .countedName | .hashName _ | .closeParen .. => True
  | _ => False

theorem Mark.Within.mono {m n : Nat} {mark : Mark} (h : mark.Within m) (hle : m ≤ n) :
    mark.Within n := by
  cases mark with
  | literal | broken => exact Nat.le_trans h hle
  | rootTag | declaration => exact h
  | _ => trivial

theorem Mark.FoundAt.mono {m n : Nat} {on : List Char} {mark : Mark} (h : mark.FoundAt m on)
    (hle : m ≤ n) : mark.FoundAt n on := by
  cases h with
  | within h => exact .within (h.mono hle)
  | rootTag h => exact .rootTag h
  | declaration h hword => exact .declaration (Nat.le_trans h hle) hword

/-! ## Names and texts in quotes -/

section Marks

variable {w : List Char}

theorem steady_nameRest (kind : NameKind) (s : List Char) :
    (nameRest kind s).Steady (fun _ => True) w id (fun _ _ => True) s (nameRest kind (s ++ w)) := by
  induction s generalizing kind with
  | nil => exact .found trivial (List.suffix_refl _) fun h => absurd rfl (h trivial)
  | cons c r ih =>
    have hnext : ∀ k (f : NameKind × List Char × Bool → NameKind × List Char × Bool),
        ((nameRest k r).map f).Steady (fun _ => True) w id (fun _ _ => True) (c :: r)
          ((nameRest k (r ++ w)).map f) :=
      fun k f => ((ih k).within (List.suffix_cons c r)).mapLoose (fun _ => rfl) (fun _ _ h => h)
        fun _ h => h
    rw [List.cons_append, nameRest.eq_def kind (c :: r), nameRest.eq_def kind (c :: (r ++ w))]
    dsimp only
    split
    · exact hnext kind _
    split
    · cases kind with
      | plain =>
        cases r with
        | nil => exact .cutShort
        | cons d t => exact hnext _ _
      | qualified => exact hnext .token _
      | token => exact hnext .token _
    split
    · exact .same trivial (List.suffix_refl _)
    split
    · exact .same trivial (List.suffix_cons c r)
    · exact .invalid (List.suffix_refl _)

theorem steady_nameMark (c : Char) (r : List Char) :
    (nameMark c r).Steady Mark.Loose w (Mark.more w) (fun m _ => m.Within (c :: r).length) (c :: r)
      (nameMark c (r ++ w)) := by
  unfold nameMark
  split
  · refine ((steady_nameRest _ r).within (List.suffix_cons c r)).mapLoose ?_ ?_ ?_
    · intro (kind, n, counted)
      cases counted <;> rfl
    · intro (kind, n, counted) _ _
      cases counted <;> trivial
    · intro (kind, n, counted) _
      cases counted <;> trivial
  · exact .invalid (List.suffix_refl _)

theorem steady_literalUpTo (quote : Char) (s : List Char) :
    (literalUpTo quote s).Steady (fun _ => True) w (fun p => (p.1, p.2 ++ w))
      (fun p _ => p.1.length + p.2.length ≤ s.length) s (literalUpTo quote (s ++ w)) := by
  induction s with
  | nil => exact .cutShort
  | cons c r ih =>
    rw [List.cons_append, literalUpTo.eq_def quote (c :: r), literalUpTo.eq_def quote (c :: (r ++ w))]
    dsimp only
    split
    · cases r with
      | nil => exact .found (by simp) (List.nil_suffix) fun h => absurd rfl (h trivial)
      | cons d t =>
        rw [List.cons_append]
        dsimp only
        split
        · exact .same (by simp) (List.suffix_cons c _)
        · exact .invalid (List.suffix_cons c _)
    split
    · refine (ih.within (List.suffix_cons c r)).mapLoose (fun _ => rfl) ?_ fun _ h => h
      intro (v, e) _ h
      rw [List.length_cons, List.length_cons, Nat.add_right_comm]
      exact Nat.succ_le_succ h
    · exact .invalid (List.suffix_refl _)

theorem steady_literal (quote : Char) (r : List Char) :
    ((literalUpTo quote r).map fun (v, e) => Mark.literal v e).Steady Mark.Loose w (Mark.more w)
      (fun m _ => m.Within (quote :: r).length) (quote :: r)
      ((literalUpTo quote (r ++ w)).map fun (v, e) => Mark.literal v e) :=
  ((steady_literalUpTo quote r).within (List.suffix_cons quote r)).mapLoose (fun _ => rfl)
    (fun _ _ h => Nat.le_succ_of_le h) fun _ _ => trivial

variable (hw : Blanks w)

include hw

theorem steady_percentMark (s : List Char) :
    (percentMark s).Steady Mark.Loose w (Mark.more w) (fun m _ => m.Within s.length) s
      (percentMark (s ++ w)) := by
  cases s with
  | nil => exact .cutShort
  | cons c r =>
    rw [List.cons_append, percentMark, percentMark]
    split
    · exact .same trivial (List.suffix_refl _)
    · refine (steady_takeName hw (c :: r)).bind fun _ rest _ _ => ?_
      split
      · exact .cutShort
      · exact .same trivial (List.suffix_cons ';' _)
      · exact .invalid (List.suffix_refl _)

theorem steady_hashMark (s : List Char) :
    (hashMark s).Steady Mark.Loose w (Mark.more w) (fun m _ => m.Within s.length) s
      (hashMark (s ++ w)) := by
  refine (steady_takeName hw s).bind fun name rest _ _ => ?_
  cases rest with
  | nil => exact .found trivial (List.suffix_refl _) fun h => absurd rfl (h trivial)
  | cons c r =>
    dsimp only [List.cons_append]
    split
    · exact .same trivial (List.suffix_refl _)
    · exact .invalid (List.suffix_refl _)

/-! ## Markup -/

theorem steady_openingMark (s : List Char) :
    (openingMark s).Steady Mark.Loose w (Mark.more w) (fun m _ => m.Within s.length) s
      (openingMark (s ++ w)) := by
  unfold openingMark
  split
  · exact .cutShort
  · next r =>
    exact ((steady_comment hw r).within (List.suffix_cons '-' r)).map (fun _ => rfl)
      fun _ _ _ => trivial
  · next r => exact .same trivial (List.suffix_cons '[' r)
  · next c r hdash hbracket =>
    show Lex.Steady _ w _ _ _ _ (openingMark (c :: (r ++ w)))
    rw [openingMark.eq_4 c (r ++ w) hdash hbracket]
    split
    · exact .invalid (List.suffix_refl _)
    dsimp only
    cases hrest : r.dropWhile isKeywordChar with
    | nil => exact .cutShort
    | cons d t =>
      have hs := (suffix_of_dropWhile hrest).trans (List.suffix_cons c r)
      rw [dropWhile_ended hrest, takeWhile_ended hrest, ← List.cons_append]
      generalize d :: t = u at hs
      split
      · exact .cutShort
      · exact .cutShort
      · next d t =>
        dsimp only [List.cons_append]
        by_cases hnext : (isSpace d || d == '%') = true
        · rw [if_pos hnext]
          exact .invalid hs
        · rw [if_neg hnext]
          exact .found trivial hs fun _ => if_neg hnext
      · next d t hone htwo =>
        have hd : d ≠ '%' := by
          rintro rfl
          cases t with
          | nil => exact hone rfl rfl
          | cons e t => exact htwo e t rfl rfl
        split
        · next hspace =>
          refine .found trivial hs fun _ => ?_
          split
          · next heq => cases heq
          · next heq => exact absurd (List.cons.inj heq).1 hd
          · next heq => exact absurd (List.cons.inj heq).1 hd
          · next heq =>
            cases heq
            exact if_pos hspace
        · exact .invalid hs

theorem steady_instructionMark (s : List Char) :
    (instructionMark s).Steady Mark.Loose w (Mark.more w)
      (fun m _ => m.FoundAt s.length ('<' :: '?' :: s)) s (instructionMark (s ++ w)) := by
  have hbody : ∀ rest : List Char, rest.length + 2 ≤ s.length →
      ((s ++ w).drop 3).take ((s ++ w).length - 3 - (rest ++ w).length - 2) =
        (s.drop 3).take (s.length - 3 - rest.length - 2) := by
    intro rest hrest
    rw [List.length_append, List.length_append]
    by_cases hlong : 3 ≤ s.length
    · have hlength : s.length + w.length - 3 - (rest.length + w.length) - 2 =
          s.length - 3 - rest.length - 2 := by omega
      have htake : s.length - 3 - rest.length - 2 ≤ (s.drop 3).length := by
        rw [List.length_drop]
        omega
      rw [hlength, List.drop_append_of_le_length hlong, List.take_append_of_le_length htake]
    · have hnone : s.length - 3 - rest.length - 2 = 0 := by omega
      have hnone' : s.length + w.length - 3 - (rest.length + w.length) - 2 = 0 := by omega
      rw [hnone, hnone']
      rfl
  have hsteady := steady_instruction hw s
  unfold instructionMark
  generalize instruction s = x at hsteady
  cases hsteady with
  | @found isDeclaration rest y hfound hrest hy =>
    obtain ⟨hlength, hword⟩ := hfound
    rw [hy False.elim]
    dsimp only [id]
    rw [hbody rest hlength]
    split
    · next hdeclaration =>
      refine .same (.declaration ?_ ?_) hrest
      · rw [List.length_take, List.length_drop]
        omega
      · obtain ⟨u, rfl⟩ := hword hdeclaration
        exact ⟨u, rfl⟩
    · exact .same (.within trivial) hrest
  | invalid hrest => exact .invalid hrest
  | cutShort => exact .cutShort

theorem steady_tagMark (r : List Char) :
    (tagMark ('<' :: r) r).Steady Mark.Loose w (Mark.more w)
      (fun m _ => m.FoundAt ('<' :: r).length ('<' :: r)) ('<' :: r)
      (tagMark ('<' :: (r ++ w)) (r ++ w)) := by
  have hr := List.suffix_cons '<' r
  unfold tagMark
  split
  · exact .cutShort
  · next r =>
    exact ((steady_openingMark hw r).within ((List.suffix_cons '!' r).trans hr)).mono
      fun _ _ h => .within (h.mono (Nat.le_add_right _ 2))
  · next r =>
    exact ((steady_instructionMark hw r).within ((List.suffix_cons '?' r).trans hr)).mono
      fun _ _ h => h.mono (Nat.le_add_right _ 2)
  · next c t hbang hquestion =>
    show Lex.Steady _ w _ _ _ _ (tagMark _ (c :: (t ++ w)))
    rw [tagMark.eq_4 _ c (t ++ w) hbang hquestion]
    split
    · next hstart => exact .same (.rootTag ⟨c, t, rfl, hstart⟩) (List.suffix_refl _)
    · exact .invalid hr

omit hw in
theorem steady_closeParenMark (s : List Char) :
    (closeParenMark s).Steady Mark.Loose w (Mark.more w) (fun m _ => m.Within s.length) s
      (closeParenMark (s ++ w)) := by
  unfold closeParenMark
  split
  · exact .found trivial (List.suffix_refl _) fun h => absurd rfl (h trivial)
  · next r => exact .same trivial (List.suffix_cons '*' r)
  · next r => exact .same trivial (List.suffix_cons '?' r)
  · next r => exact .same trivial (List.suffix_cons '+' r)
  · next c r hstar hquestion hplus =>
    show Lex.Steady _ w _ _ _ _ (closeParenMark (c :: (r ++ w)))
    rw [closeParenMark.eq_5 c (r ++ w) hstar hquestion hplus]
    split
    · exact .same trivial (List.suffix_refl _)
    · exact .invalid (List.suffix_refl _)

/-- A bracket that does not start the end of a section does not with blanks behind. -/
theorem sectionEnd_more {r : List Char} (hend : ∀ t, r = ']' :: '>' :: t → False) (u : List Char)
    (hu : r ++ w = ']' :: '>' :: u) : False := by
  have hfirst := head_more (c := ']') (s := r) hw (by decide) (by rw [hu]; rfl)
  obtain ⟨t, rfl⟩ := List.head?_eq_some_iff.1 hfirst
  have htail : t ++ w = '>' :: u := (List.cons.inj hu).2
  have hsecond := head_more (c := '>') (s := t) hw (by decide) (by rw [htail]; rfl)
  obtain ⟨t, rfl⟩ := List.head?_eq_some_iff.1 hsecond
  exact hend t rfl

theorem lastBracket_more {r : List Char} (hlast : r = [']'] → False) (hu : r ++ w = [']']) :
    False := by
  have hfirst := head_more (c := ']') (s := r) hw (by decide) (by rw [hu]; rfl)
  obtain ⟨t, rfl⟩ := List.head?_eq_some_iff.1 hfirst
  exact hlast (by rw [(List.append_eq_nil_iff.1 (List.cons.inj hu).2).1])

theorem steady_markAt (c : Char) (r : List Char) :
    (markAt c r).Steady Mark.Loose w (Mark.more w) (fun m _ => m.FoundAt (c :: r).length (c :: r))
      (c :: r) (markAt c (r ++ w)) := by
  have hr := List.suffix_cons c r
  have hlonger : ∀ (m : Mark) (rest : List Char), m.Within r.length →
      m.FoundAt (c :: r).length (c :: r) :=
    fun m _ h => .within (h.mono (Nat.le_succ _))
  unfold markAt
  split
  · exact (steady_literal '"' r).mono fun _ _ => .within
  · exact (steady_literal '\'' r).mono fun _ _ => .within
  · exact steady_tagMark hw r
  · exact ((steady_percentMark hw r).within hr).mono hlonger
  · exact .same (.within trivial) hr
  · exact .same (.within trivial) hr
  · next r => exact .same (.within trivial) ((List.suffix_append [']', '>'] r).trans hr)
  · exact .cutShort
  · next hend hlast =>
    show Lex.Steady _ w _ _ _ _ (markAt ']' (r ++ w))
    rw [markAt.eq_9 (r ++ w) (sectionEnd_more hw hend) (lastBracket_more hw hlast)]
    exact .same (.within trivial) hr
  · exact .same (.within trivial) hr
  · exact ((steady_closeParenMark r).within hr).mono hlonger
  · exact .same (.within trivial) hr
  · exact .same (.within trivial) hr
  · exact ((steady_hashMark hw r).within hr).mono hlonger
  · next h1 h2 h3 h4 h5 h6 h7 h8 h9 h10 h11 h12 _ _ =>
    show Lex.Steady _ w _ _ _ _ (markAt c (r ++ w))
    rw [markAt.eq_15 c (r ++ w) h1 h2 h3 h4 h5 h6 h7 h8 h9 h10 h11 h12 (fun _ h => (h7 h).elim)
      fun h => (h7 h).elim]
    split
    · exact .same (.within trivial) hr
    · exact (steady_nameMark c r).mono fun _ _ => .within

end Marks

/-! ## All marks of a text -/

section All

variable {c : Char} {r : List Char}

theorem marks_found {mark : Mark} {rest : List Char} (h : markAt c r = .found mark rest) :
    marks (c :: r) = ⟨c :: r, mark⟩ :: marks (r.drop (r.length - rest.length)) := by
  rw [marks, walk_cons, h]
  rfl

theorem marks_invalid {on : List Char} (h : markAt c r = .invalid on) :
    marks (c :: r) = [⟨c :: r, .broken .invalidToken on⟩] := by
  rw [marks, walk_cons, h]
  dsimp only
  rw [List.drop_length]
  rfl

theorem marks_cutShort (h : markAt c r = .cutShort) :
    marks (c :: r) = [⟨c :: r, .broken .unclosedToken (c :: r)⟩] := by
  rw [marks, walk_cons, h]
  dsimp only
  rw [List.drop_length]
  rfl

/-- Each mark lies in the text, with all its places. -/
theorem marks_within (s : List Char) :
    ∀ p ∈ marks s, p.on.length ≤ s.length ∧ p.mark.FoundAt s.length p.on := by
  refine walk_forall fun c r hcr => ?_
  have hlength := hcr.length_le
  have hsteady := steady_markAt blanks_nil c r
  generalize markAt c r = x at hsteady
  cases hsteady with
  | found hmark _ _ => exact ⟨hlength, hmark.mono hlength⟩
  | invalid hrest => exact ⟨hlength, .within (Nat.le_trans hrest.length_le hlength)⟩
  | cutShort => exact ⟨hlength, .within hlength⟩

end All

end RackElevation.Xml
