import RackElevation.Proofs.Xml.Trail.Growth

/-
  Blank text behind a document

  A document that is read is read in the same way with blank text behind it, up to
  the end of its root. What is left is the text behind the root, and there spaces,
  tabs and line breaks count for nothing and any other blank character is refused.

  What is proved:
    1. `readEpilog_more` — what stands behind the root.
    2. `readDocument_trail`, `parse_trail` — the document.
-/

namespace RackElevation.Xml

open Text Outcome

/-! ## Behind the root -/

theorem readEpilog_blanks {w : List Char} (hw : Blanks w) :
    readEpilog (marks w) = .ok () ↔ ∀ c ∈ w, isSpace c = true := by
  induction w with
  | nil => exact ⟨fun _ c hc => absurd hc List.not_mem_nil, fun _ => rfl⟩
  | cons c w ih =>
    have ih := ih fun d hd => hw d (List.mem_cons_of_mem c hd)
    rw [List.forall_mem_cons]
    by_cases hspace : isSpace c = true
    · rw [marks_space hspace, and_iff_right hspace, ← ih]
      exact Iff.rfl
    · have hrefused := refused_of_isBlank (hw c List.mem_cons_self) (Bool.eq_false_iff.2 hspace)
      rw [marks_invalid (markAt_refused hrefused w), readEpilog]
      constructor
      · intro h
        cases h
      · intro h
        exact absurd h.1 hspace

theorem readEpilog_more {w : List Char} (hw : Blanks w) {s : List Char}
    (h : readEpilog (marks s) = .ok ()) : readEpilog (marks (s ++ w)) = readEpilog (marks w) := by
  induction hn : s.length using Nat.strongRecOn generalizing s with
  | ind n ih =>
    subst hn
    cases s with
    | nil => rfl
    | cons c r =>
      have hsteady := steady_markAt hw c r
      rw [List.cons_append]
      generalize hx : markAt c r = x at hsteady
      generalize hy : markAt c (r ++ w) = y at hsteady
      cases hsteady with
      | @found mark rest _ hfound hrest hmore =>
        rw [marks_found hx, readEpilog] at h
        split at h
        · next hmark =>
          dsimp only at hmark
          subst hmark
          rw [hmore fun hloose => hloose.elim] at hy
          rw [marks_found hy, skip_append]
          exact ih _ (length_skip_lt c r _) h rfl
        · next hmark =>
          dsimp only at hmark
          subst hmark
          rw [hmore fun hloose => hloose.elim] at hy
          rw [marks_found hy, skip_append]
          exact ih _ (length_skip_lt c r _) h rfl
        · cases h
        · cases h
      | invalid hrest =>
        rw [marks_invalid hx] at h
        cases h
      | cutShort =>
        rw [marks_cutShort hx] at h
        cases h

/-! ## The document -/

/-- A document that is read is read with blank text behind it exactly if that is XML space, and then
it has the same root. -/
theorem readDocument_trail {w : List Char} (hw : Blanks w) {s : List Char} {root : Node}
    (h : readDocument s = .ok root) (root' : Node) :
    readDocument (s ++ w) = .ok root' ↔ (∀ c ∈ w, isSpace c = true) ∧ root' = root := by
  obtain ⟨⟨d, on⟩, hprolog, h⟩ := bind_eq_ok.1 h
  obtain ⟨p, hread, h⟩ := bind_eq_ok.1 h
  cases p with
  | inside frames => cases h
  | closed root₁ after =>
    obtain ⟨_, hepilog, h⟩ := bind_eq_ok.1 h
    cases h
    obtain ⟨_, hstart⟩ := readProlog_root (marks_within s) hprolog
    have hopen : OpensFirst (limitGrowth d (byteCount s) (tokens on)) [] :=
      opensFirst_limitGrowth (opensFirst_tokens hstart)
    have hcontinued : Continued w (limitGrowth d (byteCount s) (tokens on))
        (limitGrowth d (byteCount s + byteCount w) (tokens (on ++ w))) :=
      limitGrowth_continued d (tokens_continued hw on)
    have hroot := readTokens_continued (enterEntity_keeps d _ [])
      (fun name text place place' frames => enterEntity_place d _ [] name text place place' frames)
      hcontinued hopen hread
    have hdocument : readDocument (s ++ w) = readEpilog (marks w) >>= fun _ => .ok root := by
      unfold readDocument
      rw [readProlog_more hw hprolog, byteCount_append]
      dsimp only [bind, Except.bind]
      rw [hroot]
      dsimp only
      rw [readEpilog_more hw hepilog]
      rfl
    rw [hdocument, ← readEpilog_blanks hw, bind_eq_ok]
    constructor
    · intro h
      obtain ⟨_, hblanks, hsame⟩ := h
      cases hsame
      exact ⟨hblanks, rfl⟩
    · intro h
      obtain ⟨hblanks, rfl⟩ := h
      exact ⟨(), hblanks, rfl⟩

/-! ## Texts -/

theorem startsWithPair_append {w : List Char} (hw : Blanks w) {s : List Char}
    (h : startsWithPair s = false) : startsWithPair (s ++ w) = false := by
  have hzero : ∀ c ∈ w, c.toNat ≠ 0 := fun c hc => toNat_of_isBlank (hw c hc)
  rcases s with _ | ⟨c, _ | ⟨d, r⟩⟩
  · rcases w with _ | ⟨c, _ | ⟨d, r⟩⟩ <;> simp_all [startsWithPair]
  · cases w <;> simp_all [startsWithPair]
  · exact h

theorem unmarked_append {w : List Char} (hw : Blanks w) (s : List Char) :
    unmarked (s ++ w) = unmarked s ++ w := by
  cases s with
  | cons c r =>
    unfold unmarked
    rw [List.cons_append, List.head?_cons, List.head?_cons]
    split <;> rfl
  | nil =>
    refine if_neg fun hmark => ?_
    obtain ⟨r, rfl⟩ := List.head?_eq_some_iff.1 hmark
    have hblank := hw _ List.mem_cons_self
    revert hblank
    decide

theorem parse_trail {w : List Char} (hw : Blanks w) {s : List Char} (hs : startsWithPair s = false)
    {root : Node} (h : parse s = .ok root) (root' : Node) :
    parse (s ++ w) = .ok root' ↔ (∀ c ∈ w, isSpace c = true) ∧ root' = root := by
  rw [parse_eq_ok hs] at h
  rw [parse_eq_ok (startsWithPair_append hw hs), unmarked_append hw, readDocument_trail hw h]

end RackElevation.Xml
