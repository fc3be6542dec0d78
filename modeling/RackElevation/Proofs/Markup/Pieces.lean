import Mathlib.Data.List.Chain

/-
  Tags and character data

  A document is cut at its angle brackets: what stands between `<` and `>` is a
  tag, what stands between two tags is character data. The cut exists only if
  the brackets alternate, and then there is no other: an angle bracket can be
  nothing but the end of a tag.

  What is proved:
    1. `pieces_eq_some_iff` — the cut of a text is the only list of pieces that
       makes up the text.
    2. `pieces_tag`, `pieces_text` — a tag and the text before a tag are cut off
       whatever follows.
-/

namespace RackElevation.Markup

/-- A part of a document: what a tag holds, or text. -/
inductive Piece
  | tag (body : List Char)
  | text (content : List Char)
  deriving DecidableEq, Repr

/-- A piece as it stands in the document. -/
def Piece.write : Piece → List Char
  | .tag body => '<' :: (body ++ ['>'])
  | .text content => content

/-- Whether no angle bracket occurs in a text. -/
def Bracketless (s : List Char) : Prop := '<' ∉ s ∧ '>' ∉ s

/-- Text is cut off only where there is some. -/
def Piece.Proper : Piece → Prop
  | .tag body => Bracketless body
  | .text content => Bracketless content ∧ content ≠ []

/-- Of two neighbours at most one is text. -/
def Apart : Piece → Piece → Prop
  | .text _, .text _ => False
  | _, _ => True

/-- The pieces make up the text. -/
structure Cuts (s : List Char) (ps : List Piece) : Prop where
  whole : ps.flatMap Piece.write = s
  proper : ∀ p ∈ ps, p.Proper
  apart : ps.IsChain Apart

/-- What stands before the first angle bracket, and each bracket with what follows it. -/
def brackets : List Char → List Char × List (Char × List Char)
  | [] => ([], [])
  | c :: r =>
    if c = '<' ∨ c = '>' then ([], (c, (brackets r).1) :: (brackets r).2)
    else (c :: (brackets r).1, (brackets r).2)

/-- Text as a piece, if there is some. -/
def textPiece (s : List Char) : List Piece := if s.isEmpty then [] else [.text s]

/-- The pieces that start at each bracket, where brackets that open and brackets that close
alternate. -/
def tagsAndTexts : List (Char × List Char) → Option (List Piece)
  | [] => some []
  | ('<', body) :: ('>', content) :: rest =>
    (tagsAndTexts rest).map fun ps => .tag body :: (textPiece content ++ ps)
  | _ => none

/-- The pieces of a text. -/
def pieces (s : List Char) : Option (List Piece) :=
  (tagsAndTexts (brackets s).2).map (textPiece (brackets s).1 ++ ·)

/-! ## Cutting from the left -/

theorem Bracketless.append {s t : List Char} (hs : Bracketless s) (ht : Bracketless t) :
    Bracketless (s ++ t) := by
  simp_all [Bracketless]

theorem brackets_append {s : List Char} (h : Bracketless s) (r : List Char) :
    brackets (s ++ r) = (s ++ (brackets r).1, (brackets r).2) := by
  induction s with
  | nil => rfl
  | cons c s ih =>
    simp only [Bracketless, List.mem_cons, not_or] at h
    have hc : ¬(c = '<' ∨ c = '>') := fun e => e.elim (fun e => h.1.1 e.symm) (fun e => h.2.1 e.symm)
    rw [List.cons_append, brackets, if_neg hc, ih ⟨h.1.2, h.2.2⟩]
    rfl

theorem brackets_open (r : List Char) :
    brackets ('<' :: r) = ([], ('<', (brackets r).1) :: (brackets r).2) := rfl

theorem brackets_close (r : List Char) :
    brackets ('>' :: r) = ([], ('>', (brackets r).1) :: (brackets r).2) := rfl

theorem pieces_nil : pieces [] = some [] := rfl

theorem pieces_tag {body : List Char} (h : Bracketless body) (r : List Char) :
    pieces ('<' :: (body ++ '>' :: r)) = (pieces r).map (.tag body :: ·) := by
  simp only [pieces, brackets_open, brackets_append h, brackets_close, List.append_nil, tagsAndTexts]
  cases tagsAndTexts (brackets r).2 <;> rfl

theorem pieces_text {content : List Char} (h : Bracketless content) (r : List Char) :
    pieces (content ++ '<' :: r) = (pieces ('<' :: r)).map (textPiece content ++ ·) := by
  simp only [pieces, brackets_append h, brackets_open, List.append_nil, Option.map_map]
  rfl

theorem pieces_lastText {content : List Char} (h : Bracketless content) :
    pieces content = some (textPiece content) := by
  have hb := brackets_append h []
  rw [List.append_nil] at hb
  simp [pieces, hb, brackets, tagsAndTexts]

/-! ## There is one cut -/

theorem textPiece_write (s : List Char) : (textPiece s).flatMap Piece.write = s := by
  cases s with
  | nil => rfl
  | cons c s => simp [textPiece, Piece.write]

theorem mem_textPiece {s : List Char} {p : Piece} (h : p ∈ textPiece s) : p = .text s ∧ s ≠ [] := by
  cases s with
  | nil => simp [textPiece] at h
  | cons c s => simpa [textPiece] using h

theorem textPiece_of_ne_nil {s : List Char} (h : s ≠ []) : textPiece s = [.text s] := by
  cases s with
  | nil => exact absurd rfl h
  | cons c s => rfl

theorem brackets_bracketless (s : List Char) :
    Bracketless (brackets s).1 ∧ ∀ b ∈ (brackets s).2, Bracketless b.2 := by
  induction s with
  | nil => simp [brackets, Bracketless]
  | cons c s ih =>
    unfold brackets
    split
    · refine ⟨by simp [Bracketless], ?_⟩
      intro b hb
      rcases List.mem_cons.1 hb with rfl | hb
      · exact ih.1
      · exact ih.2 b hb
    · next hc =>
      refine ⟨?_, ih.2⟩
      have := ih.1
      simp only [Bracketless, List.mem_cons, not_or] at this ⊢
      exact ⟨⟨fun e => hc (.inl e.symm), this.1⟩, ⟨fun e => hc (.inr e.symm), this.2⟩⟩

theorem brackets_whole (s : List Char) :
    (brackets s).1 ++ (brackets s).2.flatMap (fun b => b.1 :: b.2) = s := by
  induction s with
  | nil => rfl
  | cons c s ih =>
    unfold brackets
    split
    · rw [List.flatMap_cons, List.nil_append, List.cons_append, ih]
    · rw [List.cons_append, ih]

/-- A text may stand before pieces that do not start with one. -/
theorem textPiece_apart {content : List Char} {ps : List Piece} (h : ps.IsChain Apart)
    (hhead : ∀ t, ps.head? ≠ some (.text t)) : (textPiece content ++ ps).IsChain Apart := by
  unfold textPiece
  split
  · exact h
  · refine List.isChain_cons.2 ⟨?_, h⟩
    intro q hq
    cases q with
    | tag _ => trivial
    | text t => exact absurd hq (hhead t)

theorem textPiece_proper {content : List Char} {ps : List Piece} (hcontent : Bracketless content)
    (h : ∀ p ∈ ps, p.Proper) : ∀ p ∈ textPiece content ++ ps, p.Proper := by
  intro p hp
  rcases List.mem_append.1 hp with hp | hp
  · obtain ⟨rfl, hne⟩ := mem_textPiece hp
    exact ⟨hcontent, hne⟩
  · exact h p hp

/-- The pieces from the first bracket on start with a tag. -/
theorem tagsAndTexts_cuts {bs : List (Char × List Char)} {ps : List Piece}
    (hb : ∀ b ∈ bs, Bracketless b.2) (h : tagsAndTexts bs = some ps) :
    Cuts (bs.flatMap fun b => b.1 :: b.2) ps ∧ ∀ t, ps.head? ≠ some (.text t) := by
  induction bs using tagsAndTexts.induct generalizing ps with
  | case1 =>
    simp only [tagsAndTexts, Option.some.injEq] at h
    subst h
    exact ⟨⟨rfl, by simp, by simp⟩, by simp⟩
  | case2 body content rest ih =>
    simp only [tagsAndTexts, Option.map_eq_some_iff] at h
    obtain ⟨qs, hq, rfl⟩ := h
    obtain ⟨hqs, hhead⟩ := ih (fun b h => hb b (by simp [h])) hq
    have hcontent : Bracketless content := hb ('>', content) (by simp)
    refine ⟨⟨?_, ?_, ?_⟩, by simp⟩
    · rw [List.flatMap_cons, List.flatMap_append, textPiece_write, hqs.whole]
      simp [Piece.write]
    · have hbody : (Piece.tag body).Proper := hb ('<', body) (by simp)
      exact List.forall_mem_cons.2 ⟨hbody, textPiece_proper hcontent hqs.proper⟩
    · exact List.isChain_cons.2 ⟨fun _ _ => trivial, textPiece_apart hqs.apart hhead⟩
  | case3 bs h1 h2 =>
    rw [tagsAndTexts] at h
    · simp at h
    · exact h1
    · exact h2

theorem cuts_of_pieces {s : List Char} {ps : List Piece} (h : pieces s = some ps) : Cuts s ps := by
  simp only [pieces, Option.map_eq_some_iff] at h
  obtain ⟨qs, hq, rfl⟩ := h
  obtain ⟨hfirst, hrest⟩ := brackets_bracketless s
  obtain ⟨hqs, hhead⟩ := tagsAndTexts_cuts hrest hq
  refine ⟨?_, textPiece_proper hfirst hqs.proper, textPiece_apart hqs.apart hhead⟩
  rw [List.flatMap_append, textPiece_write, hqs.whole, brackets_whole]

theorem pieces_of_cuts {s : List Char} {ps : List Piece} (h : Cuts s ps) : pieces s = some ps := by
  induction ps generalizing s with
  | nil =>
    rw [← h.whole]
    rfl
  | cons p ps ih =>
    obtain ⟨hwhole, hproper, hapart⟩ := h
    have hp : p.Proper := hproper p List.mem_cons_self
    have hps : pieces (ps.flatMap Piece.write) = some ps :=
      ih ⟨rfl, fun q hq => hproper q (List.mem_cons_of_mem p hq), (List.isChain_cons.1 hapart).2⟩
    rw [← hwhole, List.flatMap_cons]
    cases p with
    | tag body =>
      rw [Piece.write, List.cons_append, List.append_assoc, List.singleton_append,
        pieces_tag hp, hps]
      rfl
    | text content =>
      -- text is last or stands before a tag, so it ends where the pieces say
      rw [Piece.write]
      cases ps with
      | nil =>
        rw [List.flatMap_nil, List.append_nil, pieces_lastText hp.1, textPiece_of_ne_nil hp.2]
      | cons q qs =>
        cases q with
        | text t => exact absurd ((List.isChain_cons.1 hapart).1 _ rfl) (by simp [Apart])
        | tag body =>
          simp only [List.flatMap_cons, Piece.write, List.cons_append] at hps ⊢
          rw [pieces_text hp.1, hps, textPiece_of_ne_nil hp.2]
          rfl

theorem pieces_eq_some_iff {s : List Char} {ps : List Piece} : pieces s = some ps ↔ Cuts s ps :=
  ⟨cuts_of_pieces, pieces_of_cuts⟩

theorem existsUnique_cuts {s : List Char} {ps : List Piece} (h : pieces s = some ps) :
    ∃ qs, Cuts s qs ∧ ∀ rs, Cuts s rs → rs = qs := by
  refine ⟨ps, cuts_of_pieces h, ?_⟩
  intro rs hrs
  have := pieces_of_cuts hrs
  rw [h] at this
  exact (Option.some.inj this).symm

end RackElevation.Markup
