import RackElevation.Proofs.Xml.Trail.Content

/-
  Blank text behind a document: all tokens in turn

  The tokens of a document are those of the longer text up to the end of the root,
  or to one that stops reading. How far entities may grow depends on the size of
  what is read, which is larger by the blank text wherever it is looked at, so the
  limit comes at the same token.

  What is proved:
    1. `tokens_continued` — the tokens of a longer text.
    2. `limitTokens_continued`, `limitGrowth_continued` — the limit to growth.
    3. `readTokens_continued` — reading up to the end of the root.
-/

namespace RackElevation.Xml

open Text Outcome

/-! ## The tokens of a longer text -/

/-- Tokens beside those of the text with `w` behind: the same, further from the end, up to the end or
to one that stops reading. -/
inductive Continued (w : List Char) : List Token → List Token → Prop
  | nil {us : List Token} : Continued w [] us
  | cons {t : Token} {ts us : List Token} (h : Continued w ts us)
      (hafter : (us.head?.map Token.on).getD [] = (ts.head?.map Token.on).getD [] ++ w) :
      Continued w (t :: ts) (t.more w :: us)
  | broken {on : List Char} {fault : Fault} {at' : List Char} {ts us : List Token} :
      Continued w (⟨on, .broken fault at'⟩ :: ts) us
  | finalBreak {on : List Char} {ts us : List Token} : Continued w (⟨on, .finalBreak⟩ :: ts) us

theorem head_tokens (s : List Char) : ((tokens s).head?.map Token.on).getD [] = s := by
  cases s with
  | nil => rfl
  | cons c r => rw [tokens_cons]; rfl

theorem tokens_continued {w : List Char} (hw : Blanks w) (s : List Char) :
    Continued w (tokens s) (tokens (s ++ w)) := by
  induction hn : s.length using Nat.strongRecOn generalizing s with
  | ind n ih =>
    subst hn
    cases s with
    | nil => exact .nil
    | cons c r =>
      have hcontent := contentAt_goesOn hw c r
      rw [List.cons_append, tokens_cons, tokens_cons]
      generalize contentAt c r = x, contentAt c (r ++ w) = y at hcontent
      cases hcontent with
      | @same content rest _ hrest =>
        dsimp only
        rw [skip_append]
        refine .cons (t := ⟨c :: r, content⟩) (ih _ (length_skip_lt c r _) _ rfl) ?_
        rw [head_tokens, head_tokens]
      | broken => exact .broken
      | finalBreak => exact .finalBreak

theorem tokenGrowth_more (ws : Weights) (w : List Char) (t : Token) :
    tokenGrowth ws (t.more w) = tokenGrowth ws t := by
  obtain ⟨on, content⟩ := t
  cases content with
  | openTag tag =>
    show ((tag.more w).attributes).foldl _ 0 = _
    rw [RawTag.more, List.foldl_map]
    rfl
  | _ => rfl

theorem growsTooFar_more (size grown : Nat) (after w : List Char) :
    growsTooFar (size + byteCount w) grown (after ++ w) = growsTooFar size grown after := by
  rw [growsTooFar, growsTooFar, byteCount_append, Nat.add_sub_add_right]

theorem head_limitTokens (ws : Weights) (size grown : Nat) (ts : List Token) :
    (limitTokens ws size grown ts).head?.map Token.on = ts.head?.map Token.on := by
  cases ts with
  | nil => rfl
  | cons t rest =>
    rw [limitTokens]
    split
    · rfl
    · split <;> rfl

theorem limitTokens_continued (ws : Weights) {w : List Char} {size grown : Nat} {ts us : List Token}
    (h : Continued w ts us) :
    Continued w (limitTokens ws size grown ts) (limitTokens ws (size + byteCount w) grown us) := by
  induction h generalizing grown with
  | nil => exact .nil
  | @cons t ts us h hafter ih =>
    have hhead : ∀ size' grown', ((limitTokens ws size' grown' us).head?.map Token.on).getD [] =
        ((limitTokens ws size grown' ts).head?.map Token.on).getD [] ++ w := by
      intro size' grown'
      rw [head_limitTokens, head_limitTokens, hafter]
    rw [limitTokens, limitTokens, tokenGrowth_more, hafter]
    cases tokenGrowth ws t with
    | zero => exact .cons ih (hhead _ _)
    | succ n =>
      dsimp only
      rw [growsTooFar_more]
      split
      · exact .broken
      · exact .cons ih (hhead _ _)
  | broken => exact .broken
  | finalBreak => exact .finalBreak

theorem limitGrowth_continued (d : Doctype) {w : List Char} {size : Nat} {ts us : List Token}
    (h : Continued w ts us) :
    Continued w (limitGrowth d size ts) (limitGrowth d (size + byteCount w) us) := by
  unfold limitGrowth
  split
  · exact h
  · exact limitTokens_continued _ h

/-- The root of a longer text is the same, and what follows it is longer. -/
theorem readTokens_continued {d : Doctype} {opened : List (List Char)}
    {enter : List Char → List Char → Nat → List Frame → Except Failure Progress}
    (henter : EntersKeeping enter)
    (hplace : ∀ name text place place' frames,
      SameResult (enter name text place frames) (enter name text place' frames))
    {w on : List Char} {ts us : List Token} {frames : List Frame} {root : Node}
    (h : Continued w ts us) (hopen : OpensFirst ts frames)
    (hread : readTokens d opened .document enter ts frames = .ok (.closed root on)) :
    readTokens d opened .document enter us frames = .ok (.closed root (on ++ w)) := by
  induction h generalizing frames with
  | nil => cases hread
  | broken => cases hread
  | finalBreak => cases hread
  | @cons t ts us h hafter ih =>
    rw [readTokens] at hread ⊢
    cases hfirst : readToken d opened .document enter t ((ts.head?.map Token.on).getD []) frames with
    | error f =>
      rw [hfirst] at hread
      cases hread
    | ok q =>
      have hkeeps : ∀ name text place p, t.content = .reference (.entity name) →
          enter name text place frames = .ok p → p.more w = p := by
        intro name text place p hcontent hp
        have hframes : frames ≠ [] := by
          rcases hopen with hframes | hfirst
          · exact hframes
          · rcases hfirst t rfl with ⟨tag, htag⟩ | ⟨fault, at', hbroken⟩
            · rw [hcontent] at htag
              cases htag
            · rw [hcontent] at hbroken
              cases hbroken
        cases p with
        | inside => rfl
        | closed => exact (henter name text place frames _ hframes hp).elim
      have hmore := readToken_more .document hkeeps
        (fun name text place place' => hplace name text place place' frames) hfirst
      have hq := readToken_document henter hopen hfirst
      rw [hfirst] at hread
      rw [hafter, hmore]
      cases q with
      | inside frames => exact ih (.inl hq) hread
      | closed root after =>
        cases hread
        rfl

end RackElevation.Xml
