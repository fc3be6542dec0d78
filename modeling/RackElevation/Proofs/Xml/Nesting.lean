import RackElevation.Proofs.Outcome
import RackElevation.Proofs.Xml.Tokens
import RackElevation.Xml.Document

/-
  Entities and open elements

  What an entity stands for has to be balanced by itself. However its content is
  read, the elements that were open before are open after it, so an entity never
  closes the root element.

  What is proved:
    1. `readToken_keeps`, `readTokens_keeps` — one token of an entity, and all.
    2. `enterEntity_keeps` — whole entities, with those that they refer to.
    3. `readToken_document` — a token of the document closes the root where the
       next token starts, or leaves an element open.
    4. `opensFirst_limitGrowth` — what is read from the root on starts with its tag.
-/

namespace RackElevation.Xml

open Outcome

/-- At least so many elements are open. -/
def Progress.Keeps (depth : Nat) : Progress → Prop
  | .inside frames => depth ≤ frames.length
  | .closed .. => False

/-- Entering an entity inside an element keeps the elements that are open. -/
def EntersKeeping (enter : List Char → List Char → Nat → List Frame → Except Failure Progress) : Prop :=
  ∀ name text place frames p, frames ≠ [] → enter name text place frames = .ok p →
    p.Keeps frames.length

theorem addText_length (s : List Char) (frames : List Frame) :
    (addText s frames).length = frames.length := by
  cases frames <;> rfl

theorem addNode_keeps {n : Node} {on : List Char} {depth : Nat} {frames : List Frame}
    (hdepth : 0 < depth) (h : depth ≤ frames.length) : (addNode n on frames).Keeps depth := by
  cases frames with
  | nil => exact absurd h (Nat.not_le_of_lt hdepth)
  | cons f outer => exact h

section Entity

variable {d : Doctype} {opened : List (List Char)} {depth place : Nat} {frames : List Frame}
  {p : Progress} {on after : List Char}
  {enter : List Char → List Char → Nat → List Frame → Except Failure Progress}

theorem openElement_keeps {level : Level} {tag : RawTag} (hdepth : 0 < depth)
    (hframes : depth ≤ frames.length) (h : openElement d opened level on tag after frames = .ok p) :
    p.Keeps depth := by
  obtain ⟨⟨scope, name, attributes⟩, _, h⟩ := bind_eq_ok.1 h
  dsimp only at h
  split at h
  · cases h
    exact addNode_keeps hdepth hframes
  · cases h
    exact Nat.le_succ_of_le hframes

theorem closeElement_keeps {name : List Char} (hdepth : 0 < depth) (hframes : depth ≤ frames.length)
    (h : closeElement (.entity depth place) on name after frames = .ok p) : p.Keeps depth := by
  unfold closeElement at h
  dsimp only at h
  split at h
  · next f outer =>
    split at h
    · cases h
    next houtermost =>
    split at h
    · cases h
      refine addNode_keeps hdepth ?_
      rw [beq_iff_eq, List.length_cons] at houtermost
      rw [List.length_cons] at hframes
      omega
    · cases h
  · cases h

theorem readToken_keeps (henter : EntersKeeping enter) {t : Token} (hdepth : 0 < depth)
    (hframes : depth ≤ frames.length)
    (h : readToken d opened (.entity depth place) enter t after frames = .ok p) : p.Keeps depth := by
  have htext : ∀ s, (Progress.inside (addText s frames)).Keeps depth := by
    intro s
    rw [Progress.Keeps, addText_length]
    exact hframes
  unfold readToken at h
  dsimp only at h
  split at h
  · cases h
    exact htext _
  · cases h
    exact htext _
  · cases h
    exact htext _
  · cases h
    exact hframes
  · cases h
  · cases h
  · cases h
  · cases h
    exact htext _
  · split at h
    · cases h
      exact htext _
    · cases h
    · split at h
      · cases h
      split at h
      · cases h
      · cases h
      · have hne : frames ≠ [] := List.ne_nil_of_length_pos (Nat.lt_of_lt_of_le hdepth hframes)
        have hkeeps := henter _ _ _ _ _ hne h
        cases p with
        | inside frames' => exact Nat.le_trans hframes hkeeps
        | closed => exact hkeeps
  · exact openElement_keeps hdepth hframes h
  · exact closeElement_keeps hdepth hframes h

theorem readTokens_keeps (henter : EntersKeeping enter) {ts : List Token} (hdepth : 0 < depth)
    (hframes : depth ≤ frames.length)
    (h : readTokens d opened (.entity depth place) enter ts frames = .ok p) : p.Keeps depth := by
  induction ts generalizing frames with
  | nil =>
    rw [readTokens, finish] at h
    split at h
    · cases h
      exact hframes
    · cases h
  | cons t rest ih =>
    rw [readTokens] at h
    cases hread : readToken d opened (.entity depth place) enter t
        ((rest.head?.map Token.on).getD []) frames with
    | error f =>
      rw [hread] at h
      cases h
    | ok q =>
      have hq := readToken_keeps henter hdepth hframes hread
      rw [hread] at h
      cases q with
      | inside frames' => exact ih hq h
      | closed => exact hq.elim

end Entity

/-- An entity keeps the elements that are open, however deep its references go. -/
theorem enterEntity_keeps (d : Doctype) (depth : Nat) (opened : List (List Char)) :
    EntersKeeping (enterEntity d depth opened) := by
  induction depth generalizing opened with
  | zero =>
    intro name text place frames p _ h
    cases h
  | succ depth ih =>
    intro name text place frames p hne h
    exact readTokens_keeps (ih _) (List.length_pos_iff.2 hne) (Nat.le_refl _) h

/-! ## The document -/

/-- A token that opens an element, or that cannot be read. -/
def Token.OpensFirst (t : Token) : Prop :=
  (∃ tag, t.content = .openTag tag) ∨ ∃ fault on, t.content = .broken fault on

/-- Elements are open, or the next token opens one. -/
def OpensFirst (ts : List Token) (frames : List Frame) : Prop :=
  frames ≠ [] ∨ ∀ t ∈ ts.head?, t.OpensFirst

/-- What a document has come to when it goes on with `after`: the root is closed there, or an
element is open. -/
def Progress.OpenOrClosed (after : List Char) : Progress → Prop
  | .inside frames => frames ≠ []
  | .closed _ on => on = after

theorem addNode_openOrClosed (n : Node) (after : List Char) (frames : List Frame) :
    (addNode n after frames).OpenOrClosed after := by
  cases frames with
  | nil => exact rfl
  | cons f outer => exact List.cons_ne_nil _ _

theorem addText_ne_nil {frames : List Frame} (h : frames ≠ []) (s : List Char) :
    addText s frames ≠ [] := by
  cases frames with
  | nil => exact absurd rfl h
  | cons f outer => exact List.cons_ne_nil _ _

section Document

variable {d : Doctype} {opened : List (List Char)} {on after : List Char} {frames : List Frame}
  {p : Progress}

theorem openElement_document {tag : RawTag}
    (h : openElement d opened .document on tag after frames = .ok p) : p.OpenOrClosed after := by
  obtain ⟨⟨scope, name, attributes⟩, _, h⟩ := bind_eq_ok.1 h
  dsimp only at h
  split at h
  · cases h
    exact addNode_openOrClosed _ _ _
  · cases h
    exact List.cons_ne_nil _ _

theorem closeElement_document {name : List Char}
    (h : closeElement .document on name after frames = .ok p) : p.OpenOrClosed after := by
  unfold closeElement at h
  dsimp only at h
  split at h
  · split at h
    · cases h
    split at h
    · cases h
      exact addNode_openOrClosed _ _ _
    · cases h
  · cases h

variable {enter : List Char → List Char → Nat → List Frame → Except Failure Progress}
  (henter : EntersKeeping enter) {t : Token}

include henter

/-- In an element, what is read leaves one open or closes the root. -/
theorem readToken_nested (hframes : frames ≠ [])
    (h : readToken d opened .document enter t after frames = .ok p) : p.OpenOrClosed after := by
  unfold readToken at h
  dsimp only at h
  split at h
  · cases h
    exact addText_ne_nil hframes _
  · cases h
  · cases h
    exact addText_ne_nil hframes _
  · cases h
    exact hframes
  · cases h
  · cases h
  · cases h
  · cases h
    exact addText_ne_nil hframes _
  · split at h
    · cases h
      exact addText_ne_nil hframes _
    · cases h
    · split at h
      · cases h
      split at h
      · cases h
      · cases h
      · have hkeeps := henter _ _ _ _ _ hframes h
        cases p with
        | inside frames' =>
          exact List.ne_nil_of_length_pos (Nat.lt_of_lt_of_le (List.length_pos_iff.2 hframes) hkeeps)
        | closed => exact hkeeps.elim
  · exact openElement_document h
  · exact closeElement_document h

theorem readToken_document {rest : List Token} (hopen : OpensFirst (t :: rest) frames)
    (h : readToken d opened .document enter t after frames = .ok p) : p.OpenOrClosed after := by
  rcases hopen with hframes | hfirst
  · exact readToken_nested henter hframes h
  · obtain ⟨on, content⟩ := t
    rcases hfirst _ rfl with ⟨tag, hcontent⟩ | ⟨fault, at', hcontent⟩
    · cases hcontent
      exact openElement_document h
    · cases hcontent
      cases h

end Document

/-- What starts with the tag of an element starts with a token that opens one. -/
theorem opensFirst_tokens {on : List Char} (h : RootStart on) : OpensFirst (tokens on) [] := by
  obtain ⟨c, r, rfl, hc⟩ := h
  refine .inr fun t ht => ?_
  rw [tokens_cons] at ht
  cases ht
  have hno : ∀ d : Char, isNameStart d = false → d.toNat < 0x80 → c ≠ d := by
    rintro d hname hd rfl
    rcases hc with hc | hc
    · rw [hname] at hc
      cases hc
    · omega
  have hmarkup : contentAt '<' (c :: r) = ofLex ('<' :: c :: r) .openTag (startTag (c :: r)) := by
    have hbang := hno '!' (by decide) (by decide)
    show markup _ (c :: r) = _
    apply markup.eq_8
    · exact List.cons_ne_nil c r
    · exact fun h => hbang (List.cons.inj h).1
    · exact fun _ h => hbang (List.cons.inj h).1
    · exact fun _ h => hbang (List.cons.inj h).1
    · exact fun _ h => hbang (List.cons.inj h).1
    · exact fun _ h => hno '?' (by decide) (by decide) (List.cons.inj h).1
    · exact fun _ h => hno '/' (by decide) (by decide) (List.cons.inj h).1
  rw [Token.OpensFirst, hmarkup]
  cases startTag (c :: r) with
  | found tag rest => exact .inl ⟨tag, rfl⟩
  | invalid rest => exact .inr ⟨_, _, rfl⟩
  | cutShort => exact .inr ⟨_, _, rfl⟩

theorem opensFirst_limitGrowth {d : Doctype} {size : Nat} {ts : List Token} (h : OpensFirst ts []) :
    OpensFirst (limitGrowth d size ts) [] := by
  unfold limitGrowth
  split
  · exact h
  rcases h with h | h
  · exact absurd rfl h
  refine .inr fun t ht => ?_
  cases ts with
  | nil => cases ht
  | cons u rest =>
    rw [limitTokens] at ht
    split at ht
    · cases ht
      exact h _ rfl
    split at ht
    · cases ht
      exact .inr ⟨_, _, rfl⟩
    · cases ht
      exact h _ rfl

end RackElevation.Xml
