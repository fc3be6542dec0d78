import RackElevation.Proofs.Xml.Places

/-
  Blank text before a document

  Spaces, tabs and line breaks may stand before a document that does not start
  with a declaration. They are marks of their own and change nothing, so the
  document is what it is without them: the same root, or the same fault as far
  from the end. Any other blank character is no XML and is refused.

  A longer document may grow by more, so the entities of a document may be too
  long for it without the blanks and not with them, or the other way round.

  What is proved:
    1. `readProlog_lead` — the marks before the root.
    2. `readDocument_lead` — the document.
    3. `readDocument_refused` — a text that starts with a character that is no XML.
    4. `positionBefore_lead` — places behind line breaks.
-/

namespace RackElevation.Xml

open Text Outcome

/-! ## Blanks before the first mark -/

theorem eq_of_isSpace {c : Char} (h : isSpace c = true) : c = ' ' ∨ c = '\t' ∨ c = '\n' ∨ c = '\r' := by
  simpa only [isSpace, Bool.or_eq_true, beq_iff_eq, or_assoc] using h

theorem markAt_space {c : Char} (h : isSpace c = true) (r : List Char) :
    markAt c r = .found .space r := by
  rcases eq_of_isSpace h with rfl | rfl | rfl | rfl <;> rfl

theorem marks_space {c : Char} (h : isSpace c = true) (r : List Char) :
    marks (c :: r) = ⟨c :: r, .space⟩ :: marks r := by
  rw [marks_found (markAt_space h r), Nat.sub_self, List.drop_zero]

/-- The first mark counts as if there were blanks before it, unless it is a declaration. -/
theorem readProlog_start {ps : List Placed}
    (h : ∀ p ∈ ps.head?, ∀ body rest, p.mark ≠ .declaration body rest) :
    readProlog {} .doctypeOrRoot ps = readProlog {} .start ps := by
  cases ps with
  | nil => rfl
  | cons p rest =>
    obtain ⟨on, mark⟩ := p
    have hmark := h _ rfl
    have hstep : step {} .doctypeOrRoot on.length mark = step {} .start on.length mark := by
      cases mark with
      | declaration body rest => exact absurd rfl (hmark body rest)
      | _ => rfl
    rw [readProlog, readProlog]
    cases mark with
    | rootTag => rfl
    | _ =>
      dsimp only
      rw [hstep]

theorem readProlog_spaces {w : List Char} (hw : ∀ c ∈ w, isSpace c = true) (s : List Char) :
    readProlog {} .doctypeOrRoot (marks (w ++ s)) = readProlog {} .doctypeOrRoot (marks s) := by
  induction w with
  | nil => rfl
  | cons c w ih =>
    rw [List.forall_mem_cons] at hw
    rw [List.cons_append, marks_space hw.1]
    exact ih hw.2

/-- A text whose first mark is a declaration starts with its word. -/
theorem declaration_first {s : List Char} (hs : ¬['<', '?', 'x', 'm', 'l'] <+: s) :
    ∀ p ∈ (marks s).head?, ∀ body rest, p.mark ≠ .declaration body rest := by
  intro p hp body rest hmark
  have hfound := (marks_within s p (List.mem_of_mem_head? hp)).2
  have hon : p.on = s := by
    cases s with
    | nil => cases hp
    | cons c r =>
      rw [marks, walk_cons] at hp
      cases hp
      split <;> rfl
  rw [hmark, hon] at hfound
  cases hfound with
  | within h => exact h
  | declaration _ hword => exact hs hword

theorem readProlog_lead {w s : List Char} (hw : ∀ c ∈ w, isSpace c = true)
    (hs : ¬['<', '?', 'x', 'm', 'l'] <+: s) :
    readProlog {} .start (marks (w ++ s)) = readProlog {} .start (marks s) := by
  cases w with
  | nil => rfl
  | cons c w =>
    rw [List.forall_mem_cons] at hw
    calc readProlog {} .start (marks (c :: w ++ s))
      _ = readProlog {} .doctypeOrRoot (marks (w ++ s)) := by
        rw [List.cons_append, marks_space hw.1]
        rfl
      _ = readProlog {} .doctypeOrRoot (marks s) := readProlog_spaces hw.2 s
      _ = readProlog {} .start (marks s) := readProlog_start (declaration_first hs)

/-! ## The document -/

theorem foldl_byteCount (n : Nat) (s : List Char) :
    s.foldl (fun n c => n + c.utf8Size) n = n + byteCount s := by
  induction s generalizing n with
  | nil => rfl
  | cons c s ih => rw [byteCount, List.foldl_cons, List.foldl_cons, ih, ih, Nat.zero_add, Nat.add_assoc]

theorem byteCount_append (s t : List Char) : byteCount (s ++ t) = byteCount s + byteCount t := by
  rw [byteCount, List.foldl_append, foldl_byteCount]
  rfl

/-- With so many bytes more before it, a document may still grow just as far. -/
def GrowsAlike (extra : Nat) (s : List Char) : Prop :=
  ∀ d on, readProlog {} .start (marks s) = .ok (d, on) →
    limitGrowth d (extra + byteCount s) (tokens on) = limitGrowth d (byteCount s) (tokens on)

/-- Without entities nothing grows. -/
theorem growsAlike_of_entities {s : List Char}
    (h : ∀ d on, readProlog {} .start (marks s) = .ok (d, on) → d.entities = []) (extra : Nat) :
    GrowsAlike extra s := by
  intro d on hprolog
  have hnone := h d on hprolog
  rw [limitGrowth_nil _ _ _ hnone, limitGrowth_nil _ _ _ hnone]

theorem readDocument_lead {w s : List Char} (hw : ∀ c ∈ w, isSpace c = true)
    (hs : ¬['<', '?', 'x', 'm', 'l'] <+: s) (hgrow : GrowsAlike (byteCount w) s) :
    readDocument (w ++ s) = readDocument s := by
  unfold readDocument
  rw [readProlog_lead hw hs, byteCount_append]
  cases hprolog : readProlog {} .start (marks s) with
  | error f => rfl
  | ok p =>
    obtain ⟨d, on⟩ := p
    have hlimit := hgrow d on hprolog
    dsimp only [bind, Except.bind]
    rw [hlimit]

/-! ## Other blanks -/

theorem step_broken (d : Doctype) (e : Expect) (place : Nat) (fault : Fault) (on : List Char) :
    step d e place (.broken fault on) = .error ⟨fault, on.length⟩ := by
  cases e <;> rfl

theorem step_blank (d : Doctype) (e : Expect) (place : Nat) :
    ∃ e', step d e place .space = .ok (d, e') := by
  cases e <;> exact ⟨_, rfl⟩

/-- A character that is neither a space nor the start of anything that may stand outside the root. -/
def Refused (c : Char) : Prop :=
  isSpace c = false ∧ isNameChar c = false ∧
    c ∉ ['"', '\'', '<', '%', ',', '[', ']', '(', ')', '|', '>', '#', ':']

theorem markAt_refused {c : Char} (h : Refused c) (r : List Char) : markAt c r = .invalid (c :: r) := by
  obtain ⟨hspace, hname, hmark⟩ := h
  have hstart : ¬isNameStart c = true := fun h => by
    rw [isNameChar_of_isNameStart h] at hname
    cases hname
  simp only [List.mem_cons, List.not_mem_nil, or_false, not_or] at hmark
  obtain ⟨h1, h2, h3, h4, h5, h6, h7, h8, h9, h10, h11, h12, hcolon⟩ := hmark
  rw [markAt.eq_15 c r h1 h2 h3 h4 h5 h6 h7 h8 h9 h10 h11 h12 (fun _ h => (h7 h).elim)
    fun h => (h7 h).elim, nameMark, hspace, hname]
  simp [hstart, hcolon]

/-- A blank that is no XML space is refused. -/
theorem refused_of_isBlank {c : Char} (h : isBlank c = true) (hspace : isSpace c = false) :
    Refused c := by
  refine ⟨hspace, isNameChar_of_isBlank h, fun hmem => ?_⟩
  have hplain : (['"', '\'', '<', '%', ',', '[', ']', '(', ')', '|', '>', '#', ':'].all
      fun d => !isBlank d) = true := by decide
  have hno := List.all_eq_true.1 hplain c hmem
  rw [h] at hno
  cases hno

theorem readProlog_refused {w : List Char} (hw : ∀ c ∈ w, isSpace c = true) {c : Char} (hc : Refused c)
    (r : List Char) (d : Doctype) (e : Expect) :
    ∃ f, readProlog d e (marks (w ++ c :: r)) = .error f := by
  induction w generalizing e with
  | nil =>
    rw [List.nil_append, marks_invalid (markAt_refused hc r), readProlog]
    simp only [step_broken]
    exact ⟨_, rfl⟩
  | cons c' w ih =>
    rw [List.forall_mem_cons] at hw
    obtain ⟨e', he⟩ := step_blank d e (c' :: (w ++ c :: r)).length
    obtain ⟨f, hf⟩ := ih hw.2 e'
    rw [List.cons_append, marks_space hw.1, readProlog]
    simp only [he]
    exact ⟨f, hf⟩

theorem readDocument_refused {w : List Char} (hw : ∀ c ∈ w, isSpace c = true) {c : Char}
    (hc : Refused c) (r : List Char) : ∃ f, readDocument (w ++ c :: r) = .error f := by
  obtain ⟨f, hf⟩ := readProlog_refused hw hc r {} .start
  refine ⟨f, ?_⟩
  unfold readDocument
  rw [hf]
  rfl

/-! ## Texts -/

/-- A text without its byte order mark, if it starts with one. -/
def unmarked (s : List Char) : List Char := if s.head? = some '\ufeff' then s.tail else s

/-- A text that is not taken for text of two bytes a character is read without its mark. -/
theorem readSource_sourceOf {s : List Char} (h : startsWithPair s = false) :
    readSource (sourceOf s) = readDocument (unmarked s) := by
  have hsource : sourceOf s = ⟨s, unmarked s, false⟩ := by
    unfold sourceOf unmarked
    rw [h, if_neg Bool.false_ne_true]
    split
    · rw [List.head?_cons, if_pos rfl, List.tail_cons]
    · next hmark =>
      rw [if_neg]
      intro hhead
      obtain ⟨r, rfl⟩ := List.head?_eq_some_iff.1 hhead
      exact hmark r rfl
  rw [hsource]
  unfold readSource
  dsimp only
  split
  · next heq => cases heq
  · next heq => cases heq
  · rfl

theorem parse_eq_ok {s : List Char} (h : startsWithPair s = false) {root : Node} :
    parse s = .ok root ↔ readDocument (unmarked s) = .ok root := by
  rw [parse, mapError_eq_ok, readSource_sourceOf h]

/-- A text that is not taken for text of two bytes a character, and has no byte order mark. -/
structure Plain (s : List Char) : Prop where
  single : startsWithPair s = false
  unmarked : s.head? ≠ some '\ufeff'

/-- A plain text is read as it is. -/
theorem parse_plain {s : List Char} (h : Plain s) :
    parse s = (readDocument s).mapError fun f => ⟨f.fault, positionBefore s f.left⟩ := by
  have hcounted : (sourceOf s).counted = s := by
    unfold sourceOf
    rw [h.single, if_neg Bool.false_ne_true]
    split <;> rfl
  rw [parse, readSource_sourceOf h.single, hcounted, unmarked, if_neg h.unmarked]

theorem toNat_of_isBlank {c : Char} (h : isBlank c = true) : c.toNat ≠ 0 := by
  intro hzero
  rw [isBlank, hzero] at h
  revert h
  decide

/-- A text is plain with blanks before it. -/
theorem plain_lead {w s : List Char} (hw : Blanks w) (hne : w ≠ []) (h : startsWithPair s = false) :
    Plain (w ++ s) := by
  cases w with
  | nil => exact absurd rfl hne
  | cons c w =>
    have hc := hw c List.mem_cons_self
    have hfirst := toNat_of_isBlank hc
    refine ⟨?_, fun hmark => ?_⟩
    · cases w with
      | cons d w =>
        have hsecond := toNat_of_isBlank (hw d (List.mem_cons_of_mem c List.mem_cons_self))
        simp [startsWithPair, hfirst, hsecond]
      | nil =>
        cases s with
        | nil => simp [startsWithPair, hfirst]
        | cons d r =>
          have hsecond : d.toNat ≠ 0 := by
            intro hd
            cases r <;> simp [startsWithPair, hd] at h
          simp [startsWithPair, hfirst, hsecond]
    · cases hmark
      revert hc
      decide

/-- A document that is read is read behind spaces, unless it starts with a declaration. -/
theorem parse_lead {w s : List Char} (hw : Blanks w) (hspaces : ∀ c ∈ w, isSpace c = true) (hne : w ≠ [])
    (hs : ¬['<', '?', 'x', 'm', 'l'] <+: s) (hgrow : GrowsAlike (byteCount w) s) (hplain : Plain s)
    {root : Node} (h : parse s = .ok root) : parse (w ++ s) = .ok root := by
  rw [parse_plain hplain, mapError_eq_ok] at h
  rw [parse_plain (plain_lead hw hne hplain.single), mapError_eq_ok, readDocument_lead hspaces hs hgrow, h]

/-- Behind blanks, a character that is no XML is refused. -/
theorem parse_refused {w : List Char} (hspaces : ∀ c ∈ w, isSpace c = true) {c : Char} (hc : Refused c)
    {r : List Char} (hplain : Plain (w ++ c :: r)) (root : Node) : parse (w ++ c :: r) ≠ .ok root := by
  intro h
  obtain ⟨f, hf⟩ := readDocument_refused hspaces hc r
  rw [parse_plain hplain, mapError_eq_ok, hf] at h
  cases h

/-! ## Places -/

/-- A position so many lines further down. -/
def Position.below (k : Nat) (p : Position) : Position := ⟨p.line + k, p.column⟩

theorem Position.after_below (k : Nat) (p : Position) (s : List Char) :
    (p.below k).after s = (p.after s).below k := by
  fun_induction Position.after p s with
  | case1 => rfl
  | case2 p r ih =>
    show Position.after ⟨p.line + k + 1, 0⟩ r = _
    rw [Nat.add_right_comm]
    exact ih
  | case3 p c r h ih =>
    rw [Position.after.eq_3 _ c r h, ← ih]
    split
    · rw [Position.below, Position.below, Nat.add_right_comm]
    · rfl

theorem Position.after_breaks (k line : Nat) (s : List Char) :
    Position.after ⟨line, 0⟩ (List.replicate k '\n' ++ s) = Position.after ⟨line + k, 0⟩ s := by
  induction k generalizing line with
  | zero => rfl
  | succ k ih =>
    rw [List.replicate_succ, List.cons_append]
    show Position.after ⟨line + 1, 0⟩ _ = _
    rw [ih, Nat.add_right_comm, Nat.add_assoc]

/-- Behind line breaks a place is as many lines further down, in the same column. -/
theorem positionBefore_lead (k : Nat) {s : List Char} {left : Nat} (h : left ≤ s.length) :
    positionBefore (List.replicate k '\n' ++ s) left = (positionBefore s left).below k := by
  have htake : (List.replicate k '\n' ++ s).length - left =
      (List.replicate k '\n').length + (s.length - left) := by
    rw [List.length_append]
    omega
  rw [positionBefore, htake, List.take_length_add_append, Position.after_breaks]
  exact Position.after_below k ⟨1, 0⟩ _

end RackElevation.Xml
