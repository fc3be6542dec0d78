import RackElevation.Proofs.RackText.Acceptance
import RackElevation.Proofs.Text.Trimming

/-
  The lines that are kept

  A text keeps its lines that are not blank, each trimmed and with the number it
  has among all lines. Which lines are kept does not depend on the layout: as
  blank lines are dropped, a CR and an LF may as well be breaks of their own, so
  the kept lines of two texts with a break between them are those of the one and
  then those of the other, and blanks next to a break can be put in or left out.
  The numbers do depend on it; a text that starts with the same lines has the
  same numbers there.

  What is proved:
    1. `lines_unifyBreaks` — the form of the breaks does not matter to the lines.
    2. `kept_append_break`, `kept_insert_blanks` — kept lines of texts that are
       put together, and of a text with more blanks.
    3. `keptAt_of_getElem?` — the number of a kept line is its number in the text.
    4. `keptLines_of_same_start` — the kept lines up to a number depend on the
       lines up to it.
-/

namespace RackElevation.RackText

open Text Grammar

/-! ## Breaks -/

/-- Whether a character ends a line. -/
def isBreak (c : Char) : Bool := c == '\r' || c == '\n'

theorem lines_unifyBreaks (s : List Char) : lines (unifyBreaks s) = lines s := by
  fun_induction unifyBreaks s with
  | case1 => rfl
  | case2 r ih => simp [lines, ih]
  | case3 c r hpair ih =>
    by_cases hc : c = '\r'
    · subst hc
      rw [if_pos rfl, lines.eq_3 _ _ (by simp), lines.eq_3 _ _ (by simpa using hpair), ih]
      rfl
    · rw [if_neg hc, lines.eq_3 _ _ (by simp [hc]), lines.eq_3 _ _ (by simp [hc]), ih]

/-- Lines as they are kept: trimmed, without the empty ones. -/
def tidied (ls : List (List Char)) : List (List Char) := (ls.map trim).filter fun l => !l.isEmpty

theorem tidied_append (ls ls' : List (List Char)) : tidied (ls ++ ls') = tidied ls ++ tidied ls' := by
  rw [tidied, List.map_append, List.filter_append]
  rfl

theorem tidied_cons (l : List Char) (ls : List (List Char)) :
    tidied (l :: ls) = tidied [l] ++ tidied ls := tidied_append [l] ls

theorem tidied_blank {l : List Char} (h : trim l = []) (ls : List (List Char)) :
    tidied (l :: ls) = tidied ls := by
  rw [tidied, List.map_cons, h]
  rfl

theorem tidied_of_not_blank {l : List Char} (h : trim l ≠ []) (ls : List (List Char)) :
    tidied (l :: ls) = trim l :: tidied ls := by
  rw [tidied, List.map_cons, List.filter_cons_of_pos (by simpa using h)]
  rfl

/-- A line counts for what is left of it. -/
theorem tidied_congr {l l' : List Char} (h : trim l = trim l') (ls : List (List Char)) :
    tidied (l :: ls) = tidied (l' :: ls) := by
  rw [tidied, tidied, List.map_cons, List.map_cons, h]

/-- The lines of a text, and its pieces when each CR and each LF is a break. -/
theorem lines_and_pieces (s : List Char) :
    ∃ first rest rest', lines s = first :: rest ∧ s.splitOnP isBreak = first :: rest' ∧
      tidied rest = tidied rest' := by
  fun_induction lines s with
  | case1 => exact ⟨[], [], [], rfl, rfl, rfl⟩
  | case2 r ih =>
    obtain ⟨first, rest, rest', hlines, hpieces, hrest⟩ := ih
    refine ⟨[], _, [] :: r.splitOnP isBreak, rfl, ?_, ?_⟩
    · simp [List.splitOnP_cons_eq_if_modifyHead, isBreak]
    · rw [tidied_blank rfl, hlines, hpieces, tidied_cons, hrest, ← tidied_cons]
  | case3 c r _ hc ih =>
    obtain ⟨first, rest, rest', hlines, hpieces, hrest⟩ := ih
    refine ⟨[], _, r.splitOnP isBreak, rfl, ?_, ?_⟩
    · simp [List.splitOnP_cons_eq_if_modifyHead, isBreak, hc]
    · rw [hlines, hpieces, tidied_cons, hrest, ← tidied_cons]
  | case4 c r _ hc ih =>
    obtain ⟨first, rest, rest', hlines, hpieces, hrest⟩ := ih
    refine ⟨c :: first, rest, rest', ?_, ?_, hrest⟩
    · rw [hlines, consFirst]
    · simp [List.splitOnP_cons_eq_if_modifyHead, isBreak, hc, hpieces]

/-- For what is kept, a CR and an LF are breaks of their own. -/
theorem kept_eq_pieces (s : List Char) : kept s = tidied (s.splitOnP isBreak) := by
  obtain ⟨first, rest, rest', hlines, hpieces, hrest⟩ := lines_and_pieces s
  show tidied (lines s) = _
  rw [hlines, hpieces, tidied_cons, hrest, ← tidied_cons]

theorem kept_append_break (s t : List Char) {c : Char} (hc : isBreak c = true) :
    kept (s ++ c :: t) = kept s ++ kept t := by
  rw [kept_eq_pieces, List.splitOnP_append_cons s t hc, tidied_append, ← kept_eq_pieces,
    ← kept_eq_pieces]

theorem kept_unbroken {l : List Char} (h : ∀ c ∈ l, isBreak c = false) : kept l = tidied [l] := by
  rw [kept_eq_pieces, List.splitOnP_eq_singleton h]

/-! ## Blanks -/

theorem trim_append_blank {c : Char} (hc : isBlank c = true) (s : List Char) :
    trim (s ++ [c]) = trim s := by
  have hend : trimEnd (s ++ [c]) = trimEnd s := List.rdropWhile_concat_pos isBlank s c hc
  rw [← trim_trimEnd, hend, trim_trimEnd]

theorem kept_blank_cons {c : Char} (hc : isBlank c = true) (s : List Char) : kept (c :: s) = kept s := by
  rw [kept_eq_pieces, kept_eq_pieces, List.splitOnP_cons_eq_if_modifyHead]
  by_cases hbreak : isBreak c = true
  · rw [if_pos hbreak, tidied_blank rfl]
  · rw [if_neg hbreak]
    cases s.splitOnP isBreak with
    | nil => rfl
    | cons first rest => exact tidied_congr (trim_blank_cons hc first) rest

/-- A text is one line, or its last line stands after a break. -/
theorem unbroken_or_last (s : List Char) :
    (∀ c ∈ s, isBreak c = false) ∨
      ∃ t c l, s = t ++ c :: l ∧ isBreak c = true ∧ ∀ d ∈ l, isBreak d = false := by
  induction s with
  | nil => exact .inl fun c hc => nomatch hc
  | cons d s ih =>
    rcases ih with h | ⟨t, c, l, rfl, hc, hl⟩
    · cases hd : isBreak d with
      | true => exact .inr ⟨[], d, s, rfl, hd, h⟩
      | false => exact .inl (List.forall_mem_cons.2 ⟨hd, h⟩)
    · exact .inr ⟨d :: t, c, l, rfl, hc, hl⟩

theorem kept_line_blank {c : Char} (hc : isBlank c = true) {l : List Char}
    (hl : ∀ d ∈ l, isBreak d = false) : kept (l ++ [c]) = kept l := by
  cases hbreak : isBreak c with
  | true => rw [kept_append_break l [] hbreak, show kept [] = [] from rfl, List.append_nil]
  | false =>
    have hall : ∀ d ∈ l ++ [c], isBreak d = false :=
      List.forall_mem_append.2 ⟨hl, List.forall_mem_singleton.2 hbreak⟩
    rw [kept_unbroken hall, kept_unbroken hl, tidied_congr (trim_append_blank hc l)]

theorem kept_append_blank {c : Char} (hc : isBlank c = true) (s : List Char) :
    kept (s ++ [c]) = kept s := by
  rcases unbroken_or_last s with h | ⟨t, d, l, rfl, hd, hl⟩
  · exact kept_line_blank hc h
  · rw [List.append_assoc, List.cons_append, kept_append_break t _ hd, kept_append_break t _ hd,
      kept_line_blank hc hl]

theorem kept_blanks_append {blanks : List Char} (h : Blanks blanks) (s : List Char) :
    kept (blanks ++ s) = kept s := by
  induction blanks with
  | nil => rfl
  | cons c blanks ih =>
    obtain ⟨hc, h⟩ := List.forall_mem_cons.1 h
    rw [List.cons_append, kept_blank_cons hc, ih h]

theorem kept_append_blanks {blanks : List Char} (h : Blanks blanks) (s : List Char) :
    kept (s ++ blanks) = kept s := by
  induction blanks generalizing s with
  | nil => rw [List.append_nil]
  | cons c blanks ih =>
    obtain ⟨hc, h⟩ := List.forall_mem_cons.1 h
    rw [List.append_cons, ih h, kept_append_blank hc]

/-- Between these texts a line starts or ends. -/
def AtBreak (s t : List Char) : Prop :=
  (∀ c ∈ s.getLast?, isBreak c = true) ∨ ∀ c ∈ t.head?, isBreak c = true

theorem kept_insert_blanks {s blanks t : List Char} (h : Blanks blanks) (hplace : AtBreak s t) :
    kept (s ++ (blanks ++ t)) = kept (s ++ t) := by
  rcases hplace with hs | ht
  · rcases List.eq_nil_or_concat' s with rfl | ⟨s, c, rfl⟩
    · exact kept_blanks_append h t
    · have hc : isBreak c = true := hs c List.getLast?_concat
      rw [List.append_assoc, List.append_assoc, List.singleton_append, List.singleton_append,
        kept_append_break s _ hc, kept_append_break s _ hc, kept_blanks_append h]
  · cases t with
    | nil => rw [List.append_nil, List.append_nil, kept_append_blanks h]
    | cons c t =>
      have hc : isBreak c = true := ht c rfl
      rw [← List.append_assoc, kept_append_break _ t hc, kept_append_break s t hc,
        kept_append_blanks h]

/-! ## Numbers -/

/-- The kept ones of lines that are numbered from `n`. -/
def keepFrom (n : Nat) (ls : List (List Char)) : List Line :=
  (ls.zipIdx n).filterMap fun l => if (trim l.1).isEmpty then none else some ⟨l.2, trim l.1⟩

theorem keepFrom_append (n : Nat) (ls ls' : List (List Char)) :
    keepFrom n (ls ++ ls') = keepFrom n ls ++ keepFrom (n + ls.length) ls' := by
  rw [keepFrom, List.zipIdx_append, List.filterMap_append]
  rfl

theorem keepFrom_blank {l : List Char} (h : trim l = []) (n : Nat) (ls : List (List Char)) :
    keepFrom n (l :: ls) = keepFrom (n + 1) ls := by
  simp [keepFrom, List.zipIdx_cons, h]

theorem keepFrom_of_not_blank {l : List Char} (h : trim l ≠ []) (n : Nat) (ls : List (List Char)) :
    keepFrom n (l :: ls) = ⟨n, trim l⟩ :: keepFrom (n + 1) ls := by
  simp [keepFrom, List.zipIdx_cons, h]

theorem mem_keepFrom {n : Nat} {ls : List (List Char)} {l : Line} (h : l ∈ keepFrom n ls) :
    n ≤ l.number ∧ l.number < n + ls.length := by
  obtain ⟨p, hp, hl⟩ := List.mem_filterMap.1 h
  obtain ⟨hlow, hhigh, _⟩ := List.mem_zipIdx hp
  split at hl
  · cases hl
  · cases hl
    exact ⟨hlow, hhigh⟩

/-- The line of a text with a number, counted from one, is not blank, and so many lines before it
are not. -/
def KeptAt (text : List Char) (place number : Nat) : Prop :=
  ∃ before l after, lines text = before ++ l :: after ∧ number = before.length + 1 ∧
    trim l ≠ [] ∧ place = (tidied before).length

theorem KeptAt.number_le {text : List Char} {place number : Nat} (h : KeptAt text place number) :
    1 ≤ number ∧ number ≤ (lines text).length := by
  obtain ⟨before, l, after, hlines, rfl, _⟩ := h
  rw [hlines, List.length_append, List.length_cons]
  omega

theorem getElem?_keepFrom {n k : Nat} {ls : List (List Char)} {l : Line}
    (h : (keepFrom n ls)[k]? = some l) :
    ∃ before raw after, ls = before ++ raw :: after ∧ l.number = n + before.length ∧
      trim raw ≠ [] ∧ k = (tidied before).length := by
  -- along the lines; one that is blank does not count for the place
  induction ls generalizing n k with
  | nil => cases h
  | cons raw ls ih =>
    -- the line and those before it, when there is one more line in front
    have hmore : ∀ k' k, (keepFrom (n + 1) ls)[k']? = some l →
        (∀ before, k' = (tidied before).length → k = (tidied (raw :: before)).length) →
        ∃ before line after, raw :: ls = before ++ line :: after ∧ l.number = n + before.length ∧
          trim line ≠ [] ∧ k = (tidied before).length := by
      intro k' k hk' hplace
      obtain ⟨before, line, after, hls, hnumber, hline, hk'⟩ := ih hk'
      refine ⟨raw :: before, line, after, by rw [hls, List.cons_append], ?_, hline, hplace _ hk'⟩
      rw [hnumber, List.length_cons, Nat.add_assoc, Nat.add_comm 1]
    by_cases hblank : trim raw = []
    · rw [keepFrom_blank hblank] at h
      refine hmore k k h fun before hk => ?_
      rw [hk, tidied_blank hblank]
    · rw [keepFrom_of_not_blank hblank] at h
      cases k with
      | zero =>
        cases h
        exact ⟨[], raw, ls, rfl, rfl, hblank, rfl⟩
      | succ k =>
        refine hmore k (k + 1) h fun before hk => ?_
        rw [hk, tidied_of_not_blank hblank, List.length_cons]

theorem keptAt_of_getElem? {text : List Char} {k : Nat} {l : Line}
    (h : (keptLines text)[k]? = some l) : KeptAt text k l.number := by
  obtain ⟨before, raw, after, hlines, hnumber, hraw, hk⟩ := getElem?_keepFrom h
  exact ⟨before, raw, after, hlines, by omega, hraw, hk⟩

/-- Texts with the same lines up to the number of a kept line have the same kept lines up to it. -/
theorem keptLines_of_same_start {text text' : List Char} {before after : List Line} {l : Line}
    (h : keptLines text = before ++ l :: after)
    (hsame : (lines text').take l.number = (lines text).take l.number) :
    ∃ after', keptLines text' = before ++ l :: after' := by
  have hmem : l ∈ keepFrom 1 (lines text) := by
    show l ∈ keptLines text
    rw [h]
    exact List.mem_append_right before List.mem_cons_self
  have hlength : ((lines text).take l.number).length = l.number := by
    rw [List.length_take]
    have := mem_keepFrom hmem
    omega
  have hsplit : ∀ ls : List (List Char), ls.take l.number = (lines text).take l.number →
      keepFrom 1 ls = keepFrom 1 ((lines text).take l.number) ++
        keepFrom (1 + l.number) (ls.drop l.number) := by
    intro ls hls
    conv => lhs; rw [← List.take_append_drop l.number ls]
    rw [hls, keepFrom_append, hlength]
  -- the line is none of those with higher numbers
  have hlate : l ∉ keepFrom (1 + l.number) ((lines text).drop l.number) := by
    intro hl
    have := (mem_keepFrom hl).1
    omega
  have htext : before ++ l :: after = keepFrom 1 ((lines text).take l.number) ++
      keepFrom (1 + l.number) ((lines text).drop l.number) := h ▸ hsplit (lines text) rfl
  rcases List.append_eq_append_iff.1 htext with ⟨mid, hearly, hmid⟩ | ⟨mid, _, hmid⟩
  · cases mid with
    | nil =>
      rw [List.nil_append] at hmid
      exact absurd (hmid ▸ List.mem_cons_self) hlate
    | cons d mid =>
      cases hmid
      refine ⟨mid ++ keepFrom (1 + l.number) ((lines text').drop l.number), ?_⟩
      show keepFrom 1 (lines text') = _
      rw [hsplit (lines text') hsame, hearly, List.append_assoc, List.cons_append]
  · exact absurd (hmid ▸ List.mem_append_right mid List.mem_cons_self) hlate

end RackElevation.RackText
