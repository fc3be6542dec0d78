import RackElevation.Text.Blank
import RackElevation.Text.Cut
import RackElevation.Text.Lines

/-
  Parts of a text

  What is cut from a text, trimmed or taken as a run lies in the text as it
  stands, and a run of characters ends at the first one that does not belong to
  it.

  What is proved:
    1. `takeWhile_run`, `dropWhile_run` — a run and what follows it.
    2. `cut_cases` — a text with and without the character at which it is cut.
    3. `trim_within`, `lines_within` — what is left of a text when it is trimmed,
       and each of its lines, lies in it.
    4. `lines_join` — lines put together with line breaks are the lines of the
       whole.
-/

namespace RackElevation.Text

section Runs

variable {α : Type} {p : α → Bool} {run r : List α}

/-- A run ends where the first character does not belong to it. -/
theorem takeWhile_run (hrun : ∀ c ∈ run, p c = true) (hr : ∀ c ∈ r.head?, p c = false) :
    (run ++ r).takeWhile p = run := by
  rw [List.takeWhile_append_of_pos hrun]
  cases r with
  | nil => simp
  | cons c r => simp [hr c rfl]

theorem dropWhile_run (hrun : ∀ c ∈ run, p c = true) (hr : ∀ c ∈ r.head?, p c = false) :
    (run ++ r).dropWhile p = r := by
  rw [List.dropWhile_append_of_pos hrun]
  cases r with
  | nil => rfl
  | cons c r => simp [hr c rfl]

theorem head_dropWhile (s : List α) : ∀ c ∈ (s.dropWhile p).head?, p c = false := by
  intro c hc
  cases hs : s.dropWhile p with
  | nil =>
    rw [hs] at hc
    cases hc
  | cons d t =>
    have hd := List.head?_dropWhile_not p s
    rw [hs] at hc hd
    cases hc
    simpa using hd

theorem mem_takeWhile {s : List α} {c : α} (h : c ∈ s.takeWhile p) : p c = true :=
  List.all_eq_true.1 List.all_takeWhile c h

end Runs

/-- Blanks, or nothing. -/
def Blanks (s : List Char) : Prop := ∀ c ∈ s, isBlank c = true

theorem blanks_nil : Blanks [] := fun _ h => nomatch h

theorem isBlankText_iff {s : List Char} : isBlankText s = true ↔ Blanks s := List.all_eq_true

theorem trimStart_append {blanks : List Char} (h : Blanks blanks) {c : Char} (hc : isBlank c = false)
    (r : List Char) : trimStart (blanks ++ c :: r) = c :: r := by
  rw [trimStart, List.dropWhile_append_of_pos h]
  exact trimStart_of_not_blank r hc

/-- What stands before the first character that is not blank is blank. -/
theorem eq_blanks_append {s r : List Char} {c : Char} (h : trimStart s = c :: r) :
    ∃ blanks, s = blanks ++ c :: r ∧ Blanks blanks := by
  refine ⟨s.takeWhile isBlank, ?_, fun d hd => mem_takeWhile hd⟩
  rw [← h]
  exact List.takeWhile_append_dropWhile.symm

/-- A text is cut where the character stands first, if it stands anywhere. -/
theorem cut_cases (c : Char) (s : List Char) :
    (c ∉ s ∧ cut c s = (s, none)) ∨
      ∃ before after, s = before ++ c :: after ∧ c ∉ before ∧ cut c s = (before, some after) := by
  by_cases hc : c ∈ s
  · obtain ⟨before, after, rfl, hbefore⟩ := List.eq_append_cons_of_mem hc
    exact .inr ⟨before, after, rfl, hbefore, cut_append after hbefore⟩
  · exact .inl ⟨hc, cut_none hc⟩

theorem trim_within (s : List Char) : trim s <:+: s := by
  have hend : trimEnd (trimStart s) <+: trimStart s := by
    rw [trimEnd, ← List.reverse_suffix, List.reverse_reverse]
    exact List.dropWhile_suffix isBlank
  exact hend.isInfix.trans (List.dropWhile_suffix isBlank).isInfix

theorem lines_cons {c : Char} (hr : c ≠ '\r') (hn : c ≠ '\n') (s : List Char) :
    lines (c :: s) = consFirst c (lines s) := by
  rw [lines, if_neg (by simp [hr, hn])]
  intro r hc
  exact absurd hc hr

/-- Text without a line break. -/
def Unbroken (s : List Char) : Prop := '\r' ∉ s ∧ '\n' ∉ s

instance (s : List Char) : Decidable (Unbroken s) :=
  inferInstanceAs (Decidable ('\r' ∉ s ∧ '\n' ∉ s))

theorem Unbroken.within {s t : List Char} (h : Unbroken s) (ht : t <:+: s) : Unbroken t :=
  ⟨fun hr => h.1 (ht.subset hr), fun hn => h.2 (ht.subset hn)⟩

theorem unbroken_append {s t : List Char} : Unbroken (s ++ t) ↔ Unbroken s ∧ Unbroken t := by
  simp only [Unbroken, List.mem_append, not_or]
  exact and_and_and_comm

/-- Line breaks are blank. -/
theorem unbroken_of_not_blank {s : List Char} (h : ∀ c ∈ s, isBlank c = false) : Unbroken s :=
  ⟨fun hr => absurd (h _ hr) (by decide), fun hn => absurd (h _ hn) (by decide)⟩

theorem unbroken_cons {c : Char} (hc : isBlank c = false) {s : List Char} :
    Unbroken (c :: s) ↔ Unbroken s := by
  have hfirst : Unbroken [c] := unbroken_of_not_blank fun d hd => List.mem_singleton.1 hd ▸ hc
  exact (unbroken_append (s := [c])).trans (and_iff_right hfirst)

theorem lines_single {l : List Char} (h : Unbroken l) : lines l = [l] := by
  induction l with
  | nil => rfl
  | cons c l ih =>
    obtain ⟨⟨hr, hr'⟩, hn, hn'⟩ := And.imp List.ne_and_not_mem_of_not_mem_cons
      List.ne_and_not_mem_of_not_mem_cons h
    rw [lines_cons hr.symm hn.symm, ih ⟨hr', hn'⟩]
    rfl

theorem lines_break {l : List Char} (h : Unbroken l) (r : List Char) :
    lines (l ++ '\n' :: r) = l :: lines r := by
  induction l with
  | nil => simp [lines]
  | cons c l ih =>
    obtain ⟨⟨hr, hr'⟩, hn, hn'⟩ := And.imp List.ne_and_not_mem_of_not_mem_cons
      List.ne_and_not_mem_of_not_mem_cons h
    rw [List.cons_append, lines_cons hr.symm hn.symm, ih ⟨hr', hn'⟩]
    rfl

/-- Lines put together with line breaks are the lines of the whole. -/
theorem lines_join {ls : List (List Char)} (hne : ls ≠ []) (h : ∀ l ∈ ls, Unbroken l) :
    lines (join '\n' ls) = ls := by
  induction ls with
  | nil => exact absurd rfl hne
  | cons l ls ih =>
    obtain ⟨hl, hls⟩ := List.forall_mem_cons.1 h
    cases ls with
    | nil => exact lines_single hl
    | cons k ls =>
      rw [join, lines_break hl, ih (by simp) hls]
      simp

/-- The first line of a text starts it, and every line lies in it. -/
theorem lines_within (s : List Char) :
    (∀ l ∈ (lines s).head?, l <+: s) ∧ ∀ l ∈ lines s, l <:+: s := by
  fun_induction lines s with
  | case1 => simp
  | case2 r ih =>
    refine ⟨by simp, ?_⟩
    intro l hl
    rcases List.mem_cons.1 hl with rfl | hl
    · exact List.nil_infix
    · exact (ih.2 l hl).trans (List.suffix_append ['\r', '\n'] r).isInfix
  | case3 c r _ _ ih =>
    refine ⟨by simp, ?_⟩
    intro l hl
    rcases List.mem_cons.1 hl with rfl | hl
    · exact List.nil_infix
    · exact (ih.2 l hl).trans (List.suffix_cons c r).isInfix
  | case4 c r _ _ ih =>
    obtain ⟨l, ls, hls⟩ := List.exists_cons_of_ne_nil (lines_ne_nil r)
    rw [hls] at ih ⊢
    have hfirst : c :: l <+: c :: r := List.cons_prefix_cons.2 ⟨rfl, ih.1 l rfl⟩
    refine ⟨?_, ?_⟩
    · intro k hk
      cases hk
      exact hfirst
    · intro k hk
      rcases List.mem_cons.1 hk with rfl | hk
      · exact hfirst.isInfix
      · exact (ih.2 k (List.mem_cons_of_mem l hk)).trans (List.suffix_cons c r).isInfix

end RackElevation.Text
