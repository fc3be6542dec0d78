import RackElevation.Proofs.RackText.Judgement

/-
  Which texts are rack-text

  A text is accepted if its kept lines are a caption, a height, the heading of a
  list, and a list each line of which is an item. Each line is judged by what is
  on it; nothing that follows the list matters. A numeral of more than 4300
  digits is not read, so the statement for a whole text is about texts without
  one.

  What is proved:
    1. `succeeds_readLines` — lines can be read exactly if each of them can be.
    2. `parse_ok_iff` — a text without long numerals is accepted exactly if its
       kept lines follow the grammar.
-/

namespace RackElevation.RackText

open Text Outcome
open Numeral (Digits Integer)

namespace Grammar

/-- The lines of a text, trimmed, without the empty ones. -/
def kept (text : List Char) : List (List Char) :=
  ((lines text).map trim).filter fun l => !l.isEmpty

/-- The keyword of a height, and an integer after it. -/
def HeightNumeral (l digits : List Char) (n : Int) : Prop :=
  ∃ t, l = "height:".toList ++ t ∧ Integer (trim t) digits n

/-- A line that gives the height of a rack. -/
def HeightLine (l : List Char) : Prop := ∃ digits n, HeightNumeral l digits n ∧ 1 ≤ n

/-- The lines of a document: a caption, a height, a heading, and items up to the first line that
does not start with a dash. -/
def Document (ls : List (List Char)) : Prop :=
  ∃ caption height heading rest, ls = caption :: height :: heading :: rest ∧
    "caption:".toList <+: caption ∧ HeightLine height ∧ "items:".toList <+: heading ∧
    ∀ l ∈ rest.takeWhile (·.head? == some '-'), Entry (trim (l.drop 1))

/-- A line that is kept as it stands. -/
structure Whole (l : List Char) : Prop where
  nonempty : l ≠ []
  unbroken : Unbroken l
  trimmed : trim l = l

/-- Lines put together with line breaks are kept, each without the blanks at its ends. -/
theorem kept_join {ls : List (List Char)} (hne : ls ≠ [])
    (h : ∀ l ∈ ls, Unbroken l ∧ trim l ≠ []) : kept (join '\n' ls) = ls.map trim := by
  rw [kept, lines_join hne fun l hl => (h l hl).1, List.filter_eq_self]
  intro l hl
  obtain ⟨k, hk, rfl⟩ := List.mem_map.1 hl
  simpa using (h k hk).2

theorem kept_join_whole {ls : List (List Char)} (hne : ls ≠ []) (h : ∀ l ∈ ls, Whole l) :
    kept (join '\n' ls) = ls := by
  have htrim : ls.map trim = ls := by
    conv => rhs; rw [← List.map_id ls]
    exact List.map_congr_left fun l hl => (h l hl).trimmed
  rw [kept_join hne, htrim]
  intro l hl
  refine ⟨(h l hl).unbroken, ?_⟩
  rw [(h l hl).trimmed]
  exact (h l hl).nonempty

end Grammar

open Grammar

/-! ## Documents -/

theorem succeeds_readList {last : Nat} {caption : Line} {height : Int} {ls : List Line} :
    Succeeds (readList last caption height ls) ↔ ∃ heading rest, ls = heading :: rest ∧
      "items:".toList <+: heading.text ∧ ∀ l ∈ rest.takeWhile isItem, Succeeds (deviceOf l) := by
  rw [outcome_readList fun _ _ => not_succeeds_error _]
  simp only [succeeds_bind_pure, succeeds_mapM]

theorem succeeds_readLines {last : Nat} {ls : List Line} :
    Succeeds (readLines last ls) ↔ ∃ caption height rest, ls = caption :: height :: rest ∧
      "caption:".toList <+: caption.text ∧ "height:".toList <+: height.text ∧
      Succeeds (rackHeight ⟨height.number, trim (height.text.drop "height:".toList.length)⟩) ∧
      ∃ heading list, rest = heading :: list ∧ "items:".toList <+: heading.text ∧
        ∀ l ∈ list.takeWhile isItem, Succeeds (deviceOf l) := by
  rw [outcome_readLines fun _ _ => not_succeeds_error _]
  simp only [succeeds_bind_of_forall fun _ _ => succeeds_readList]

/-! ## Long numerals -/

/-- No run of digits is longer than what is read. -/
def ShortNumerals (s : List Char) : Prop :=
  ∀ run, run <:+: s → (∀ c ∈ run, isDigit c = true) → run.length ≤ Numeral.maxDigits

theorem ShortNumerals.within {s t : List Char} (h : ShortNumerals s) (ht : t <:+: s) :
    ShortNumerals t := fun run hrun => h run (hrun.trans ht)

theorem infix_of_mem_kept {text l : List Char} (h : l ∈ kept text) : l <:+: text := by
  obtain ⟨l, hl, rfl⟩ := List.mem_map.1 (List.mem_filter.1 h).1
  exact (trim_within l).trans ((lines_within text).2 l hl)

theorem Grammar.Height.within {s digits : List Char} (h : Height s digits) : digits <:+: s := by
  cases h with
  | absent => exact List.infix_refl _
  | @given blanks _ _ _ => exact ⟨blanks ++ ['['], [']'], by simp⟩

theorem Grammar.Height.digits {s digits : List Char} (h : Height s digits) :
    ∀ c ∈ digits, isDigit c = true := by
  cases h with
  | absent => simp
  | given _ hd => exact hd.2

theorem Grammar.Bare.digits {s kind digits label : List Char} (h : Bare s kind digits label) :
    ∀ c ∈ digits, isDigit c = true := by
  obtain ⟨_, _, _, _, hh, _⟩ := h
  exact hh.digits

theorem Grammar.Bare.within {s kind digits label : List Char} (h : Bare s kind digits label) :
    digits <:+: s := by
  obtain ⟨height, blanks, rfl, _, hh, _⟩ := h
  refine hh.within.trans ?_
  exact ⟨kind, blanks ++ ':' :: label, by simp⟩

/-! ## Texts -/

theorem keptLines_text (text : List Char) : (keptLines text).map Line.text = kept text := by
  have hzip : ∀ (ls : List (List Char)) (n : Nat),
      ((ls.zipIdx n).filterMap fun l =>
        if (trim l.1).isEmpty then none else some (⟨l.2, trim l.1⟩ : Line)).map Line.text =
        (ls.map trim).filter fun l => !l.isEmpty := by
    -- the numbers of the lines change on the way, so the induction is for every first number
    intro ls
    induction ls with
    | nil => exact fun _ => rfl
    | cons l ls ih =>
      intro n
      by_cases hempty : (trim l).isEmpty = true
      · simp only [List.zipIdx_cons, List.filterMap_cons, if_pos hempty, ih, List.map_cons]
        rw [List.filter_cons_of_neg (by simp [hempty])]
      · simp only [List.zipIdx_cons, List.filterMap_cons, if_neg hempty, List.map_cons, ih]
        rw [List.filter_cons_of_pos (by simp [hempty])]
  exact hzip (lines text) 1

theorem Grammar.Measured.short {s digits : List Char} (h : Measured s digits)
    (hs : ShortNumerals s) : digits.length ≤ Numeral.maxDigits := by
  rcases h with ⟨category, kind, label, r, rfl, _, hbare⟩ | ⟨_, kind, label, hbare⟩
  · have hr : r <:+: category ++ ':' :: r := ⟨category ++ [':'], [], by simp⟩
    exact hs digits (hbare.within.trans hr) hbare.digits
  · exact hs digits hbare.within hbare.digits

/-- A line of the list is read exactly if it is an item, where numerals are short. -/
theorem succeeds_deviceOf_iff {l : Line} (h : ShortNumerals l.text) :
    Succeeds (deviceOf l) ↔ Entry (trim (l.text.drop 1)) := by
  have hentry : ShortNumerals (trim (l.text.drop 1)) :=
    h.within ((trim_within _).trans (List.drop_suffix 1 l.text).isInfix)
  rw [succeeds_deviceOf]
  constructor
  · intro h
    obtain ⟨digits, hmeasured, hheight⟩ := h
    exact ⟨digits, hmeasured, hheight.imp_right And.right⟩
  · intro h
    obtain ⟨digits, hmeasured, hone⟩ := h
    exact ⟨digits, hmeasured, hone.imp_right fun hvalue => ⟨hmeasured.short hentry, hvalue⟩⟩

theorem heightNumeral_iff {l digits : List Char} {n : Int} :
    HeightNumeral l digits n ↔ "height:".toList <+: l ∧
      Integer (trim (l.drop "height:".toList.length)) digits n := by
  constructor
  · intro h
    obtain ⟨t, rfl, hint⟩ := h
    refine ⟨List.prefix_append _ t, ?_⟩
    rwa [List.drop_left]
  · intro h
    obtain ⟨⟨t, rfl⟩, hint⟩ := h
    rw [List.drop_left] at hint
    exact ⟨t, rfl, hint⟩

theorem Grammar.HeightNumeral.short {l digits : List Char} {n : Int} (h : HeightNumeral l digits n)
    (hs : ShortNumerals l) : digits.length ≤ Numeral.maxDigits := by
  obtain ⟨t, rfl, hint⟩ := h
  have ht : digits <:+: "height:".toList ++ t :=
    hint.suffix.isInfix.trans ((trim_within t).trans (List.suffix_append _ t).isInfix)
  exact hs digits ht hint.digits

theorem heightLine_iff {l : Line} (h : ShortNumerals l.text) :
    ("height:".toList <+: l.text ∧
      Succeeds (rackHeight ⟨l.number, trim (l.text.drop "height:".toList.length)⟩)) ↔
      HeightLine l.text := by
  rw [succeeds_rackHeight]
  constructor
  · intro hl
    obtain ⟨hword, digits, n, hint, _, hn⟩ := hl
    exact ⟨digits, n, heightNumeral_iff.2 ⟨hword, hint⟩, hn⟩
  · intro hl
    obtain ⟨digits, n, hheight, hn⟩ := hl
    obtain ⟨hword, hint⟩ := heightNumeral_iff.1 hheight
    exact ⟨hword, digits, n, hint, hheight.short h, hn⟩

/-- The lines of the list are those whose texts start with a dash. -/
theorem forall_list_iff {rest : List Line} (h : ∀ l ∈ rest, ShortNumerals l.text) :
    (∀ l ∈ rest.takeWhile isItem, Succeeds (deviceOf l)) ↔
      ∀ t ∈ (rest.map Line.text).takeWhile (·.head? == some '-'), Entry (trim (t.drop 1)) := by
  rw [List.takeWhile_map, List.forall_mem_map]
  have hmem : ∀ l ∈ rest.takeWhile isItem, l ∈ rest :=
    fun l hl => (List.takeWhile_prefix isItem).subset hl
  exact forall₂_congr fun l hl => succeeds_deviceOf_iff (h l (hmem l hl))

theorem parse_ok_iff {text : String} (h : ShortNumerals text.toList) :
    (∃ s, parse text = .ok s) ↔ Document (kept text.toList) := by
  have hlines : ∀ l ∈ keptLines text.toList, ShortNumerals l.text := by
    intro l hl
    have hmem : l.text ∈ kept text.toList := keptLines_text text.toList ▸ List.mem_map_of_mem hl
    exact h.within (infix_of_mem_kept hmem)
  -- from here on only the texts of the lines count, and that their numerals are short
  rw [parse_eq, ← keptLines_text]
  show Succeeds _ ↔ _
  rw [succeeds_readLines]
  generalize keptLines text.toList = ls at hlines
  constructor
  · intro hread
    obtain ⟨caption, height, _, rfl, hcaption, hword, hheight, heading, list, rfl, hheading, hlist⟩ :=
      hread
    simp only [List.forall_mem_cons] at hlines
    obtain ⟨_, hshort, _, hshorts⟩ := hlines
    exact ⟨_, _, _, _, rfl, hcaption, (heightLine_iff hshort).1 ⟨hword, hheight⟩, hheading,
      (forall_list_iff hshorts).1 hlist⟩
  · intro hdocument
    obtain ⟨_, _, _, _, hls, hcaption, hheight, hheading, hlist⟩ := hdocument
    obtain ⟨caption, body, rfl, rfl, hbody⟩ := List.map_eq_cons_iff.1 hls
    obtain ⟨height, rest, rfl, rfl, hrest⟩ := List.map_eq_cons_iff.1 hbody
    obtain ⟨heading, list, rfl, rfl, rfl⟩ := List.map_eq_cons_iff.1 hrest
    simp only [List.forall_mem_cons] at hlines
    obtain ⟨_, hshort, _, hshorts⟩ := hlines
    obtain ⟨hword, hnumber⟩ := (heightLine_iff hshort).2 hheight
    exact ⟨caption, height, _, rfl, hcaption, hword, hnumber, heading, list, rfl, hheading,
      (forall_list_iff hshorts).2 hlist⟩

/-- A text with heights in two scripts, both kinds of keys, and a line after its list. -/
def mixed : String :=
  "caption: Core\r\n\r\nheight: +\u0663\r  items:\n- net:switch [2] : [x](y)\n-a-b:c[1]\nend\n- 1"

theorem parse_ok_iff_mixed :
    ShortNumerals mixed.toList ∧ (∃ s, parse mixed = .ok s) ∧ Document (kept mixed.toList) := by
  have hshort : ShortNumerals mixed.toList := by
    intro run hrun _
    have hlength : mixed.toList.length ≤ Numeral.maxDigits := by decide
    exact Nat.le_trans hrun.length_le hlength
  have hparse : Succeeds (parse mixed) := succeeds_of_isOk (by decide +kernel)
  exact ⟨hshort, hparse, (parse_ok_iff hshort).1 hparse⟩

end RackElevation.RackText
