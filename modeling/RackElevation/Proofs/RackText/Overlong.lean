import RackElevation.Proofs.RackText.Acceptance

/-
  Long numerals in rack-text

  A numeral of more than 4300 digits is not read, and what comes of it is no
  fault of a line. It shows only where reading gets that far: as the height of a
  rack under a proper caption, or as the height of an item when all items before
  it can be read.

  What is proved:
    1. `lengthy_parse_iff` — the texts that fail for a numeral, exactly.
    2. `parse_valid` — a rack set that is read keeps its bounds.
-/

namespace RackElevation.RackText

open Text Outcome
open Numeral (Integer)

namespace Grammar

/-- An item that is read: its height, if it has one, is short enough and at least one. -/
def Readable (s : List Char) : Prop :=
  ∃ digits, Measured s digits ∧
    (digits = [] ∨ digits.length ≤ Numeral.maxDigits ∧ 1 ≤ Numeral.valueOf digits)

/-- An item whose height has too many digits. -/
def TooLong (s : List Char) : Prop :=
  ∃ digits, Measured s digits ∧ Numeral.maxDigits < digits.length

/-- The lines of a list, the first of which that cannot be read has too many digits. -/
def OverlongList (ls : List (List Char)) : Prop :=
  ∃ heading list before l after, ls = heading :: list ∧ "items:".toList <+: heading ∧
    list.takeWhile (·.head? == some '-') = before ++ l :: after ∧
    (∀ k ∈ before, Readable (trim (k.drop 1))) ∧ TooLong (trim (l.drop 1))

/-- The lines of a document, the first of which that cannot be read has too many digits. -/
def Overlong (ls : List (List Char)) : Prop :=
  ∃ caption height rest digits n, ls = caption :: height :: rest ∧
    "caption:".toList <+: caption ∧ HeightNumeral height digits n ∧
    (Numeral.maxDigits < digits.length ∨
      digits.length ≤ Numeral.maxDigits ∧ 1 ≤ n ∧ OverlongList rest)

end Grammar

open Grammar

/-! ## Where a numeral is too long -/

theorem lengthy_list_iff {list : List Line} :
    Lengthy ((list.takeWhile isItem).mapM deviceOf) ↔ ∃ before l after,
      (list.map Line.text).takeWhile (·.head? == some '-') = before ++ l :: after ∧
      (∀ k ∈ before, Readable (trim (k.drop 1))) ∧ TooLong (trim (l.drop 1)) := by
  have htexts : (list.map Line.text).takeWhile (·.head? == some '-') =
      (list.takeWhile isItem).map Line.text := List.takeWhile_map ..
  rw [lengthy_mapM, htexts]
  simp only [succeeds_deviceOf, lengthy_deviceOf]
  constructor
  · intro h
    obtain ⟨before, l, after, hlist, hbefore, hl⟩ := h
    refine ⟨before.map Line.text, l.text, after.map Line.text, by simp [hlist], ?_, hl⟩
    intro k hk
    obtain ⟨line, hline, rfl⟩ := List.mem_map.1 hk
    exact hbefore line hline
  · intro h
    obtain ⟨before, t, after, hlist, hbefore, ht⟩ := h
    obtain ⟨before, rest, hrun, rfl, hrest⟩ := List.map_eq_append_iff.1 hlist
    obtain ⟨l, after, rfl, rfl, rfl⟩ := List.map_eq_cons_iff.1 hrest
    refine ⟨before, l, after, hrun, ?_, ht⟩
    intro k hk
    exact hbefore k.text (List.mem_map_of_mem hk)

theorem lengthy_readList {last : Nat} {caption : Line} {height : Int} {ls : List Line} :
    Lengthy (readList last caption height ls) ↔ OverlongList (ls.map Line.text) := by
  rw [outcome_readList not_lengthy_format]
  simp only [lengthy_bind_pure, lengthy_list_iff]
  constructor
  · intro h
    obtain ⟨heading, list, rfl, hheading, h⟩ := h
    obtain ⟨before, l, after, h⟩ := h
    exact ⟨heading.text, list.map Line.text, before, l, after, rfl, hheading, h⟩
  · intro h
    obtain ⟨_, _, before, l, after, hls, hheading, h⟩ := h
    obtain ⟨heading, list, rfl, rfl, rfl⟩ := List.map_eq_cons_iff.1 hls
    exact ⟨heading, list, rfl, hheading, before, l, after, h⟩

/-- The height of a rack fails for its numeral, or it passes and the list does. -/
theorem lengthy_body {last : Nat} {caption height : Line} {rest : List Line} :
    Lengthy (rackHeight height >>= fun n => readList last caption n rest) ↔
      ∃ digits n, Integer height.text digits n ∧ (Numeral.maxDigits < digits.length ∨
        digits.length ≤ Numeral.maxDigits ∧ 1 ≤ n ∧ OverlongList (rest.map Line.text)) := by
  rw [lengthy_bind, lengthy_rackHeight]
  simp only [lengthy_readList]
  constructor
  · intro h
    rcases h with ⟨digits, n, hint, hlong⟩ | ⟨m, hm, hlist⟩
    · exact ⟨digits, n, hint, .inl hlong⟩
    · obtain ⟨digits, n, hint, hshort, hn⟩ := succeeds_rackHeight.1 ⟨m, hm⟩
      exact ⟨digits, n, hint, .inr ⟨hshort, hn, hlist⟩⟩
  · intro h
    obtain ⟨digits, n, hint, hlong | ⟨hshort, hn, hlist⟩⟩ := h
    · exact .inl ⟨digits, n, hint, hlong⟩
    · obtain ⟨m, hm⟩ := succeeds_rackHeight.2 ⟨digits, n, hint, hshort, hn⟩
      exact .inr ⟨m, hm, hlist⟩

theorem lengthy_parse_iff {text : String} :
    Lengthy (parse text) ↔ Overlong (kept text.toList) := by
  -- a fault of a line is none of a numeral, so each line up to the numeral has its keyword
  rw [parse_eq, ← keptLines_text, outcome_readLines not_lengthy_format]
  generalize keptLines text.toList = ls
  simp only [lengthy_body]
  constructor
  · intro h
    obtain ⟨caption, height, rest, rfl, hcaption, hword, digits, n, hint, h⟩ := h
    exact ⟨caption.text, height.text, rest.map Line.text, digits, n, rfl, hcaption,
      heightNumeral_iff.2 ⟨hword, hint⟩, h⟩
  · intro h
    obtain ⟨_, _, _, digits, n, hls, hcaption, hheight, h⟩ := h
    obtain ⟨caption, tail, rfl, rfl, htail⟩ := List.map_eq_cons_iff.1 hls
    obtain ⟨height, rest, rfl, rfl, rfl⟩ := List.map_eq_cons_iff.1 htail
    obtain ⟨hword, hint⟩ := heightNumeral_iff.1 hheight
    exact ⟨caption, height, rest, rfl, hcaption, hword, digits, n, hint, h⟩

/-! ## What is read -/

theorem valid_of_deviceOf {l : Line} {d : Device} (h : deviceOf l = .ok d) : d.Valid := by
  obtain ⟨item, _, _, hone, rfl⟩ := deviceOf_eq_ok_iff.1 h
  refine ⟨Int.ofNat_le.2 hone, ?_⟩
  intro p hp
  cases hp

theorem parse_valid {text : String} {s : RackSet} (h : parse text = .ok s) : s.Valid := by
  rw [parse_eq] at h
  obtain ⟨_, _, h⟩ := bind_eq_ok.1 h
  -- of all the steps only the height and the list bring in numbers
  obtain ⟨caption, _, h⟩ := bind_eq_ok.1 h
  obtain ⟨_, _, h⟩ := bind_eq_ok.1 h
  obtain ⟨_, _, h⟩ := bind_eq_ok.1 h
  obtain ⟨n, hn, h⟩ := bind_eq_ok.1 h
  obtain ⟨_, _, h⟩ := bind_eq_ok.1 h
  obtain ⟨_, _, h⟩ := bind_eq_ok.1 h
  obtain ⟨devices, hdevices, h⟩ := bind_eq_ok.1 h
  have hs := Except.ok.inj h
  subst hs
  have hvalid : ∀ d ∈ devices, d.Valid :=
    forall_of_mapM (fun _ _ hd => valid_of_deviceOf hd) hdevices
  intro r hr
  obtain rfl := List.mem_singleton.1 hr
  obtain ⟨_, _, _, hone⟩ := rackHeight_eq_ok_iff.1 hn
  exact ⟨hone, hvalid⟩

end RackElevation.RackText
