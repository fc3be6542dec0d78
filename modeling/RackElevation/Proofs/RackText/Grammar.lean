import RackElevation.Proofs.Decimal.Notation
import RackElevation.RackText.Item

/-
  The grammar of items

  The parts of an item, told without a reader: which texts are identifiers, what
  may stand between an identifier and the colon, and which texts are made of
  these parts. No part can start with a character with which the part before it
  goes on, so a text is made of them in one way at most, and that is the way in
  which it is read.

  What is proved:
    1. `after_eq_some_iff`, `qualified_eq_some_iff` — an item without and with
       its category is read exactly if the text is one.
    2. `split_eq_some_iff` — the category comes first: the rest counts only if
       the text cannot be read with one.
    3. `measured_iff` — the height of an item is that of its parts.
-/

namespace RackElevation.RackText

open Text
open Numeral (Digits)

namespace Grammar

/-- An ASCII letter, and then ASCII letters, digits, `_` or `-`. -/
def Ident (s : List Char) : Prop :=
  ∃ c r, s = c :: r ∧ c.isAlpha = true ∧ ∀ d ∈ r, d.isAlphanum = true ∨ d = '_' ∨ d = '-'

/-- The height of an item with its digits: nothing, or digits in brackets after blanks. -/
inductive Height : List Char → List Char → Prop
  | absent : Height [] []
  | given {blanks digits : List Char} (hb : Blanks blanks) (hd : Digits digits) :
      Height (blanks ++ '[' :: (digits ++ [']'])) digits

/-- A type, a height, a colon after blanks, and a label. -/
def Bare (s kind digits label : List Char) : Prop :=
  ∃ height blanks, s = kind ++ (height ++ (blanks ++ ':' :: label)) ∧
    Ident kind ∧ Height height digits ∧ Blanks blanks

/-- A category and a colon before the rest of an item. -/
def Qualified (s category kind digits label : List Char) : Prop :=
  ∃ r, s = category ++ ':' :: r ∧ Ident category ∧ Bare r kind digits label

/-- A height of at least one, if there is a height. -/
def AtLeastOne (digits : List Char) : Prop := digits = [] ∨ 1 ≤ Numeral.valueOf digits

/-- The digits of the height of an item: of one with a category, or of one that cannot be read with
a category. -/
def Measured (s digits : List Char) : Prop :=
  (∃ category kind label, Qualified s category kind digits label) ∨
  (¬∃ category kind digits label, Qualified s category kind digits label) ∧
    ∃ kind label, Bare s kind digits label

/-- An item whose height is at least one. -/
def Entry (s : List Char) : Prop := ∃ digits, Measured s digits ∧ AtLeastOne digits

end Grammar

open Grammar

/-! ## Identifiers -/

theorem continuesIdentifier_iff {c : Char} :
    continuesIdentifier c = true ↔ c.isAlphanum = true ∨ c = '_' ∨ c = '-' := by
  simp [continuesIdentifier, or_assoc]

/-- An identifier is taken up to the first character that cannot go on with it. -/
theorem takeIdentifier_eq_some_iff {s i r : List Char} :
    takeIdentifier s = some (i, r) ↔
      s = i ++ r ∧ Ident i ∧ ∀ c ∈ r.head?, continuesIdentifier c = false := by
  constructor
  · intro h
    refine ⟨(takeIdentifier_append h).symm, ?_⟩
    cases s with
    | nil => cases h
    | cons c s =>
      simp only [takeIdentifier, Option.ite_none_right_eq_some, Option.some.injEq, Prod.mk.injEq] at h
      obtain ⟨hc, rfl, rfl⟩ := h
      exact ⟨⟨c, _, rfl, hc, fun d hd => continuesIdentifier_iff.1 (mem_takeWhile hd)⟩,
        head_dropWhile s⟩
  · intro h
    obtain ⟨rfl, ⟨c, t, rfl, hc, ht⟩, hr⟩ := h
    have ht : ∀ d ∈ t, continuesIdentifier d = true := fun d hd => continuesIdentifier_iff.2 (ht d hd)
    have hstart : startsIdentifier c = true := hc
    simp only [List.cons_append, takeIdentifier, if_pos hstart, takeWhile_run ht hr,
      dropWhile_run ht hr]

theorem not_continuesIdentifier_of_isBlank {c : Char} (h : isBlank c = true) :
    continuesIdentifier c = false := by
  rw [Bool.eq_false_iff]
  intro hc
  simp only [isBlank, inRanges, blankRanges, List.any_cons, List.any_nil, Bool.or_eq_true,
    Bool.and_eq_true, decide_eq_true_eq, Bool.or_false] at h
  rcases continuesIdentifier_iff.1 hc with hc | rfl | rfl
  · change ((decide ('A'.val ≤ c.val ∧ c.val ≤ 'Z'.val) ||
      (decide ('a'.val ≤ c.val) && decide (c.val ≤ 'z'.val))) ||
      (decide ('0'.val ≤ c.val) && decide (c.val ≤ '9'.val))) = true at hc
    simp only [Bool.or_eq_true, Bool.and_eq_true, decide_eq_true_eq, UInt32.le_iff_toNat_le] at hc
    -- a letter or an ASCII digit lies in none of the ranges of blanks
    change ((65 ≤ c.toNat ∧ c.toNat ≤ 90) ∨ (97 ≤ c.toNat ∧ c.toNat ≤ 122)) ∨
      (48 ≤ c.toNat ∧ c.toNat ≤ 57) at hc
    omega
  · exact absurd h (by decide)
  · exact absurd h (by decide)

theorem not_isBlank_of_continuesIdentifier {c : Char} (h : continuesIdentifier c = true) :
    isBlank c = false := by
  rw [Bool.eq_false_iff]
  intro hblank
  rw [not_continuesIdentifier_of_isBlank hblank] at h
  cases h

/-! ## Blanks and heights -/

theorem afterColon_eq_some_iff {s label : List Char} :
    afterColon s = some label ↔ ∃ blanks, s = blanks ++ ':' :: label ∧ Blanks blanks := by
  constructor
  · intro h
    unfold afterColon at h
    split at h
    case h_1 r hs =>
      cases h
      exact eq_blanks_append hs
    case h_2 => cases h
  · intro h
    obtain ⟨blanks, rfl, hb⟩ := h
    have hcolon : trimStart (blanks ++ ':' :: label) = ':' :: label := trimStart_append hb (by decide) _
    unfold afterColon
    rw [hcolon]
    rfl

theorem digitRun_digits {digits : List Char} (h : Digits digits) (r : List Char) :
    digitRun (digits ++ ']' :: r) = (digits, ']' :: r) := by
  have hstop : ∀ c ∈ (']' :: r).head?, isDigit c = false := by
    intro c hc
    cases hc
    decide
  rw [digitRun, takeWhile_run h.2 hstop, dropWhile_run h.2 hstop]

/-- A height is taken before a text that starts, after blanks, with a colon. -/
theorem takeHeight_append {height digits r : List Char} (h : Height height digits)
    (hr : ∃ t, trimStart r = ':' :: t) : takeHeight (height ++ r) = some (digits, r) := by
  cases h with
  | absent =>
    obtain ⟨t, ht⟩ := hr
    rw [List.nil_append]
    unfold takeHeight
    rw [ht]
    rfl
  | @given blanks digits hb hd =>
    have htrim : trimStart ((blanks ++ '[' :: (digits ++ [']'])) ++ r) = '[' :: (digits ++ ']' :: r) := by
      have := trimStart_append hb (c := '[') (by decide) (digits ++ ']' :: r)
      simpa using this
    obtain ⟨d, ds, rfl⟩ := List.exists_cons_of_ne_nil hd.1
    simp only [takeHeight, htrim, digitRun_digits hd]

theorem height_of_takeHeight {s digits r : List Char} (h : takeHeight s = some (digits, r)) :
    ∃ height, s = height ++ r ∧ Height height digits := by
  unfold takeHeight at h
  split at h
  case h_1 t hs =>
    split at h
    case h_1 d ds rest hrun =>
      cases h
      obtain ⟨blanks, rfl, hb⟩ := eq_blanks_append hs
      have hdigits : t.takeWhile isDigit = d :: ds := congrArg Prod.fst hrun
      have ht : t = (d :: ds) ++ ']' :: r := by
        have := digitRun_append t
        rw [hrun] at this
        exact this.symm
      refine ⟨blanks ++ '[' :: (d :: ds ++ [']']), by simp [ht], .given hb ⟨by simp, ?_⟩⟩
      intro c hc
      rw [← hdigits] at hc
      exact mem_takeWhile hc
    case h_2 => cases h
  case h_2 =>
    cases h
    exact ⟨[], rfl, .absent⟩

/-! ## Items -/

theorem head_blanks {blanks r : List Char} (h : Blanks blanks) {c : Char}
    (hc : continuesIdentifier c = false) :
    ∀ d ∈ (blanks ++ c :: r).head?, continuesIdentifier d = false := by
  intro d hd
  cases blanks with
  | nil =>
    cases hd
    exact hc
  | cons b blanks =>
    cases hd
    exact not_continuesIdentifier_of_isBlank (h d List.mem_cons_self)

/-- An identifier ends before what follows it in an item. -/
theorem head_height {height digits blanks : List Char} (label : List Char)
    (hh : Height height digits) (hb : Blanks blanks) :
    ∀ d ∈ (height ++ (blanks ++ ':' :: label)).head?, continuesIdentifier d = false := by
  cases hh with
  | absent => exact head_blanks hb (by decide)
  | given hb' hd =>
    rw [List.append_assoc]
    exact head_blanks hb' (by decide)

theorem after_eq_some_iff {category : Option (List Char)} {s : List Char} {item : Item} :
    Item.after category s = some item ↔
      item.category = category ∧ Bare s item.kind item.height item.label := by
  constructor
  · intro h
    simp only [Item.after, Option.bind_eq_bind, Option.bind_eq_some_iff, Option.pure_def,
      Option.some.injEq] at h
    obtain ⟨⟨kind, r⟩, hkind, ⟨digits, t⟩, hheight, label, hlabel, rfl⟩ := h
    obtain ⟨rfl, hident, _⟩ := takeIdentifier_eq_some_iff.1 hkind
    obtain ⟨height, rfl, hh⟩ := height_of_takeHeight hheight
    obtain ⟨blanks, rfl, hb⟩ := afterColon_eq_some_iff.1 hlabel
    exact ⟨rfl, height, blanks, rfl, hident, hh, hb⟩
  · intro h
    obtain ⟨rfl, height, blanks, rfl, hident, hh, hb⟩ := h
    have hkind := takeIdentifier_eq_some_iff.2
      ⟨rfl, hident, head_height item.label hh hb⟩
    have hheight := takeHeight_append hh ⟨item.label, trimStart_append hb (by decide) item.label⟩
    have hlabel := afterColon_eq_some_iff.2 ⟨blanks, Eq.refl (blanks ++ ':' :: item.label), hb⟩
    simp only [Item.after, hkind, Option.bind_eq_bind, Option.bind_some, hheight, hlabel]
    rfl

theorem qualified_eq_some_iff {s : List Char} {item : Item} :
    Item.qualified s = some item ↔ ∃ category, item.category = some category ∧
      Qualified s category item.kind item.height item.label := by
  constructor
  · intro h
    simp only [Item.qualified, Option.bind_eq_bind, Option.bind_eq_some_iff] at h
    obtain ⟨⟨category, r⟩, hcategory, h⟩ := h
    obtain ⟨rfl, hident, _⟩ := takeIdentifier_eq_some_iff.1 hcategory
    dsimp only at h
    split at h
    case h_1 t _ =>
      obtain ⟨hitem, hbare⟩ := after_eq_some_iff.1 h
      exact ⟨category, hitem, t, rfl, hident, hbare⟩
    case h_2 => cases h
  · intro h
    obtain ⟨category, hitem, r, rfl, hident, hbare⟩ := h
    have hcategory : takeIdentifier (category ++ ':' :: r) = some (category, ':' :: r) := by
      refine takeIdentifier_eq_some_iff.2 ⟨rfl, hident, ?_⟩
      intro c hc
      cases hc
      decide
    have hafter := after_eq_some_iff.2 ⟨hitem, hbare⟩
    simp only [Item.qualified, hcategory]
    exact hafter

/-- A text is read with a category if it can be, and only otherwise without. -/
theorem split_eq_some_iff {s : List Char} {item : Item} :
    Item.split s = some item ↔
      (∃ category, item.category = some category ∧
        Qualified s category item.kind item.height item.label) ∨
      (¬∃ category kind digits label, Qualified s category kind digits label) ∧
        item.category = none ∧ Bare s item.kind item.height item.label := by
  have hnone : Item.qualified s = none ↔
      ¬∃ category kind digits label, Qualified s category kind digits label := by
    rw [Option.eq_none_iff_forall_ne_some]
    constructor
    · rintro h ⟨category, kind, digits, label, hq⟩
      exact h ⟨some category, kind, digits, label⟩ (qualified_eq_some_iff.2 ⟨category, rfl, hq⟩)
    · rintro h item hitem
      obtain ⟨category, _, hq⟩ := qualified_eq_some_iff.1 hitem
      exact h ⟨category, _, _, _, hq⟩
  rw [← hnone, ← qualified_eq_some_iff, ← after_eq_some_iff, Item.split]
  cases Item.qualified s with
  | none => simp
  | some found => simp

theorem measured_iff {s digits : List Char} :
    Measured s digits ↔ ∃ item, Item.split s = some item ∧ item.height = digits := by
  constructor
  · intro h
    rcases h with ⟨category, kind, label, hq⟩ | ⟨hnone, kind, label, hbare⟩
    · exact ⟨⟨some category, kind, digits, label⟩, split_eq_some_iff.2 (.inl ⟨category, rfl, hq⟩), rfl⟩
    · exact ⟨⟨none, kind, digits, label⟩, split_eq_some_iff.2 (.inr ⟨hnone, rfl, hbare⟩), rfl⟩
  · intro h
    obtain ⟨item, hitem, rfl⟩ := h
    rcases split_eq_some_iff.1 hitem with ⟨category, _, hq⟩ | ⟨hnone, _, hbare⟩
    · exact .inl ⟨category, _, _, hq⟩
    · exact .inr ⟨hnone, _, _, hbare⟩

end RackElevation.RackText
