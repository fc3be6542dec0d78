import RackElevation.Proofs.RackText.Grammar
import RackElevation.Proofs.RackText.Reading

/-
  Judging the lines of rack-text

  What a line of a document is worth: the number on the line of a height, the
  device on a line of the list. Either can be faulty in its form or its value,
  which is a fault of that line; or it holds a numeral of more digits than are
  read, which is a fault without a line.

  What is proved:
    1. `rackHeight_of_integer`, `device_eq_ite` — what becomes of a numeral.
    2. `rackHeight_eq_ok_iff`, `deviceOf_eq_ok_iff` — what a line gives.
    3. `lengthy_rackHeight`, `lengthy_deviceOf` — when its numeral is too long.
    4. `outcome_readLines` — lines are taken one by one, each with its keyword.
-/

namespace RackElevation.RackText

open Text Outcome Grammar
open Numeral (Digits Integer)

/-- A numeral was too long to be read. -/
def Lengthy {α : Type} (x : Except Error α) : Prop := ∃ fault, x = .error (.numeral fault)

/-! ## Numerals -/

theorem isDigits_iff {s : List Char} : (!s.isEmpty && s.all isDigit) = true ↔ Digits s := by
  simp [Digits]

theorem isInteger_iff {s : List Char} : isInteger s = true ↔ ∃ digits n, Integer s digits n := by
  constructor
  · intro h
    cases s with
    | nil => cases h
    | cons c r =>
      by_cases hsign : (c == '+' || c == '-') = true
      · simp only [isInteger, if_pos hsign] at h
        have hd := isDigits_iff.1 h
        rcases Bool.or_eq_true .. ▸ hsign with hc | hc
        · rw [beq_iff_eq.1 hc]
          exact ⟨r, _, .plus hd⟩
        · rw [beq_iff_eq.1 hc]
          exact ⟨r, _, .minus hd⟩
      · simp only [isInteger, if_neg hsign] at h
        exact ⟨c :: r, _, .unsigned (isDigits_iff.1 h)⟩
  · intro h
    obtain ⟨digits, n, h⟩ := h
    cases h with
    | unsigned hd =>
      obtain ⟨c, r, rfl⟩ := List.exists_cons_of_ne_nil hd.1
      have hplus : c ≠ '+' := fun hc => hd.head_ne (by decide) (congrArg some hc)
      have hminus : c ≠ '-' := fun hc => hd.head_ne (by decide) (congrArg some hc)
      have hsign : ¬(c == '+' || c == '-') = true := by simp [hplus, hminus]
      simp only [isInteger, if_neg hsign]
      exact isDigits_iff.2 hd
    | plus hd => exact isDigits_iff.2 hd
    | minus hd => exact isDigits_iff.2 hd

/-! ## Lines -/

theorem rackHeight_of_integer {l : Line} {digits : List Char} {n : Int}
    (h : Integer l.text digits n) :
    rackHeight l = if Numeral.maxDigits < digits.length
      then .error (.numeral (.tooLongToRead digits.length))
      else if n < 1 then .error (.format (.rackTooLow n) l.number) else .ok n := by
  have hint : ¬(!isInteger l.text) = true := by simp [isInteger_iff.2 ⟨digits, n, h⟩]
  rw [rackHeight, if_neg hint, Numeral.read_of_integer h]
  split <;> rfl

theorem rackHeight_of_not_integer {l : Line} (h : ¬∃ digits n, Integer l.text digits n) :
    rackHeight l = .error (.format (.invalidHeight (String.ofList l.text)) l.number) := by
  have hint : (!isInteger l.text) = true := by simpa using fun hint => h (isInteger_iff.1 hint)
  rw [rackHeight, if_pos hint]

/-- The height of a rack is an integer that is not too long and at least one. -/
theorem rackHeight_eq_ok_iff {l : Line} {n : Int} :
    rackHeight l = .ok n ↔
      ∃ digits, Integer l.text digits n ∧ digits.length ≤ Numeral.maxDigits ∧ 1 ≤ n := by
  constructor
  · intro h
    -- a line that is no integer is a fault of its form
    by_cases hint : ∃ digits m, Integer l.text digits m
    · obtain ⟨digits, m, hint⟩ := hint
      rw [rackHeight_of_integer hint] at h
      split at h
      · cases h
      split at h
      · cases h
      · cases h
        exact ⟨digits, hint, by omega, by omega⟩
    · rw [rackHeight_of_not_integer hint] at h
      cases h
  · intro h
    obtain ⟨digits, hint, hshort, hn⟩ := h
    rw [rackHeight_of_integer hint, if_neg (by omega), if_neg (by omega)]

theorem succeeds_rackHeight {l : Line} :
    Succeeds (rackHeight l) ↔
      ∃ digits n, Integer l.text digits n ∧ digits.length ≤ Numeral.maxDigits ∧ 1 ≤ n := by
  simp only [Succeeds, rackHeight_eq_ok_iff]
  exact exists_comm

/-- The device of an item of a height. -/
def Item.made (item : Item) (height : Int) : Device :=
  let label := trim item.label
  let (name, href) := match linkLabel label with
    | some (name, href) => (name, some (String.ofList href))
    | none => (label, none)
  { kind := String.ofList item.kind, category := item.category.map String.ofList,
    height := height, name := String.ofList name, href := href }

theorem Item.made_of_plain {item : Item} (h : linkLabel (trim item.label) = none) (height : Int) :
    item.made height =
      { kind := String.ofList item.kind, category := item.category.map String.ofList,
        height := height, name := String.ofList (trim item.label) } := by
  simp only [Item.made, h]

theorem Item.made_of_linked {item : Item} {name href : List Char}
    (h : linkLabel (trim item.label) = some (name, href)) (height : Int) :
    item.made height =
      { kind := String.ofList item.kind, category := item.category.map String.ofList,
        height := height, name := String.ofList name, href := some (String.ofList href) } := by
  simp only [Item.made, h]

theorem device_eq_ite (item : Item) (number : Nat) :
    item.device number = if item.height = [] then .ok (item.made 1)
      else if Numeral.maxDigits < item.height.length
        then .error (.numeral (.tooLongToRead item.height.length))
      else if Numeral.valueOf item.height < 1
        then .error (.format (.itemTooLow (Numeral.valueOf item.height)) number)
      else .ok (item.made (Numeral.valueOf item.height)) := by
  unfold Item.device
  by_cases hnone : item.height = []
  · rw [if_pos hnone, if_pos (by simp [hnone])]
    rfl
  · rw [if_neg hnone, if_neg (by simpa using hnone), Numeral.readNat]
    split
    · rfl
    · by_cases hlow : Numeral.valueOf item.height < 1
      · rw [if_pos hlow]
        simp only [Except.mapError, bind, Except.bind, if_pos hlow]
        rfl
      · rw [if_neg hlow]
        simp only [Except.mapError, bind, Except.bind, if_neg hlow]
        rfl

/-- The height that an item gives: one if it has none. -/
def Item.value (item : Item) : Nat := if item.height = [] then 1 else Numeral.valueOf item.height

theorem device_eq_ok_iff {item : Item} {number : Nat} {d : Device} :
    item.device number = .ok d ↔
      item.height.length ≤ Numeral.maxDigits ∧ 1 ≤ item.value ∧ d = item.made item.value := by
  rw [device_eq_ite, Item.value]
  by_cases hnone : item.height = []
  · rw [if_pos hnone, if_pos hnone, hnone]
    constructor
    · intro h
      cases h
      exact ⟨Nat.zero_le _, Nat.le_refl 1, rfl⟩
    · intro h
      rw [h.2.2]
      rfl
  · rw [if_neg hnone, if_neg hnone]
    constructor
    · intro h
      split at h
      · cases h
      split at h
      · cases h
      · cases h
        exact ⟨by omega, by omega, rfl⟩
    · intro h
      rw [if_neg (by omega), if_neg (by omega), h.2.2]

theorem succeeds_device {item : Item} {number : Nat} :
    Succeeds (item.device number) ↔ item.height = [] ∨
      item.height.length ≤ Numeral.maxDigits ∧ 1 ≤ Numeral.valueOf item.height := by
  have hvalue : Succeeds (item.device number) ↔
      item.height.length ≤ Numeral.maxDigits ∧ 1 ≤ item.value := by
    simp only [Succeeds, device_eq_ok_iff, exists_and_left, exists_eq, and_true]
  rw [hvalue, Item.value]
  by_cases hnone : item.height = []
  · rw [if_pos hnone, hnone]
    exact iff_of_true ⟨Nat.zero_le _, Nat.le_refl 1⟩ (.inl rfl)
  · rw [if_neg hnone, or_iff_right hnone]

/-- The device that an entry of the list describes. -/
def Describes (entry : List Char) (d : Device) : Prop :=
  ∃ item, Item.split entry = some item ∧ item.height.length ≤ Numeral.maxDigits ∧
    1 ≤ item.value ∧ d = item.made item.value

theorem deviceOf_eq_ok_iff {l : Line} {d : Device} :
    deviceOf l = .ok d ↔ Describes (trim (l.text.drop 1)) d := by
  unfold deviceOf readItem Describes
  cases Item.split (trim (l.text.drop 1)) with
  | none =>
    refine iff_of_false ?_ (by simp)
    dsimp only
    split <;> exact fun h => nomatch h
  | some item => simp [device_eq_ok_iff]

theorem succeeds_deviceOf {l : Line} :
    Succeeds (deviceOf l) ↔ ∃ digits, Measured (trim (l.text.drop 1)) digits ∧
      (digits = [] ∨ digits.length ≤ Numeral.maxDigits ∧ 1 ≤ Numeral.valueOf digits) := by
  simp only [measured_iff, deviceOf, readItem]
  cases Item.split (trim (l.text.drop 1)) with
  | none =>
    refine iff_of_false ?_ (by simp)
    dsimp only
    split <;> exact not_succeeds_error _
  | some item => simp [succeeds_device]

/-! ## Long numerals -/

theorem not_lengthy_format {α : Type} (fault : Fault) (line : Nat) :
    ¬Lengthy (.error (.format fault line) : Except Error α) := fun h => nomatch h

theorem lengthy_bind {α β : Type} {x : Except Error α} {f : α → Except Error β} :
    Lengthy (x >>= f) ↔ Lengthy x ∨ ∃ a, x = .ok a ∧ Lengthy (f a) := by
  constructor
  · intro h
    obtain ⟨fault, h⟩ := h
    rcases bind_eq_error.1 h with hx | ⟨a, ha, hf⟩
    · exact .inl ⟨fault, hx⟩
    · exact .inr ⟨a, ha, fault, hf⟩
  · intro h
    rcases h with ⟨fault, hx⟩ | ⟨a, ha, fault, hf⟩
    · exact ⟨fault, bind_eq_error.2 (.inl hx)⟩
    · exact ⟨fault, bind_eq_error.2 (.inr ⟨a, ha, hf⟩)⟩

theorem lengthy_bind_pure {α β : Type} {x : Except Error α} {f : α → β} :
    Lengthy (x >>= fun a => pure (f a)) ↔ Lengthy x := by
  rw [lengthy_bind]
  apply or_iff_left
  intro h
  obtain ⟨a, _, fault, h⟩ := h
  cases h

/-- The first line that does not pass decides. -/
theorem lengthy_mapM {α β : Type} {f : α → Except Error β} {l : List α} :
    Lengthy (l.mapM f) ↔
      ∃ before a after, l = before ++ a :: after ∧ (∀ b ∈ before, Succeeds (f b)) ∧ Lengthy (f a) := by
  constructor
  · intro h
    obtain ⟨fault, h⟩ := h
    obtain ⟨before, a, after, hl, hbefore, ha⟩ := mapM_eq_error.1 h
    exact ⟨before, a, after, hl, hbefore, fault, ha⟩
  · intro h
    obtain ⟨before, a, after, hl, hbefore, fault, ha⟩ := h
    exact ⟨fault, mapM_eq_error.2 ⟨before, a, after, hl, hbefore, ha⟩⟩

theorem lengthy_rackHeight {l : Line} :
    Lengthy (rackHeight l) ↔
      ∃ digits n, Integer l.text digits n ∧ Numeral.maxDigits < digits.length := by
  constructor
  · intro h
    obtain ⟨fault, h⟩ := h
    by_cases hint : ∃ digits n, Integer l.text digits n
    · obtain ⟨digits, n, hint⟩ := hint
      rw [rackHeight_of_integer hint] at h
      refine ⟨digits, n, hint, ?_⟩
      split at h
      case isTrue hlong => exact hlong
      case isFalse => split at h <;> cases h
    · rw [rackHeight_of_not_integer hint] at h
      cases h
  · intro h
    obtain ⟨digits, n, hint, hlong⟩ := h
    refine ⟨.tooLongToRead digits.length, ?_⟩
    rw [rackHeight_of_integer hint, if_pos hlong]

theorem lengthy_device {item : Item} {number : Nat} :
    Lengthy (item.device number) ↔ Numeral.maxDigits < item.height.length := by
  rw [device_eq_ite]
  split
  case isTrue hnone =>
    refine iff_of_false (fun h => nomatch h) ?_
    simp [hnone]
  case isFalse =>
    split
    case isTrue hlong => exact iff_of_true ⟨_, rfl⟩ hlong
    case isFalse hshort =>
      refine iff_of_false ?_ hshort
      split <;> exact fun h => nomatch h

theorem lengthy_deviceOf {l : Line} :
    Lengthy (deviceOf l) ↔ ∃ digits, Measured (trim (l.text.drop 1)) digits ∧
      Numeral.maxDigits < digits.length := by
  simp only [measured_iff, deviceOf, readItem]
  cases Item.split (trim (l.text.drop 1)) with
  | none =>
    refine iff_of_false ?_ (by simp)
    dsimp only
    split <;> exact fun h => nomatch h
  | some item => simp [lengthy_device]

/-! ## Outcomes -/

section Outcomes

-- an outcome that no fault of a line has
variable {last : Nat} {ls : List Line} {α : Type} {P : Except Error α → Prop}
  (hP : ∀ fault line, ¬P (.error (.format fault line)))

include hP

theorem outcome_takeLine {f : Line × List Line → Except Error α} :
    P (takeLine last ls >>= f) ↔ ∃ l rest, ls = l :: rest ∧ P (f (l, rest)) := by
  cases ls with
  | nil => exact iff_of_false (hP _ _) (by simp)
  | cons l rest =>
    constructor
    · intro h
      exact ⟨l, rest, rfl, h⟩
    · intro h
      obtain ⟨_, _, hls, h⟩ := h
      cases hls
      exact h

theorem outcome_keyword {word : String} {l : Line} {f : Line → Except Error α} :
    P (keyword word l >>= f) ↔ word.toList <+: l.text ∧
      P (f ⟨l.number, trim (l.text.drop word.toList.length)⟩) := by
  unfold keyword
  rw [← List.isPrefixOf_iff_prefix]
  split
  case isTrue hword => exact (and_iff_right hword).symm
  case isFalse hword => exact iff_of_false (hP _ _) fun h => hword h.1

end Outcomes

section Documents

variable {last : Nat} {ls : List Line} {P : Except Error RackSet → Prop}
  (hP : ∀ fault line, ¬P (.error (.format fault line)))

include hP

theorem outcome_readList {caption : Line} {height : Int} :
    P (readList last caption height ls) ↔ ∃ heading rest, ls = heading :: rest ∧
      "items:".toList <+: heading.text ∧
      P ((rest.takeWhile isItem).mapM deviceOf >>= fun devices => pure { racks := [
        { name := String.ofList caption.text, height := height, devices := devices }] }) := by
  rw [readList, outcome_takeLine hP]
  simp only [outcome_keyword hP]

/-- Lines are taken one by one, each with its keyword. -/
theorem outcome_readLines :
    P (readLines last ls) ↔ ∃ caption height rest, ls = caption :: height :: rest ∧
      "caption:".toList <+: caption.text ∧ "height:".toList <+: height.text ∧
      P (rackHeight ⟨height.number, trim (height.text.drop "height:".toList.length)⟩ >>= fun n =>
        readList last ⟨caption.number, trim (caption.text.drop "caption:".toList.length)⟩ n rest) := by
  unfold readLines readBody
  rw [outcome_takeLine hP]
  simp only [outcome_keyword hP, outcome_takeLine hP]
  constructor
  · intro h
    obtain ⟨caption, _, rfl, hcaption, height, rest, rfl, hheight, h⟩ := h
    exact ⟨caption, height, rest, rfl, hcaption, hheight, h⟩
  · intro h
    obtain ⟨caption, height, rest, rfl, hcaption, hheight, h⟩ := h
    exact ⟨caption, _, rfl, hcaption, height, rest, rfl, hheight, h⟩

end Documents

end RackElevation.RackText
