import Mathlib.Algebra.Order.Field.Rat
import Mathlib.Tactic.Linarith
import RackElevation.Proofs.Decimal.Literal
import RackElevation.Proofs.Drawing.Plan

/-
  Measures

  What a reader of a document measures: the numbers that attributes hold, the
  places to which groups are moved, and the rectangles and lines that elements
  draw. A number is written in ASCII digits, with a sign and a point if it needs
  them; a number with an exponent is not measured.

  What is proved:
    1. `number?_integer`, `number?_half` — integers and halves are measured.
    2. `translation?_integers` — so is a move by integers.
    3. `elements_onLines` — the elements of a group without its line breaks.
-/

namespace RackElevation.Markup

open Text
open Plan (kind)

/-! ## Numbers -/

/-- The number of ASCII digits. -/
def digits? (s : List Char) : Option Nat :=
  if !s.isEmpty && s.all Char.isDigit then some (Numeral.valueOf s) else none

/-- The number of digits with or without a point among them. -/
def decimal? (s : List Char) : Option ℚ :=
  match cut '.' s with
  | (whole, none) => (digits? whole).map fun n => n
  | (whole, some part) => do return (← digits? whole) + (← digits? part) / 10 ^ part.length

/-- The number of a decimal with or without a sign. -/
def number? (s : List Char) : Option ℚ :=
  match s with
  | '-' :: r => (decimal? r).map fun x => -x
  | r => decimal? r

theorem digits?_digits (n : Nat) : digits? (Numeral.digits n) = some n := by
  have hne : (Numeral.digits n).isEmpty = false := List.isEmpty_eq_false_iff.2 Nat.toDigits_ne_nil
  have hall : (Numeral.digits n).all Char.isDigit = true :=
    List.all_eq_true.2 fun _ hc => isDigit_of_mem_digits hc
  rw [digits?, hne, hall, Numeral.valueOf_digits]
  rfl

/-- No character but a digit occurs in the digits of a number. -/
theorem not_mem_digits {c : Char} (hc : c.isDigit = false) (n : Nat) : c ∉ Numeral.digits n := by
  intro hmem
  rw [isDigit_of_mem_digits hmem] at hc
  cases hc

theorem decimal?_digits (n : Nat) : decimal? (Numeral.digits n) = some (n : ℚ) := by
  rw [decimal?, cut_none (not_mem_digits (by decide) n)]
  simp [digits?_digits]

theorem number?_digits_append (n : Nat) (r : List Char) :
    number? (Numeral.digits n ++ r) = decimal? (Numeral.digits n ++ r) := by
  cases hs : Numeral.digits n with
  | nil => exact absurd hs Nat.toDigits_ne_nil
  | cons c s =>
    have hc : c ≠ '-' := by
      rintro rfl
      exact not_mem_digits (by decide) n (hs ▸ List.mem_cons_self)
    rw [List.cons_append, number?]
    intro r hr
    cases hr
    exact hc rfl

theorem number?_integer (n : Int) : number? (toString n).toList = some (n : ℚ) := by
  cases n with
  | ofNat m =>
    rw [Int.ofNat_eq_natCast, Numeral.toList_toString]
    have hdecimal := number?_digits_append m []
    rw [List.append_nil, decimal?_digits] at hdecimal
    exact_mod_cast hdecimal
  | negSucc m =>
    rw [Numeral.toList_toString_negSucc, number?, decimal?_digits, Option.map_some, Int.cast_negSucc]

theorem number?_half (k : Nat) : number? (Numeral.digits k ++ ['.', '5']) = some ((k : ℚ) + 1 / 2) := by
  have hfive : digits? ['5'] = some 5 := by decide
  rw [number?_digits_append, decimal?, cut_append _ (not_mem_digits (by decide) k)]
  simp [digits?_digits, hfive]
  norm_num

/-! ## Moves -/

/-- What follows a word at the start of a text. -/
def after? (word s : List Char) : Option (List Char) :=
  if word.isPrefixOf s then some (s.drop word.length) else none

/-- The move that a transformation makes, if it is a translation. -/
def translation? (s : List Char) : Option (ℚ × ℚ) := do
  let (x, rest) := cut ',' (← after? "translate(".toList s)
  let (y, rest) := cut ')' (← rest)
  if rest = some [] then return (← number? x, ← number? (trimStart y)) else none

theorem after?_append (word s : List Char) : after? word (word ++ s) = some s := by
  have hprefix : word.isPrefixOf (word ++ s) = true :=
    List.isPrefixOf_iff_prefix.2 (List.prefix_append word s)
  rw [after?, if_pos hprefix, List.drop_left]

theorem not_mem_integer {c : Char} (hc : isNumberChar c = false) (n : Int) :
    c ∉ (toString n).toList := by
  intro hmem
  rw [mem_toString_int hmem] at hc
  cases hc

theorem translation?_integers (m n : Int) :
    translation? ("translate(" ++ toString m ++ ", " ++ toString n ++ ")").toList =
      some ((m : ℚ), (n : ℚ)) := by
  have htext : ("translate(" ++ toString m ++ ", " ++ toString n ++ ")").toList =
      "translate(".toList ++ ((toString m).toList ++ ',' :: (' ' :: (toString n).toList ++ ')' :: [])) := by
    simp
  have hx : ',' ∉ (toString m).toList := not_mem_integer (by decide) m
  have hy : ')' ∉ ' ' :: (toString n).toList :=
    List.not_mem_cons_of_ne_of_not_mem (by decide) (not_mem_integer (by decide) n)
  have hblank : trimStart (' ' :: (toString n).toList) = (toString n).toList := by
    obtain ⟨digits, hint⟩ := Numeral.integer_toString n
    have htrim := hint.trimStart_eq (List.forall_mem_singleton.2 (by decide) : Blanks [' ']) []
    rwa [List.append_nil] at htrim
  rw [htext, translation?, after?_append]
  simp only [Option.bind_eq_bind, Option.bind_some, cut_append _ hx, cut_append _ hy, if_pos,
    number?_integer, hblank]
  rfl

/-! ## Elements -/

/-- The value of an attribute. -/
def Tree.attribute? (name : String) : Tree → Option (List Char)
  | .element _ attributes _ => attributes.lookup name
  | .text _ => none

/-- The number that an attribute holds. -/
def Tree.measure? (name : String) (t : Tree) : Option ℚ := t.attribute? name >>= number?

/-- The elements directly inside an element. -/
def Tree.elements : Tree → List Tree
  | .element _ _ children => children.filter fun t => kind t ≠ ""
  | .text _ => []

/-- The move of an element. -/
def Tree.move? (t : Tree) : Option (ℚ × ℚ) := t.attribute? "transform" >>= translation?

/-- A rectangle. -/
structure Box where
  x : ℚ
  y : ℚ
  width : ℚ
  height : ℚ

/-- The right edge of a rectangle. -/
def Box.right (b : Box) : ℚ := b.x + b.width

/-- The lower edge of a rectangle. -/
def Box.bottom (b : Box) : ℚ := b.y + b.height

/-- A rectangle in a group that is moved. -/
def Box.moved (b : Box) (d : ℚ × ℚ) : Box := { b with x := b.x + d.1, y := b.y + d.2 }

/-- No part of a rectangle lies outside another. -/
def Box.Within (a b : Box) : Prop := b.x ≤ a.x ∧ a.right ≤ b.right ∧ b.y ≤ a.y ∧ a.bottom ≤ b.bottom

/-- A line. -/
structure Segment where
  x₁ : ℚ
  y₁ : ℚ
  x₂ : ℚ
  y₂ : ℚ

/-- A line in a group that is moved. -/
def Segment.moved (l : Segment) (d : ℚ × ℚ) : Segment :=
  ⟨l.x₁ + d.1, l.y₁ + d.2, l.x₂ + d.1, l.y₂ + d.2⟩

/-- A line is level at a height. -/
def Segment.At (l : Segment) (y : ℚ) : Prop := l.y₁ = y ∧ l.y₂ = y

/-- The rectangle that an element draws. -/
def Tree.box? (t : Tree) : Option Box :=
  if kind t = "rect" then do
    return ⟨← t.measure? "x", ← t.measure? "y", ← t.measure? "width", ← t.measure? "height"⟩
  else none

/-- The line that an element draws. -/
def Tree.segment? (t : Tree) : Option Segment :=
  if kind t = "line" then do
    return ⟨← t.measure? "x1", ← t.measure? "y1", ← t.measure? "x2", ← t.measure? "y2"⟩
  else none

theorem Box.Within.moved {a b : Box} (h : a.Within b) (d : ℚ × ℚ) : (a.moved d).Within (b.moved d) := by
  simp only [Box.Within, Box.right, Box.bottom, Box.moved] at h ⊢
  obtain ⟨hleft, hright, htop, hbottom⟩ := h
  refine ⟨?_, ?_, ?_, ?_⟩ <;> linarith

theorem Box.Within.trans {a b c : Box} (h : a.Within b) (k : b.Within c) : a.Within c := by
  obtain ⟨hleft, hright, htop, hbottom⟩ := h
  obtain ⟨kleft, kright, ktop, kbottom⟩ := k
  exact ⟨kleft.trans hleft, hright.trans kright, ktop.trans htop, hbottom.trans kbottom⟩

/-- The elements of a group without its line breaks. -/
theorem elements_onLines {name : String} {attributes : List Pair} {ts : List Tree}
    (h : ∀ t ∈ ts, kind t ≠ "") : (Tree.element name attributes (onLines ts)).elements = ts := by
  rw [Tree.elements, onLines, List.filter_cons_of_neg (by decide)]
  induction ts with
  | nil => rfl
  | cons t ts ih =>
    obtain ⟨ht, hts⟩ := List.forall_mem_cons.1 h
    rw [List.flatMap_cons, List.filter_append, ih hts, List.filter_cons_of_pos (by simpa using ht),
      List.filter_cons_of_neg (by decide)]
    rfl

end RackElevation.Markup
