import RackElevation.Text.Blank
import RackElevation.RackText.Fault
import RackElevation.Rack

/-
  Items of rack-text

  An item is a key, an optional height in brackets, a colon and a label:

      - server[2]: Web1
      - net:switch: [SW1](https://example.com/sw1)

  A key is a device type, or a category, a colon and a type. A label is the
  name of the device, or the name in brackets followed by its link in
  parentheses. No part of an item can start with a character that the part
  before it may end with, so each part is simply as long as it can be.

  What is proved:
    1. `takeIdentifier_append` — an identifier and what follows it give back
       the text.
    2. `digitRun_append` — so do digits and what follows them.
-/

namespace RackElevation.RackText

open Text

/-- Whether a character may start an identifier. -/
def startsIdentifier (c : Char) : Bool := c.isAlpha

/-- Whether a character may go on with an identifier. -/
def continuesIdentifier (c : Char) : Bool := c.isAlphanum || c == '_' || c == '-'

/-- The identifier a text starts with, and the rest. -/
def takeIdentifier (s : List Char) : Option (List Char × List Char) :=
  match s with
  | [] => none
  | c :: r =>
    if startsIdentifier c then
      some (c :: r.takeWhile continuesIdentifier, r.dropWhile continuesIdentifier)
    else none

/-- The digits a text starts with, and the rest. -/
def digitRun (s : List Char) : List Char × List Char := (s.takeWhile isDigit, s.dropWhile isDigit)

/-- A height in brackets, after blanks, and the rest; without brackets, no height. -/
def takeHeight (s : List Char) : Option (List Char × List Char) :=
  match trimStart s with
  | '[' :: r =>
    match digitRun r with
    | (d :: ds, ']' :: rest) => some (d :: ds, rest)
    | _ => none
  | _ => some ([], s)

/-- What follows a colon, after blanks. -/
def afterColon (s : List Char) : Option (List Char) :=
  match trimStart s with
  | ':' :: r => some r
  | _ => none

/-- The parts of an item: its key, the digits of its height, and its label. -/
structure Item where
  category : Option (List Char)
  kind : List Char
  height : List Char
  label : List Char
  deriving DecidableEq, Repr

/-- An item after its category, if it has one. -/
def Item.after (category : Option (List Char)) (s : List Char) : Option Item := do
  let (kind, s) ← takeIdentifier s
  let (height, s) ← takeHeight s
  let label ← afterColon s
  return ⟨category, kind, height, label⟩

/-- An item with a category. -/
def Item.qualified (s : List Char) : Option Item := do
  let (category, s) ← takeIdentifier s
  match s with
  | ':' :: r => Item.after (some category) r
  | _ => none

/-- The parts of an item. -/
def Item.split (s : List Char) : Option Item := Item.qualified s <|> Item.after none s

/-- The name and the link of a label that has both. -/
def linkLabel (s : List Char) : Option (List Char × List Char) :=
  match s with
  | '[' :: r =>
    match r.takeWhile (· != ']'), r.dropWhile (· != ']') with
    | n :: name, ']' :: '(' :: r =>
      match r.takeWhile (· != ')'), r.dropWhile (· != ')') with
      | h :: href, [')'] => some (n :: name, h :: href)
      | _, _ => none
    | _, _ => none
  | _ => none

/-- The device of an item, whose `number` is that of its line. -/
def Item.device (item : Item) (number : Nat) : Except Error Device := do
  let height ← if item.height.isEmpty then pure 1
    else (Numeral.readNat item.height).mapError .numeral
  if height < 1 then throw (.format (.itemTooLow height) number)
  let label := trim item.label
  let (name, href) := match linkLabel label with
    | some (name, href) => (name, some (String.ofList href))
    | none => (label, none)
  return { kind := String.ofList item.kind, category := item.category.map String.ofList,
           height := height, name := String.ofList name, href := href }

/-- The device that a line after its dash describes. -/
def readItem (entry : List Char) (number : Nat) : Except Error Device :=
  match Item.split entry with
  | some item => item.device number
  | none =>
    if entry.contains ':' then
      .error (.format (.invalidKey (String.ofList (trim (entry.takeWhile (· != ':'))))) number)
    else .error (.format .noColon number)

theorem takeIdentifier_append {s i r : List Char} (h : takeIdentifier s = some (i, r)) :
    i ++ r = s := by
  cases s with
  | nil => simp [takeIdentifier] at h
  | cons c s =>
    simp only [takeIdentifier] at h
    split at h
    · simp only [Option.some.injEq, Prod.mk.injEq] at h
      rw [← h.1, ← h.2, List.cons_append, List.takeWhile_append_dropWhile]
    · simp at h

theorem digitRun_append (s : List Char) : (digitRun s).1 ++ (digitRun s).2 = s :=
  List.takeWhile_append_dropWhile

end RackElevation.RackText
