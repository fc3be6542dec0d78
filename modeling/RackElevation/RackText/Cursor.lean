import RackElevation.Text.Lines
import RackElevation.RackText.Item

/-
  A reader of rack-text, line by line

  Only lines that are not blank count; each is trimmed and keeps the number it
  has in the text. A cursor stands before one of them. Taking a line moves the
  cursor past it whether or not the line then turns out to be faulty, so a
  reader can go on after a fault.

  What is proved:
    1. `keptLines_not_blank` — no kept line is empty.
    2. `next_move` — taking a line moves the cursor by one, and not at all at
       the end.
-/

namespace RackElevation.RackText

open Text

/-- A line that is not blank, and its number in the text. -/
structure Line where
  number : Nat
  text : List Char
  deriving DecidableEq, Repr

/-- The lines of a text that are not blank, trimmed, the first line having number one. -/
def keptLines (text : List Char) : List Line :=
  ((lines text).zipIdx 1).filterMap fun l =>
    if (trim l.1).isEmpty then none else some ⟨l.2, trim l.1⟩

/-- The lines of a document and how many of them have been taken. -/
structure Cursor where
  lines : List Line
  index : Nat := 0
  deriving DecidableEq, Repr

namespace Cursor

/-- A cursor before the first line of a text. -/
def ofText (text : String) : Cursor := ⟨keptLines text.toList, 0⟩

/-- The lines that have not been taken. -/
def rest (c : Cursor) : List Line := c.lines.drop c.index

/-- Whether a line is left. -/
def hasMore (c : Cursor) : Bool := c.index < c.lines.length

/-- The text of the next line, empty at the end. -/
def peek (c : Cursor) : List Char := (c.rest.head?.map Line.text).getD []

/-- The number of the last line, one if there is none. -/
def lastNumber (c : Cursor) : Nat := (c.lines.getLast?.map Line.number).getD 1

end Cursor

/-- A step of reading: it may fail, and moves the cursor in either case. -/
abbrev Reading := ExceptT Error (StateM Cursor)

/-- Takes the next line. -/
def next : Reading Line := do
  let c ← get
  match c.rest with
  | [] => throw (.format .endOfInput c.lastNumber)
  | line :: _ =>
    set { c with index := c.index + 1 }
    return line

/-- Takes a line that starts with a keyword; gives what follows the keyword, trimmed. -/
def expect (keyword : List Char) : Reading Line := do
  let line ← next
  if keyword.isPrefixOf line.text then
    return ⟨line.number, trim (line.text.drop keyword.length)⟩
  else throw (.format (.expected (String.ofList keyword) (String.ofList line.text)) line.number)

/-- Takes a line as an item; its first character is the dash of the list. -/
def item : Reading Device := do
  let line ← next
  readItem (trim (line.text.drop 1)) line.number

/-- Whether the text is a sign, if any, and digits. -/
def isInteger (s : List Char) : Bool :=
  match s with
  | c :: r => if c == '+' || c == '-' then !r.isEmpty && r.all isDigit else s.all isDigit
  | [] => false

/-- Takes the name and the height of the rack. -/
def header : Reading Rack := do
  let caption ← expect "caption:".toList
  let line ← expect "height:".toList
  if !isInteger line.text then
    throw (.format (.invalidHeight (String.ofList line.text)) line.number)
  let height ← (Numeral.read line.text).mapError Error.numeral
  if height < 1 then throw (.format (.rackTooLow height) line.number)
  return { name := String.ofList caption.text, height := height }

/-- Takes the heading of the list and every item that follows it. -/
def items : Reading (List Device) := do
  let _ ← expect "items:".toList
  let run := (← get).rest.takeWhile fun line => line.text.head? == some '-'
  run.mapM fun _ => item

/-- Takes one rack. -/
def document : Reading RackSet := do
  let rack ← header
  let devices ← items
  return { racks := [{ rack with devices := devices }] }

/-- The rack set of a text; lines after the last item are not read. -/
def parse (text : String) : Except Error RackSet := (document.run (Cursor.ofText text)).1

theorem keptLines_not_blank {text : List Char} {l : Line} (h : l ∈ keptLines text) :
    l.text ≠ [] := by
  simp only [keptLines, List.mem_filterMap] at h
  obtain ⟨p, _, hp⟩ := h
  split at hp
  · simp at hp
  · next hne => simp only [Option.some.injEq] at hp; subst hp; simpa using hne

theorem Cursor.hasMore_eq (c : Cursor) : c.hasMore = !c.rest.isEmpty := by
  by_cases h : c.index < c.lines.length
  · have hne : c.rest ≠ [] := by simp [rest, h]
    simp [hasMore, h, hne]
  · have hnil : c.rest = [] := by simp [rest]; omega
    simp [hasMore, h, hnil]

theorem next_run (c : Cursor) :
    (next.run c) = match c.rest with
      | [] => (.error (.format .endOfInput c.lastNumber), c)
      | line :: _ => (.ok line, { c with index := c.index + 1 }) := by
  have hstep : next.run c = (match c.rest with
      | [] => (throw (Error.format .endOfInput c.lastNumber) : Reading Line)
      | line :: _ => do
        set { c with index := c.index + 1 }
        return line).run c := rfl
  rw [hstep]
  cases c.rest <;> rfl

theorem next_move (c : Cursor) :
    (next.run c).2 = if c.hasMore then { c with index := c.index + 1 } else c := by
  rw [next_run, Cursor.hasMore_eq]
  cases c.rest <;> simp

end RackElevation.RackText
