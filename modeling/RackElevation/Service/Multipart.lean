import RackElevation.Service.HeaderValue

/-
  Forms in parts

  A form in parts is written between delimiters: a line of two hyphens and the
  boundary, the last one with two more hyphens behind it. A part is a head of
  header lines, a blank line, and the bytes up to the line break before the next
  delimiter. Its disposition names it, and one that names a file as well is no
  field. A line may end in a carriage return, a line feed or both.

  What is proved:
    1. `readParts_length` — a form has at most as many parts as are allowed.
-/

namespace RackElevation.Multipart

open Text

/-- Why a form is not read. -/
inductive Fault
  | malformed
  | tooLarge
  deriving DecidableEq, Repr

/-- A part of a form. -/
inductive Part
  | field (name : Option (List Char)) (text : List Char)
  | file
  deriving DecidableEq, Repr

/-- What stands before the first place at which something is found, and what is found there. -/
def before {α : Type} (find? : List UInt8 → Option α) : List UInt8 → Option (List UInt8 × α)
  | [] => (find? []).map ([], ·)
  | b :: r =>
    match find? (b :: r) with
    | some a => some ([], a)
    | none => (before find? r).map fun (t, a) => (b :: t, a)

/-- What follows the line break at the start. -/
def lineBreak? : List UInt8 → Option (List UInt8)
  | 0x0D :: 0x0A :: r => some r
  | 0x0D :: r => some r
  | 0x0A :: r => some r
  | _ => none

/-- What follows the bytes at the start. -/
def after? : List UInt8 → List UInt8 → Option (List UInt8)
  | [], s => some s
  | a :: p, b :: s => if a = b then after? p s else none
  | _ :: _, [] => none

/-- Whether a byte is a blank that breaks no line. -/
def isSpace (b : UInt8) : Bool := b == 0x20 || b == 0x09 || b == 0x0B || b == 0x0C

/-- Whether a byte is blank. -/
def isBlankByte (b : UInt8) : Bool := isSpace b || b == 0x0A || b == 0x0D

/-- Two hyphens. -/
def hyphens : List UInt8 := [0x2D, 0x2D]

/-- Whether a delimiter is the last one, and what follows it, given what follows its boundary. -/
def delimiterEnd? (s : List UInt8) : Option (Bool × List UInt8) :=
  match after? hyphens s with
  | some r =>
    let r := r.dropWhile isSpace
    some (true, (lineBreak? r).getD r)
  | none => (lineBreak? (s.dropWhile isSpace)).map (false, ·)

/-- The delimiter at the start, the line break before it apart. -/
def opening? (boundary s : List UInt8) : Option (Bool × List UInt8) :=
  (after? (hyphens ++ boundary) s).bind delimiterEnd?

/-- The delimiter at the start, together with the line break before it. -/
def delimiter? (boundary s : List UInt8) : Option (Bool × List UInt8) :=
  (lineBreak? s).bind (opening? boundary)

/-- The blank line behind a head; what follows starts with the second of its breaks. -/
def blankLine? : List UInt8 → Option (List UInt8)
  | 0x0D :: 0x0A :: 0x0D :: 0x0A :: r => some (0x0D :: 0x0A :: r)
  | 0x0D :: 0x0D :: r => some (0x0D :: r)
  | 0x0A :: 0x0A :: r => some (0x0A :: r)
  | _ => none

/-- A head in which lines that start with a blank go on with the line before. -/
def unfolded : List UInt8 → List UInt8
  | 0x0D :: 0x0A :: b :: r =>
    if b = 0x20 ∨ b = 0x09 then 0x20 :: unfolded r else 0x0D :: unfolded (0x0A :: b :: r)
  | a :: b :: r =>
    if (a = 0x0D ∨ a = 0x0A) ∧ (b = 0x20 ∨ b = 0x09) then 0x20 :: unfolded r
    else a :: unfolded (b :: r)
  | r => r

/-- The lines of a head that are not blank, trimmed. -/
def headLines (s : List UInt8) : List (List UInt8) :=
  ((s.splitBy fun a b => !isBreak a && !isBreak b).map trimmed).filter fun l => !l.isEmpty
where
  /-- Whether a byte ends a line. -/
  isBreak (b : UInt8) : Bool := b == 0x0D || b == 0x0A
  /-- Bytes without the blank ones at the ends. -/
  trimmed (l : List UInt8) : List UInt8 :=
    ((l.dropWhile isBlankByte).reverse.dropWhile isBlankByte).reverse

/-- The headers of a part by name, in small letters. -/
def headers (head : List UInt8) : Except Fault (List (List Char × List Char)) :=
  (headLines (unfolded head)).mapM fun line =>
    match Utf8.decode line with
    | .error _ => .error .malformed
    | .ok line =>
      let (name, value) := cut ':' line
      .ok ((trim name).map Char.toLower, trim (value.getD []))

/-- The character set of a part. -/
def charset (headers : List (List Char × List Char)) : Charset :=
  (((headers.lookup "content-type".toList).bind fun v =>
    (HeaderValue.ofText v).option? "charset").bind Charset.ofName?).getD .utf8

/-- The longest field that is read. -/
def maxField : Nat := 500000

/-- The part with a head and a content. -/
def part (headers : List (List Char × List Char)) (disposition : HeaderValue)
    (content : List UInt8) : Except Fault Part :=
  if (disposition.option? "filename").isSome then .ok .file
  else if maxField < content.length then .error .tooLarge
  else .ok (.field (disposition.option? "name") ((charset headers).decode content))

/-- Something that is there, or the fault of a form that is not well formed. -/
def expect {α : Type} (found : Option α) : Except Fault α :=
  match found with
  | some a => .ok a
  | none => .error .malformed

theorem eq_ok_of_bind {α β : Type} {x : Except Fault α} {f : α → Except Fault β} {b : β}
    (h : (x >>= f) = .ok b) : ∃ a, x = .ok a ∧ f a = .ok b := by
  cases x with
  | error e => cases (h : Except.error e = .ok b)
  | ok a => exact ⟨a, rfl, h⟩

/-- The parts behind a delimiter, of which `left` are allowed. -/
def readParts (boundary : List UInt8) (left : Nat) (s : List UInt8) : Except Fault (List Part) := do
  let (head, behind) ← expect (before blankLine? s)
  let headers ← headers head
  let disposition ← expect (headers.lookup "content-disposition".toList)
  match left with
  | 0 => .error .tooLarge
  | n + 1 =>
    let (content, isLast, rest) ← expect (before (delimiter? boundary) behind)
    let breakLength := behind.length - ((lineBreak? behind).getD behind).length
    let p ← part headers (HeaderValue.ofText disposition) (content.drop breakLength)
    if isLast then .ok [p] else (p :: ·) <$> readParts boundary n rest

/-- The most parts that are read. -/
def maxParts : Nat := 1000

/-- The parts of a form. -/
def read (boundary s : List UInt8) : Except Fault (List Part) := do
  let (_, isLast, rest) ← expect (before (opening? boundary) s)
  if isLast then .ok [] else readParts boundary maxParts rest

/-- The text of the first field with a name. -/
def field? (name : String) (parts : List Part) : Option (List Char) :=
  parts.findSome? fun
    | .field (some n) text => if n = name.toList then some text else none
    | _ => none

theorem readParts_length {boundary : List UInt8} {left : Nat} {s : List UInt8} {ps : List Part}
    (h : readParts boundary left s = .ok ps) : ps.length ≤ left := by
  induction left generalizing s ps with
  | zero =>
    unfold readParts at h
    obtain ⟨_, _, h⟩ := eq_ok_of_bind h
    obtain ⟨_, _, h⟩ := eq_ok_of_bind h
    obtain ⟨_, _, h⟩ := eq_ok_of_bind h
    cases (h : Except.error Fault.tooLarge = .ok ps)
  | succ n ih =>
    unfold readParts at h
    obtain ⟨_, _, h⟩ := eq_ok_of_bind h
    obtain ⟨_, _, h⟩ := eq_ok_of_bind h
    obtain ⟨_, _, h⟩ := eq_ok_of_bind h
    obtain ⟨⟨_, isLast, rest⟩, _, h⟩ := eq_ok_of_bind h
    obtain ⟨p, _, h⟩ := eq_ok_of_bind h
    cases isLast with
    | true =>
      cases h
      simp
    | false =>
      have h : (readParts boundary n rest >>= fun qs => .ok (p :: qs)) = .ok ps := h
      obtain ⟨qs, hq, heq⟩ := eq_ok_of_bind h
      cases heq
      simpa using ih hq

end RackElevation.Multipart
