import RackElevation.Yaml.Cursor

/-
  Names, tags and directives of YAML

  The lexemes that are not scalars: a directive line, the name of an anchor or
  an alias, and a tag, which is a handle and an address or an address alone.

  What is proved:
    1. `isAddressChar_of_nameChar` — what may stand in a name may stand in an
       address.
-/

namespace RackElevation.Yaml

open Scan

/-- A directive at the head of a document. -/
inductive Directive
  | version (major minor : Nat)
  | handle (handle address : List Char)
  | other
  deriving DecidableEq, Repr

/-- A tag: an address, shortened by a handle if there is one. -/
structure Tag where
  handle : Option (List Char)
  address : List Char
  deriving DecidableEq, Repr

/-- Whether a character may stand in the address of a tag. -/
def isAddressChar (c : Char) : Bool :=
  c.isAlphanum || "-;/?:@&=+$,_.!~*'()[]%".toList.contains c

/-- The name of an anchor or an alias, from behind its indicator. -/
def nodeName (activity : Activity) : Scan (List Char) := do
  let start ← here
  discard (take 1)
  let name ← takeWhile isNameChar
  if name.isEmpty then unexpected activity start .nameCharacter
  let c ← peek 0
  if !(endsWord c || (c.map fun d => "?:,]\x7d%@\x60".toList.contains d).getD false) then
    unexpected activity start .nameCharacter
  return name

namespace Tag

/-- A handle: `!`, or a name between two of them. -/
def handleText (activity : Activity) (start : Mark) : Scan (List Char) := do
  if (← peek 0) != some '!' then unexpected activity start .exclamation
  if (← peek 1) == some ' ' then take 1
  else
    let length := ((← get).rest.drop 1).takeWhile isNameChar |>.length
    if (← peek (length + 1)) != some '!' then
      discard (take (length + 1))
      unexpected activity start .exclamation
    take (length + 2)

/-- A run of escaped bytes, from its first percent sign on. -/
def escapedBytes (activity : Activity) (start : Mark) : Nat → Scan (List UInt8)
  | 0 => return []
  | n + 1 => do
    if (← peek 0) != some '%' then return []
    discard (take 1)
    for k in [0, 1] do
      match ← peek k with
      | some c => if !isHex c then fail activity start (.expected .addressEscape (some c))
      | none => fail activity start (.expected .addressEscape none)
    let b := UInt8.ofNat (hexNumber (← take 2))
    return b :: (← escapedBytes activity start n)

/-- The characters of an address, its escapes decoded. -/
def addressChars (activity : Activity) (start : Mark) : Nat → Scan (List Char)
  | 0 => return []
  | n + 1 => do
    let run ← takeWhile fun c => isAddressChar c && c != '%'
    if (← peek 0) != some '%' then return run
    let mark ← here
    let bytes ← escapedBytes activity start (← get).rest.length
    match Utf8.decode bytes with
    | .error fault => throw (.fault ⟨some ⟨activity, some start⟩, .undecodable fault, mark⟩)
    | .ok text => return run ++ text ++ (← addressChars activity start n)

/-- An address, which is not empty. `whole` is the activity that is told if it is. -/
def addressText (activity whole : Activity) (start : Mark) : Scan (List Char) := do
  let first ← peek 0
  let text ← addressChars activity start ((← get).rest.length + 1)
  if text.isEmpty && first != some '%' then unexpected whole start .address
  return text

/-- Whether the tag that starts here has a handle: another exclamation mark follows the first. -/
def hasHandle (rest : List Char) : Bool :=
  ((rest.drop 1).takeWhile fun c => !endsField (some c)).contains '!'

/-- A tag, from its exclamation mark on. -/
def scan : Scan Tag := do
  let start ← here
  let c ← peek 1
  let tag ← if c == some '<' then do
      discard (take 2)
      let address ← addressText .tag .tagAddress start
      if (← peek 0) != some '>' then unexpected .tagAddress start .closingAngle
      discard (take 1)
      pure ⟨none, address⟩
    else if endsWord c then do
      discard (take 1)
      pure ⟨none, ['!']⟩
    else do
      let handle ← if hasHandle (← get).rest then handleText .tag start else take 1
      pure ⟨some handle, ← addressText .tag .tagAddress start⟩
  if !endsField (← peek 0) then unexpected .tag start .blank
  return tag

end Tag

namespace Directive

/-- A number of a version directive. -/
def number (start : Mark) : Scan Nat := do
  let digits ← takeWhile Char.isDigit
  if digits.isEmpty then unexpected .directive start .digit
  match Numeral.readNat digits with
  | .ok n => return n
  | .error fault => throw (.misfit (.numeral fault))

/-- The version that a version directive gives. -/
def versionNumbers (start : Mark) : Scan Directive := do
  discard (takeWhile (· == ' '))
  let major ← number start
  if (← peek 0) != some '.' then unexpected .directive start .digitOrPoint
  discard (take 1)
  let minor ← number start
  if !endsField (← peek 0) then unexpected .directive start .digitOrBlank
  return .version major minor

/-- The handle and the address that a tag directive gives. -/
def handleAddress (start : Mark) : Scan Directive := do
  discard (takeWhile (· == ' '))
  let handle ← Tag.handleText .directive start
  if (← peek 0) != some ' ' then unexpected .directive start .blank
  discard (takeWhile (· == ' '))
  let address ← Tag.addressText .directive .directiveAddress start
  if !endsField (← peek 0) then unexpected .directive start .blank
  return .handle handle address

/-- A directive, from its percent sign to the end of its line. -/
def scan : Scan Directive := do
  let start ← here
  discard (take 1)
  let name ← takeWhile isNameChar
  if name.isEmpty || !endsField (← peek 0) then unexpected .directive start .nameCharacter
  let directive ← if name == ['Y', 'A', 'M', 'L'] then versionNumbers start
    else if name == ['T', 'A', 'G'] then handleAddress start
    else do
      discard (takeWhile fun c => !isBreak c)
      pure .other
  restOfLine .directive start
  return directive

end Directive

theorem isAddressChar_of_nameChar {c : Char} (h : isNameChar c = true) : isAddressChar c = true := by
  simp only [isNameChar, Bool.or_eq_true, beq_iff_eq] at h
  rcases h with (h | rfl) | rfl
  · simp [isAddressChar, h]
  · decide
  · decide

end RackElevation.Yaml
