import RackElevation.Yaml.Cursor

/-
  Scalars of YAML

  Plain, quoted and block scalars, read from their first character on. A line
  break inside a scalar folds into a space, further ones are kept; in a literal
  block every break is kept. All loops are bounded by the length of the text
  that is left. A scalar in double quotes is made of code points, as an escape
  in it may stand for a surrogate.
-/

namespace RackElevation.Yaml

open Scan

/-- A line break and those after it, folded. -/
def foldedBreaks (first : List Char) (others : List (List Char)) : List Char :=
  (if first != ['\n'] then first else if others.isEmpty then [' '] else []) ++ others.flatten

namespace Plain

/-- The length of the word that a plain scalar goes on with. -/
def wordLength (inFlow : Bool) : List Char → Nat
  | [] => 0
  | c :: r =>
    let next := r.head?
    if endsWord (some c) then 0
    else if c == ':' && (endsWord next || (inFlow && (next.map fun d => [',', '[', ']', '{', '}'].contains d).getD false))
    then 0
    else if inFlow && [',', '?', '[', ']', '{', '}'].contains c then 0
    else wordLength inFlow r + 1

/-- Further line breaks and the spaces around them; nothing if a document separator comes. -/
def breaks : Nat → Scan (Option (List (List Char)))
  | 0 => return some []
  | n + 1 => do
    match ← peek 0 with
    | some ' ' => discard (take 1); breaks n
    | c =>
      if c.isNone || !endsLine c then return some []
      let b ← lineBreak
      if ← atSeparator then return none
      return (← breaks n).map (b :: ·)

/-- What stands between two words: the text it stands for, and whether a line ended. -/
def gap : Scan (List Char × Bool) := do
  let spaces ← takeWhile (· == ' ')
  let c ← peek 0
  if c.isSome && endsLine c then
    let first ← lineBreak
    if ← atSeparator then return ([], true)
    match ← breaks (← get).rest.length with
    | none => return ([], true)
    | some others => return (foldedBreaks first others, true)
  else return (spaces, false)

/-- The words of a plain scalar after the text `before`, and whether a line ended after the last. -/
def words (inFlow : Bool) (indent : Int) (before : List Char) (ended : Bool) :
    Nat → Scan (List Char × Bool)
  | 0 => return ([], ended)
  | n + 1 => do
    let length := wordLength inFlow (← get).rest
    if (← peek 0) == some '#' || length == 0 then return ([], ended)
    let word ← take length
    let (space, ended) ← gap
    let column := (← here).column
    if space.isEmpty || (← peek 0) == some '#' || (!inFlow && (column : Int) < indent) then
      return (before ++ word, ended)
    let (rest, ended) ← words inFlow indent space ended n
    return (before ++ word ++ rest, ended)

end Plain

/-- A plain scalar, and whether a line ended after it. -/
def plainScalar (inFlow : Bool) (indent : Int) : Scan (List Char × Bool) := do
  Plain.words inFlow indent [] false (← get).rest.length

namespace Quoted

/-- What an escaped character stands for. -/
def escapes : List (Char × Char) :=
  [('0', '\x00'), ('a', '\x07'), ('b', '\x08'), ('t', '\t'), ('\t', '\t'), ('n', '\n'),
   ('v', '\x0b'), ('f', '\x0c'), ('r', '\r'), ('e', '\x1b'), (' ', ' '), ('"', '"'),
   ('\\', '\\'), ('/', '/'), ('N', '\x85'), ('_', '\xa0'), ('L', '\u2028'), ('P', '\u2029')]

/-- How many digits follow an escape that gives a number. -/
def escapeLengths : List (Char × Nat) := [('x', 2), ('u', 4), ('U', 8)]

/-- Line breaks and the blanks after each. -/
def breaks (start : Mark) : Nat → Scan (List (List Char))
  | 0 => return []
  | n + 1 => do
    if ← atSeparator then fail .quoted start .separatorInQuotes
    discard (takeWhile fun c => c == ' ' || c == '\t')
    let c ← peek 0
    if c.isNone || !endsLine c then return []
    let b ← lineBreak
    return b :: (← breaks start n)

/-- The text of an escape, from behind the backslash. An escape by number may give a surrogate. -/
def escape (start : Mark) : Scan (List CodePoint) := do
  let c ← peek 0
  match c.bind fun c => escapes.lookup c with
  | some d => discard (take 1); return [.char d]
  | none =>
    match c.bind fun c => escapeLengths.lookup c with
    | some n =>
      discard (take 1)
      let digits := (← get).rest.take n
      match digits.find? fun c => !isHex c with
      | some c => fail .doubleQuoted start (.expected (.escapeDigits n) (some c))
      | none =>
        if digits.length < n then fail .doubleQuoted start (.expected (.escapeDigits n) none)
        let code := hexNumber digits
        if 0x110000 ≤ code then throw (.misfit (.character code))
        discard (take n)
        return [.ofNumber code]
    | none =>
      if c.isSome && endsLine c then
        discard lineBreak
        return CodePoint.ofChars (← breaks start (← get).rest.length).flatten
      else fail .doubleQuoted start (.unknownEscape c)

/-- Whether a character stands for itself in any quotes. -/
def isOrdinary (c : Char) : Bool := !endsWord (some c) && c != '\'' && c != '"' && c != '\\'

/-- Text up to a blank, a break or the closing quote. -/
def solid (double : Bool) (start : Mark) : Nat → Scan (List CodePoint)
  | 0 => return []
  | n + 1 => do
    let run := CodePoint.ofChars (← takeWhile isOrdinary)
    match ← peek 0, ← peek 1 with
    | some '\'', next =>
      if double then
        discard (take 1)
        return run ++ .char '\'' :: (← solid double start n)
      else if next == some '\'' then
        discard (take 2)
        return run ++ .char '\'' :: (← solid double start n)
      else return run
    | some '"', _ =>
      if double then return run
      discard (take 1)
      return run ++ .char '"' :: (← solid double start n)
    | some '\\', _ =>
      discard (take 1)
      let text ← if double then escape start else pure [.char '\\']
      return run ++ text ++ (← solid double start n)
    | _, _ => return run

/-- Blanks inside quotes, or line breaks and the blanks around them. -/
def spaces (start : Mark) : Scan (List Char) := do
  let blanks ← takeWhile fun c => c == ' ' || c == '\t'
  match ← peek 0 with
  | none => fail .quoted start .endInQuotes
  | some c =>
    if isBreak c then
      let first ← lineBreak
      return foldedBreaks first (← breaks start (← get).rest.length)
    else return blanks

/-- The text up to the closing quote, which is taken as well. -/
def content (double : Bool) (start : Mark) : Nat → Scan (List CodePoint)
  | 0 => return []
  | n + 1 => do
    let text ← solid double start ((← get).rest.length + 1)
    if (← peek 0) == some (if double then '"' else '\'') then
      discard (take 1)
      return text
    let space ← spaces start
    return text ++ CodePoint.ofChars space ++ (← content double start n)

end Quoted

/-- A quoted scalar. -/
def quotedScalar (double : Bool) : Scan (List CodePoint) := do
  let start ← here
  discard (take 1)
  Quoted.content double start ((← get).rest.length + 1)

namespace Block

/-- What becomes of the line breaks at the end of a block. -/
inductive Chomping
  | strip
  | clip
  | keep
  deriving DecidableEq, Repr

/-- A chomping indicator. -/
def chomping? : Scan (Option Chomping) := do
  match ← peek 0 with
  | some '+' => discard (take 1); return some .keep
  | some '-' => discard (take 1); return some .strip
  | _ => return none

/-- An indentation indicator. -/
def increment? (start : Mark) : Scan (Option Nat) := do
  match ← peek 0 with
  | some '0' => fail .blockScalar start .zeroIndentation
  | some c =>
    if c.isDigit then
      discard (take 1)
      return some (c.toNat - 48)
    else return none
  | none => return none

/-- The indicators of a block, in either order. -/
def indicators (start : Mark) : Scan (Chomping × Option Nat) := do
  let first ← chomping?
  let increment ← increment? start
  let second ← if first.isNone && increment.isSome then chomping? else pure none
  if !endsField (← peek 0) then unexpected .blockScalar start .blockIndicator
  return ((first <|> second).getD .clip, increment)

/-- The line breaks before the first text of a block, and the widest indentation among them. -/
def leading (widest : Nat) : Nat → Scan (List (List Char) × Nat)
  | 0 => return ([], widest)
  | n + 1 => do
    match ← peek 0 with
    | some ' ' =>
      discard (take 1)
      leading (max widest (← here).column) n
    | c =>
      if c.isNone || !endsLine c then return ([], widest)
      let b ← lineBreak
      let (others, widest) ← leading widest n
      return (b :: others, widest)

/-- Takes spaces up to a column. -/
def indentTo (indent : Nat) : Scan Unit := do
  let c ← get
  discard (take (min ((c.rest.takeWhile (· == ' ')).length) (indent - c.mark.column)))

/-- Line breaks, and the indentation after them. -/
def breaks (indent : Nat) : Nat → Scan (List (List Char))
  | 0 => return []
  | n + 1 => do
    indentTo indent
    let c ← peek 0
    if c.isNone || !endsLine c then return []
    let b ← lineBreak
    return b :: (← breaks indent n)

/-- Whether a line of the block starts here. -/
def atLine (indent : Nat) : Scan Bool := do
  return (← here).column == indent && (← peek 0).isSome

/-- Whether a line starts with a blank. -/
def startsBlank : Scan Bool := do
  match ← peek 0 with
  | some c => return c == ' ' || c == '\t'
  | none => return false

/-- The lines of a block after `before`: their text, the last line break, and the breaks after it. -/
def lines (folded : Bool) (indent : Nat) (before : List (List Char)) :
    Nat → Scan (List Char × List Char × List (List Char))
  | 0 => return ([], [], before)
  | n + 1 => do
    let blank ← startsBlank
    let text ← takeWhile fun c => !isBreak c
    let lineEnd ← lineBreak
    let after ← breaks indent ((← get).rest.length + 1)
    let text := before.flatten ++ text
    if ← atLine indent then
      let join := if folded && lineEnd == ['\n'] && !blank && !(← startsBlank) then
          if after.isEmpty then [' '] else []
        else lineEnd
      let (rest, lineEnd, after) ← lines folded indent after n
      return (text ++ join ++ rest, lineEnd, after)
    return (text, lineEnd, after)

end Block

/-- A block scalar inside a block of the given indentation. -/
def blockScalar (folded : Bool) (outer : Int) : Scan (List Char) := do
  let start ← here
  discard (take 1)
  let (chomping, increment) ← Block.indicators start
  restOfLine .blockScalar start
  let least := (max (outer + 1) 1).toNat
  let limit := (← get).rest.length + 1
  let (before, indent) ← match increment with
    | none => do
      let (before, widest) ← Block.leading 0 limit
      pure (before, max least widest)
    | some k => do
      let indent := least + k - 1
      pure (← Block.breaks indent limit, indent)
  let (text, lineEnd, after) ← if ← Block.atLine indent then
      Block.lines folded indent before limit
    else pure ([], [], before)
  return text ++ (if chomping = .strip then [] else lineEnd) ++
    (if chomping = .keep then after.flatten else [])

end RackElevation.Yaml
