import RackElevation.Text.Blank
import RackElevation.Text.Cut
import RackElevation.Text.Walk
import RackElevation.Uri.Percent

/-
  Header values

  The value of a header is a word and options behind it, each `key=value` with
  a semicolon before it. A value is a token or stands in quotes, in which a
  backslash goes before a quote and before itself. The key of a value that is
  percent-encoded ends in an asterisk, and such a value may start with the name
  of its character set between apostrophes. A long value is cut into numbered
  parts, `key*0`, `key*1` and so on. What is no option is passed over.

  What is proved:
    1. `rest_length_le` — an option takes nothing that is not there.
    2. `ofText_plain` — a value without a semicolon has no options.
-/

namespace RackElevation

open Text

/-- The character sets that a value may name. -/
inductive Charset
  | ascii
  | latin1
  | utf8
  deriving DecidableEq, Repr

namespace Charset

/-- The character set with a name. -/
def ofName? (name : List Char) : Option Charset :=
  match String.ofList (name.map Char.toLower) with
  | "ascii" => some .ascii
  | "us-ascii" => some .ascii
  | "iso-8859-1" => some .latin1
  | "utf-8" => some .utf8
  | _ => none

/-- The text of bytes, with U+FFFD in place of what is none. -/
def decode (s : Charset) (bytes : List UInt8) : List Char :=
  match s with
  | .ascii => bytes.map fun b => if b < 0x80 then Char.ofNat b.toNat else '\ufffd'
  | .latin1 => bytes.map fun b => Char.ofNat b.toNat
  | .utf8 => Utf8.decodeLossy bytes

end Charset

/-- The value of a header. -/
structure HeaderValue where
  /-- What stands before the options. -/
  word : List Char
  /-- The options, of two with one key the one that counts first. -/
  options : List (List Char × List Char) := []
  deriving DecidableEq, Repr

namespace HeaderValue

/-- Whether a character may stand in a token. -/
def isTokenChar (c : Char) : Bool :=
  c.isAlphanum || "_!#$%&'*+-.^|~\x60".toList.contains c

/-- An option as it is written, the quotes around its value included. -/
structure Written where
  key : List Char
  value : List Char
  deriving DecidableEq, Repr

/-- What stands before the closing quote, and what follows it. -/
def closing : List Char → Option (List Char × List Char)
  | [] => none
  | '"' :: r => some ([], r)
  | '\\' :: '\\' :: r => (closing r).map fun (t, rest) => ('\\' :: '\\' :: t, rest)
  | '\\' :: '"' :: r => (closing r).map fun (t, rest) => ('\\' :: '"' :: t, rest)
  | c :: r => (closing r).map fun (t, rest) => (c :: t, rest)

/-- The option at the start of a text, and what follows it. -/
def written? (s : List Char) : Option (Written × List Char) :=
  let key := s.takeWhile isTokenChar
  if key.isEmpty then none
  else match s.dropWhile isTokenChar with
    | '=' :: '"' :: r => (closing r).map fun (t, rest) => (⟨key, '"' :: t ++ ['"']⟩, rest)
    | '=' :: r =>
      let value := r.takeWhile isTokenChar
      if value.isEmpty then none else some (⟨key, value⟩, r.dropWhile isTokenChar)
    | _ => none

/-- What follows the option at the start of a text; all of it without one. -/
def rest (s : List Char) : List Char := ((written? s).map (·.2)).getD s

theorem closing_length {s t r : List Char} (h : closing s = some (t, r)) : r.length < s.length := by
  fun_induction closing s generalizing t r with
  | case1 => simp at h
  | case2 => simp_all
  | case3 q ih | case4 q ih | case5 c q _ _ _ ih =>
    obtain ⟨⟨t', r'⟩, h', heq⟩ := Option.map_eq_some_iff.1 h
    have := ih h'
    simp only [Prod.mk.injEq] at heq
    simp only [List.length_cons]
    rw [← heq.2]
    omega

theorem written?_length {s r : List Char} {w : Written} (h : written? s = some (w, r)) :
    r.length ≤ s.length := by
  have hs := (List.dropWhile_suffix (l := s) isTokenChar).length_le
  simp only [written?] at h
  split at h
  · simp at h
  · split at h
    · next q hq =>
      rw [hq] at hs
      obtain ⟨⟨t, r'⟩, hc, heq⟩ := Option.map_eq_some_iff.1 h
      have := closing_length hc
      simp only [Prod.mk.injEq] at heq
      simp only [List.length_cons] at hs
      rw [← heq.2]
      omega
    · next q _ hq =>
      rw [hq] at hs
      have hd := (List.dropWhile_suffix (l := q) isTokenChar).length_le
      split at h
      · simp at h
      · simp only [Option.some.injEq, Prod.mk.injEq] at h
        simp only [List.length_cons] at hs
        rw [← h.2]
        omega
    · simp at h

theorem rest_length_le (s : List Char) : (rest s).length ≤ s.length := by
  unfold rest
  cases h : written? s with
  | none => simp
  | some p => simpa using written?_length h

/-- The options of a text that starts with one, in order. -/
def writtenAll (s : List Char) : List Written :=
  ((written? s).map (·.1)).toList ++
    match _h : (cut ';' (rest s)).2 with
    | none => []
    | some r => writtenAll (trimStart r)
termination_by s.length
decreasing_by
  have h₁ := length_of_cut _h
  have h₂ := rest_length_le s
  have h₃ := (List.dropWhile_suffix (l := r) isBlank).length_le
  simp only [trimStart]
  omega

/-- A text with one piece in place of each occurrence of another. -/
def replacing (old new : List Char) (s : List Char) : List Char :=
  (walk (fun c r =>
    if old.isPrefixOf (c :: r) then (new, old.length - 1) else ([c], 0)) s).flatten

/-- A value without its quotes. -/
def unquote (s : List Char) : List Char :=
  if s.head? = some '"' ∧ s.getLast? = some '"' then
    replacing "%22".toList ['"'] (replacing ['\\', '"'] ['"']
      (replacing ['\\', '\\'] ['\\'] (s.drop 1).dropLast))
  else s

/-- The percent escapes of a value decoded, run by run of ASCII. -/
def unescape (set : Charset) (s : List Char) : List Char :=
  if s.contains '%' then
    (s.splitBy fun a b => decide (a.toNat < 0x80) == decide (b.toNat < 0x80)).flatMap fun run =>
      if run.all fun c => c.toNat < 0x80 then set.decode (Percent.decode (Utf8.encode run))
      else run
  else s

/-- The character set named before a value, and the value; none unless both names are there. -/
def marked? (s : List Char) : Option (List Char × List Char) :=
  let isName (c : Char) : Bool := isTokenChar c && c != '\''
  match s.dropWhile isName with
  | '\'' :: r =>
    match r.dropWhile isName with
    | '\'' :: t =>
      let value := t.takeWhile isTokenChar
      if value.isEmpty then none else some (s.takeWhile isName, value)
    | _ => none
  | _ => none

/-- The character sets that the options so far were marked with. -/
structure Marking where
  /-- The name that the last marked option gave. -/
  current : List Char := []
  /-- The last name that was that of a character set. -/
  known : List Char := []
  deriving DecidableEq, Repr

/-- The key and the value of a written option, after which others may go on with its marking. -/
def Written.meaning (m : Marking) (w : Written) : Marking × List Char × List Char :=
  if w.key.getLast? = some '*' then
    let (name, value) := (marked? w.value).getD (m.current, w.value)
    let name := if name.isEmpty then m.known else name
    match Charset.ofName? name with
    | some set => (⟨name, name⟩, w.key.dropLast, unquote (unescape set value))
    | none => (⟨name, m.known⟩, w.key.dropLast, unquote value)
  else (m, w.key, unquote w.value)

/-- The key that a numbered part belongs to. -/
def wholeKey? (key : List Char) : Option (List Char) :=
  match key.reverse.dropWhile Char.isDigit with
  | '*' :: r => if key.getLast? = some '*' then none else some r.reverse
  | _ => none

/-- The options with one more; a numbered part is put behind what there is. -/
def put (options : List (List Char × List Char)) (key value : List Char) :
    List (List Char × List Char) :=
  match wholeKey? key with
  | some whole => (whole, (options.lookup whole).getD [] ++ value) :: options
  | none => (key, value) :: options

/-- The options that are written one after the other, the last one first. -/
def meaning (ws : List Written) : List (List Char × List Char) :=
  (ws.foldl (fun (m, options) w =>
    let (m, key, value) := w.meaning m
    (m, put options key value)) (({} : Marking), [])).2

/-- The value of a header that is written as a text. Keys are in small letters. -/
def ofText (s : List Char) : HeaderValue :=
  let (word, behind) := cut ';' s
  let word := trim word
  if word.isEmpty then ⟨word, []⟩
  else ⟨word, meaning ((writtenAll (trim (behind.getD []))).map fun w =>
    { w with key := w.key.map Char.toLower })⟩

/-- The value of an option. -/
def option? (v : HeaderValue) (key : String) : Option (List Char) := v.options.lookup key.toList

theorem ofText_plain {s : List Char} (h : ';' ∉ s) : ofText s = ⟨trim s, []⟩ := by
  have hw : writtenAll [] = [] := by
    rw [writtenAll]
    simp [rest, written?, cut]
  simp only [ofText, cut_none h]
  split
  · rfl
  · rw [show trim ((none : Option (List Char)).getD []) = [] from rfl, hw]
    rfl

end HeaderValue

end RackElevation
