import RackElevation.Text.Quoted
import RackElevation.Uri.Host

/-
  Parts of a URI

  A URI reference is cut into a scheme, an authority after two slashes, a path
  with parameters after a semicolon, a query after a question mark and a
  fragment after a number sign. Leading controls and spaces are dropped first,
  and so are tabs and line breaks anywhere.

  What is proved:
    1. `not_isIgnored_of_mem_clean` — a cleaned reference holds no tab and no line break.
    2. `takeAuthority_append` — cutting the authority off loses nothing.
-/

namespace RackElevation.Uri

open Text

/-- Why a reference cannot be cut into parts. -/
inductive Fault
  /-- The brackets around a host are not in order. -/
  | brackets
  /-- The host in brackets is a malformed address of a later kind. -/
  | futureAddress
  /-- The host in brackets is no address. -/
  | notAnAddress (host : String)
  /-- The host in brackets is an IPv4 address. -/
  | ipv4InBrackets
  /-- The authority holds a character that stands for a delimiter. -/
  | hiddenDelimiter (authority : String)
  deriving DecidableEq, Repr

/-- The sentence for a fault. -/
def Fault.message : Fault → String
  | .brackets => "Invalid IPv6 URL"
  | .futureAddress => "IPvFuture address is invalid"
  | .notAnAddress host => quoted host ++ " does not appear to be an IPv4 or IPv6 address"
  | .ipv4InBrackets => "An IPv4 address cannot be in brackets"
  | .hiddenDelimiter authority =>
    "netloc '" ++ authority ++ "' contains invalid characters under NFKC normalization"

/-- The parts of a reference; one that is absent is empty. -/
structure Parts where
  scheme : List Char := []
  authority : List Char := []
  path : List Char := []
  params : List Char := []
  query : List Char := []
  fragment : List Char := []
  deriving DecidableEq, Repr

/-- The schemes whose references may be relative; the empty one is that of a reference without. -/
def relativeSchemes : List String :=
  ["", "ftp", "http", "gopher", "nntp", "imap", "wais", "file", "https", "shttp", "mms", "prospero",
   "rtsp", "rtsps", "rtspu", "sftp", "svn", "svn+ssh", "ws", "wss"]

/-- The schemes that have an authority. -/
def authoritySchemes : List String :=
  ["", "ftp", "http", "gopher", "nntp", "telnet", "imap", "wais", "file", "mms", "https", "shttp",
   "snews", "prospero", "rtsp", "rtsps", "rtspu", "rsync", "svn", "svn+ssh", "sftp", "nfs", "git",
   "git+ssh", "ws", "wss"]

/-- The schemes whose paths have parameters. -/
def paramSchemes : List String :=
  ["", "ftp", "hdl", "prospero", "http", "imap", "https", "shttp", "rtsp", "rtsps", "rtspu", "sip",
   "sips", "mms", "sftp", "tel"]

/-- Whether a scheme is in a list. -/
def isAmong (schemes : List String) (scheme : List Char) : Bool :=
  schemes.any fun s => s.toList == scheme

/-- Whether a character is dropped at the start of a reference. -/
def isLeading (c : Char) : Bool := c.toNat ≤ 0x20

/-- Whether a character is dropped wherever it stands in a reference. -/
def isIgnored (c : Char) : Bool := c == '\t' || c == '\r' || c == '\n'

/-- The reference that is cut into parts. -/
def clean (s : List Char) : List Char := (s.dropWhile isLeading).filter (!isIgnored ·)

/-- Whether a character may stand in a scheme. -/
def isSchemeChar (c : Char) : Bool := c.isAlphanum || c == '+' || c == '-' || c == '.'

/-- Whether a text is a scheme. -/
def isScheme (s : List Char) : Bool :=
  match s with
  | c :: _ => c.isAlpha && s.all isSchemeChar
  | [] => false

/-- The scheme of a cleaned reference, in lower case, and what follows its colon. -/
def takeScheme (s : List Char) : List Char × List Char :=
  match cut ':' s with
  | (scheme, some r) => if isScheme scheme then (scheme.map Char.toLower, r) else ([], s)
  | _ => ([], s)

/-- The characters whose compatibility form holds one of the delimiters `/ ? # @ :`. -/
def delimiterLookalikes : List Nat :=
  [0x2047, 0x2048, 0x2049, 0x2100, 0x2101, 0x2105, 0x2106, 0x2A74, 0xFE13, 0xFE16, 0xFE55, 0xFE56,
   0xFE5F, 0xFE6B, 0xFF03, 0xFF0F, 0xFF1A, 0xFF1F, 0xFF20]

/-- Checks a host that stands in brackets. -/
def checkBracketed (host : List Char) : Except Fault Unit :=
  if host.head? == some 'v' then
    if isFutureAddress host then .ok () else .error .futureAddress
  else if isIPv4 host then .error .ipv4InBrackets
  else if isIPv6 host then .ok ()
  else .error (.notAnAddress (String.ofList host))

/-- Checks an authority with brackets in it: they stand around the host, which starts after the
user, and only a port may follow. -/
def checkBrackets (authority : List Char) : Except Fault Unit :=
  let hostAndPort := (cutLast '@' authority).2
  match cut '[' hostAndPort with
  | (before, some bracketed) =>
    let (host, after) := cut ']' bracketed
    let after := after.getD []
    if !before.isEmpty then .error .brackets
    else if !after.isEmpty && after.head? != some ':' then .error .brackets
    else checkBracketed host
  | (_, none) => checkBracketed (cut ':' hostAndPort).1

/-- Checks an authority. -/
def checkAuthority (authority : List Char) : Except Fault Unit :=
  match authority.contains '[', authority.contains ']' with
  | true, true => checkBrackets authority
  | false, false => .ok ()
  | _, _ => .error .brackets

/-- Checks that no character of an authority stands for a delimiter. -/
def checkLookalikes (authority : List Char) : Except Fault Unit :=
  if authority.any fun c => delimiterLookalikes.contains c.toNat then
    .error (.hiddenDelimiter (String.ofList authority))
  else .ok ()

/-- The authority a reference starts with, and the rest. -/
def takeAuthority (s : List Char) : List Char × List Char :=
  match s with
  | '/' :: '/' :: r =>
    let inside (c : Char) : Bool := c != '/' && c != '?' && c != '#'
    (r.takeWhile inside, r.dropWhile inside)
  | _ => ([], s)

/-- A path with its parameters cut off: they follow the first semicolon after the last slash. -/
def cutParams (path : List Char) : List Char × List Char :=
  let (directory, name) := cutLast '/' path
  match cut ';' name with
  | (name, some params) => (directory ++ name, params)
  | (_, none) => (path, [])

/-- The parts of a reference, parameters left in the path; one without a scheme has the given one. -/
def splitWhole (outerScheme : List Char) (s : List Char) : Except Fault Parts := do
  let (own, s) := takeScheme (clean s)
  let scheme := if own.isEmpty then outerScheme else own
  let (authority, s) := takeAuthority s
  checkAuthority authority
  let (s, fragment) := cut '#' s
  let (path, query) := cut '?' s
  checkLookalikes authority
  return ⟨scheme, authority, path, [], query.getD [], fragment.getD []⟩

/-- The parts of a reference; one without a scheme has the given one. -/
def split (outerScheme : List Char) (s : List Char) : Except Fault Parts :=
  (splitWhole outerScheme s).map fun p =>
    if isAmong paramSchemes p.scheme then
      { p with path := (cutParams p.path).1, params := (cutParams p.path).2 }
    else p

/-- The scheme of a reference, empty if it has none. -/
def scheme (s : List Char) : Except Fault (List Char) := (split [] s).map Parts.scheme

/-- Text after a mark, nothing if the text is empty. -/
def marked (mark : Char) (s : List Char) : List Char := if s.isEmpty then [] else mark :: s

/-- An authority and a path; the authority is written even if empty where the scheme has one or the
path could be taken for one. -/
def withAuthority (scheme authority path : List Char) : List Char :=
  if !authority.isEmpty || (!scheme.isEmpty && isAmong authoritySchemes scheme) ||
      ['/', '/'].isPrefixOf path then
    '/' :: '/' :: (authority ++
      (if path.isEmpty || path.head? == some '/' then path else '/' :: path))
  else path

/-- The reference made of parts. -/
def Parts.write (p : Parts) : List Char :=
  (if p.scheme.isEmpty then [] else p.scheme ++ [':']) ++
    withAuthority p.scheme p.authority (p.path ++ marked ';' p.params) ++
    marked '?' p.query ++ marked '#' p.fragment

theorem not_isIgnored_of_mem_clean {s : List Char} {c : Char} (h : c ∈ clean s) :
    isIgnored c = false := by
  simpa using (List.mem_filter.1 h).2

theorem takeAuthority_append {s : List Char} :
    (takeAuthority ('/' :: '/' :: s)).1 ++ (takeAuthority ('/' :: '/' :: s)).2 = s :=
  List.takeWhile_append_dropWhile

end RackElevation.Uri
