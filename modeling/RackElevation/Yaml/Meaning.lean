import RackElevation.Text.Base64
import RackElevation.Yaml.Document

/-
  What a YAML document means

  The value of a node goes by its tag. Of several faults in a document the one
  least deep counts, and of those the first. A mapping takes the entries of the
  mappings it merges before its own; of two entries with one key the later gives
  the value. A collection around an alias to it counts as empty there, except
  that a text that leads back to itself has no end. Mappings that merge mappings
  are followed however many they are: only reading nodes takes levels of the stack.

  What is proved:
    1. `put_new` — a new key goes to the end of a record.
-/

namespace RackElevation.Yaml

open Data

/-- A value, or a fault with its depth. -/
inductive Outcome (α : Type)
  | value (a : α)
  | fault (depth : Nat) (e : Error)

namespace Outcome

/-- Both outcomes together: of two faults the less deep, or else the first. -/
def both {α β γ : Type} (f : α → β → γ) : Outcome α → Outcome β → Outcome γ
  | .value a, .value b => .value (f a b)
  | .value _, .fault d e => .fault d e
  | .fault d e, .value _ => .fault d e
  | .fault d e, .fault d' e' => if d' < d then .fault d' e' else .fault d e

/-- An outcome of what is inside a collection. -/
def inside {α : Type} : Outcome α → Outcome α
  | .value a => .value a
  | .fault d e => .fault (d + 1) e

/-- The outcome of a list, element by element. -/
def all {α β : Type} (f : α → Outcome β) : List α → Outcome (List β)
  | [] => .value []
  | a :: r => both List.cons (f a) (all f r)

/-- An outcome that depends on a value. -/
def andThen {α β : Type} (a : Outcome α) (f : α → Outcome β) : Outcome β :=
  match a with
  | .value a => f a
  | .fault d e => .fault d e

/-- An outcome at the outermost depth. -/
def ofExcept {α : Type} : Except Error α → Outcome α
  | .ok a => .value a
  | .error e => .fault 0 e

/-- The value, or the fault that counts. -/
def toExcept {α : Type} : Outcome α → Except Error α
  | .value a => .ok a
  | .fault _ e => .error e

end Outcome

namespace Meaning

/-- The number that a key counts as, if it is one. -/
def keyNumber? : Value → Option Real64
  | .bool b => (Binary64.ofInt? (if b then 1 else 0)).map .finite
  | .real x => some x
  | _ => none

/-- The integer that a key counts as, if it is one. -/
def keyInt? : Value → Option Int
  | .bool b => some (if b then 1 else 0)
  | .int n => some n
  | .real (.finite x) => x.toInt?
  | _ => none

/-- Whether two values are one key: numbers by what they are, and everything else alike. -/
def sameKey (a b : Value) : Bool :=
  match a, b with
  | .null, .null => true
  | .text s, .text t => s == t
  | .codes s, .codes t => s == t
  | .bytes s, .bytes t => s == t
  | .time s, .time t => s == t
  | a, b =>
    match keyInt? a, keyInt? b with
    | some m, some n => m == n
    | none, none => (keyNumber? a).isSome && keyNumber? a == keyNumber? b
    | _, _ => false

/-- A record with a field replaced, or put at its end. -/
def put (key value : Value) : List (Value × Value) → List (Value × Value)
  | [] => [(key, value)]
  | (k, v) :: r => if sameKey k key then (k, value) :: r else (k, v) :: put key value r

/-- The record of a list of entries. -/
def recordOf (entries : List (Value × Value)) : List (Value × Value) :=
  entries.foldl (fun fields e => put e.1 e.2 fields) []

/-- Whether a value may be a key. -/
def isKey : Value → Bool
  | .list _ => false
  | .record _ => false
  | .set _ => false
  | _ => true

/-- A fault at a mark. -/
def fault (context : Option Context) (problem : Problem) (mark : Mark) : Error :=
  .fault ⟨context, problem, mark⟩

/-- The text of a node: its own, or that of the value which a mapping marks with an equals sign. A
mapping that is reached again from itself, with the mappings so far given by where they start, has no
end. -/
def text (reached : List Mark) : Nat → Node → Except Error (List CodePoint)
  | n + 1, .mapping _ entries start =>
    match entries.find? fun e => e.1.tag == Node.coreTag "value" with
    | some e => text (start :: reached) n e.2
    | none => .error (fault none (.notOfKind "scalar" "mapping") start)
  | _, .scalar _ text _ => .ok text
  | _, .around isSequence tag start =>
    if reached.contains start then .error .tooDeep
    else .error (fault none (.notOfKind "scalar" (Node.form (.around isSequence tag start))) start)
  | _, node => .error (fault none (.notOfKind "scalar" node.form) node.start)

/-- The entries of a mapping that began at `start`, with those it merges in front. -/
def merged : Nat → Mark → List (Node × Node) → Except Error (List (Node × Node))
  | 0, _, entries => .ok entries
  | n + 1, start, entries => do
    let context : Option Context := some ⟨.mapping, some start⟩
    let parts ← entries.mapM fun (key, value) =>
      if key.tag == Node.coreTag "merge" then
        match value.entries?, value.items? with
        | some inner, _ => do return (← merged n value.start inner, [])
        | none, some items => do
          let lists ← items.mapM fun item =>
            match item.entries? with
            | some inner => merged n item.start inner
            | none => .error (fault context (.unmergeableItem item.form) item.start)
          return (lists.reverse.flatten, [])
        | none, none => .error (fault context (.unmergeable value.form) value.start)
      else match key with
        | .scalar tag text m =>
          let tag := if tag == Node.coreTag "value" then Node.coreTag "str" else tag
          .ok ([], [(Node.scalar tag text m, value)])
        | key => .ok ([], [(key, value)])
    return (parts.flatMap Prod.fst) ++ (parts.flatMap Prod.snd)

/-- How a code point that is not ASCII is shown. -/
def escaped (p : CodePoint) : String :=
  let n := p.number
  String.ofList (if n < 0x100 then '\\' :: 'x' :: Text.hexDigits 2 n
    else if n < 0x10000 then '\\' :: 'u' :: Text.hexDigits 4 n
    else '\\' :: 'U' :: Text.hexDigits 8 n)

/-- The bytes of a scalar in base 64. -/
def binary (s : List CodePoint) (start : Mark) : Except Error Value :=
  let wide := fun (p : CodePoint) => 128 ≤ p.number
  let run := (s.dropWhile fun p => !wide p).takeWhile wide
  let position := (s.takeWhile fun p => !wide p).length
  match run with
  | [] =>
    match Base64.decode (s.filterMap CodePoint.char?) with
    | .ok bytes => .ok (.bytes bytes)
    | .error f => .error (fault none (.notBase64 f.message) start)
  | p :: r =>
    let which := if r.isEmpty then "character '" ++ escaped p ++ "' in position " ++ toString position
      else "characters in position " ++ toString position ++ "-" ++ toString (position + r.length)
    .error (fault none
      (.notAscii ("'ascii' codec can't encode " ++ which ++ ": ordinal not in range(128)")) start)

/-- The truth value of a scalar. -/
def truth (s : List CodePoint) : Except Misfit Value :=
  let word := s.map CodePoint.lower
  let known := (CodePoint.chars word).toOption.bind fun w => Plain.truthWords.lookup (String.ofList w)
  match known with
  | some b => .ok (.bool b)
  | none => .error (.truth word)

/-- The moment of a scalar. -/
def moment (s : List CodePoint) : Except Misfit Value :=
  let s := if s.getLast? == some (.char '\n') then s.dropLast else s
  match (CodePoint.chars s).toOption.bind Moment.ofText? with
  | some m => .time <$> m.time
  | none => .error .time

/-- The kinds of scalars. -/
def scalarKinds : List String := ["null", "str", "bool", "int", "float", "timestamp", "binary"]

/-- The value of a scalar of a kind. -/
def scalar (kind : String) (s : List CodePoint) (start : Mark) : Except Error Value :=
  let plain (v : Except Misfit Value) : Except Error Value := v.mapError .misfit
  match kind with
  | "str" => .ok (.ofCodes s)
  | "bool" => plain (truth s)
  | "int" => plain (.int <$> Number.integer s)
  | "float" => plain (.real <$> Number.real s)
  | "timestamp" => plain (moment s)
  | "binary" => binary s start
  | _ => .ok .null

/-- The kind that a tag names, if it is one of the known ones. -/
def kind (tag : String) : String :=
  if Node.tagRoot.toList.isPrefixOf tag.toList then
    String.ofList (tag.toList.drop Node.tagRoot.length)
  else ""

/-- An item of a list of pairs: a mapping of one entry. -/
def pair (value : Node → Outcome Value) (context : Context) (item : Node) : Outcome Value :=
  match item.entries? with
  | some [(k, v)] => .both (fun k v => .list [k, v]) (value k) (value v)
  | some entries => .fault 0 (fault (some context) (.notSingle entries.length) item.start)
  | none => .fault 0 (fault (some context) (.notPair item.form) item.start)

/-- A list of pairs. -/
def pairs (value : Node → Outcome Value) (activity : Activity) (node : Node) : Outcome Value :=
  let context : Context := ⟨activity, some node.start⟩
  match node.items? with
  | some items => (Outcome.all (pair value context) items).andThen fun l => .value (.list l)
  | none => .fault 0 (fault (some context) (.notSequence node.form) node.start)

/-- A key, which is no collection, or else the given error. -/
def keyOf (notKey : Error) : Outcome Value → Outcome Value
  | .value v => if isKey v then .value v else .fault 0 notKey
  | .fault 0 e => .fault 0 e
  | .fault _ _ => .fault 0 notKey

/-- The entries of a mapping, whose keys have to be plain values. -/
def entries (limit : Nat) (value : Node → Outcome Value) (node : Node) :
    Outcome (List (Value × Value)) :=
  match node.entries? with
  | some own =>
    (Outcome.ofExcept (merged limit node.start own)).andThen <| Outcome.all fun (k, v) =>
      Outcome.both Prod.mk
        (keyOf (fault (some ⟨.mapping, some node.start⟩) .unhashableKey k.start) (value k)) (value v)
  | none => .fault 0 (fault none (.notOfKind "mapping" node.form) node.start)

/-- The items of a sequence. -/
def items (value : Node → Outcome Value) (node : Node) : Outcome (List Value) :=
  match node.items? with
  | some items => Outcome.all value items
  | none => .fault 0 (fault none (.notOfKind "sequence" node.form) node.start)

/-- The value of a node at most `n` levels deep. -/
def value : Nat → Node → Outcome Value
  | 0, _ => .value .null
  | n + 1, node =>
    let inner := value n
    match kind node.tag with
    | "seq" => ((items inner node).andThen fun l => .value (.list l)).inside
    | "map" => ((entries n inner node).andThen fun l => .value (.record (recordOf l))).inside
    | "set" => ((entries n inner node).andThen fun l =>
        .value (.set ((recordOf l).map Prod.fst))).inside
    | "omap" => (pairs inner .orderedMap node).inside
    | "pairs" => (pairs inner .pairs node).inside
    | k =>
      if scalarKinds.contains k then
        .ofExcept ((text [] n node).bind fun s => scalar k s node.start)
      else .fault 0 (fault none (.unknownTag node.tag) node.start)

theorem put_new {key v : Value} {fields : List (Value × Value)}
    (h : ∀ f ∈ fields, sameKey f.1 key = false) : put key v fields = fields ++ [(key, v)] := by
  induction fields with
  | nil => rfl
  | cons f r ih =>
    rcases f with ⟨k, w⟩
    have hk := h (k, w) (by simp)
    simp only at hk
    simp [put, hk, ih fun g hg => h g (by simp [hg])]

end Meaning

/-- The value of a YAML document; an empty one is null. The stack allows so many levels of nodes. -/
def load (levels : Nat) (source : List Char) : Except Error Value := do
  match ← Document.ofText levels source with
  | none => return .null
  | some node => (Meaning.value (source.length + 2) node).toExcept

end RackElevation.Yaml
