import RackElevation.Xml.Content
import RackElevation.Xml.Entity

/-
  Growth

  Entities that refer to each other let a short document stand for a very long
  one. Once the document and what its entities stand for come to 8 MiB, the sum
  may be no more than 100 times the document so far; a reference that goes
  beyond is a fault. What an entity comes to is worked out in rounds, each from
  the round before, until a round changes nothing.

  What is proved:
    1. `limitGrowth_nil` — without entities nothing grows, and every token
       stays.
-/

namespace RackElevation.Xml

open Text

/-- How many bytes may be read in any case. -/
def freeBytes : Nat := 8 * 1024 * 1024

/-- How many times the document may grow beyond that. -/
def maxGrowth : Nat := 100

/-- The number of bytes of a text. -/
def byteCount (s : List Char) : Nat := s.foldl (fun n c => n + c.utf8Size) 0

/-- The names of the entities that a text refers to. -/
def entityNames (s : List Char) : List (List Char) :=
  (walk (fun c r =>
    match c, reference r with
    | '&', .found (.entity name) _ => (some name, 0)
    | _, _ => (none, 0)) s).filterMap id

/-- The bytes that entities come to, with all that they refer to. -/
abbrev Weights := List (List Char × Nat)

/-- What the references in a text come to. -/
def Weights.ofText (w : Weights) (s : List Char) : Nat :=
  (entityNames s).foldl (fun n name => n + (w.lookup name).getD 0) 0

/-- What each entity comes to if those that it refers to come to what is given. -/
def reweigh (d : Doctype) (w : Weights) : Weights :=
  d.entities.map fun (name, entity) =>
    match entity with
    | .internal text => (name, byteCount text + w.ofText text)
    | _ => (name, 0)

/-- What each entity comes to after a number of rounds, or before if a round changes nothing. -/
def weigh (d : Doctype) (rounds : Nat) (w : Weights) : Weights :=
  match rounds with
  | 0 => w
  | n + 1 =>
    let next := reweigh d w
    if next = w then w else weigh d n next

/-- What the references in a token come to. -/
def tokenGrowth (w : Weights) (t : Token) : Nat :=
  match t.content with
  | .reference (.entity name) => (w.lookup name).getD 0
  | .openTag tag => tag.attributes.foldl (fun n a => n + w.ofText a.value) 0
  | _ => 0

/-- Whether a document that goes on with `after` may not grow by so many bytes. -/
def growsTooFar (size grown : Nat) (after : List Char) : Bool :=
  let soFar := size - byteCount after
  freeBytes ≤ soFar + grown && maxGrowth * soFar < soFar + grown

/-- The tokens of a document of `size` bytes that may be read, when `grown` bytes came from entities
before them; the first that goes too far is broken, and the last. -/
def limitTokens (w : Weights) (size grown : Nat) : List Token → List Token
  | [] => []
  | t :: rest =>
    match tokenGrowth w t with
    | 0 => t :: limitTokens w size grown rest
    | n + 1 =>
      if growsTooFar size (grown + n + 1) ((rest.head?.map Token.on).getD []) then
        [⟨t.on, .broken .growth t.on⟩]
      else t :: limitTokens w size (grown + n + 1) rest

/-- The tokens of a document that may be read. -/
def limitGrowth (d : Doctype) (size : Nat) (ts : List Token) : List Token :=
  if d.entities.isEmpty then ts
  else limitTokens (weigh d d.entities.length []) size 0 ts

theorem limitGrowth_nil (d : Doctype) (size : Nat) (ts : List Token) (h : d.entities = []) :
    limitGrowth d size ts = ts := by
  simp [limitGrowth, h]

end RackElevation.Xml
