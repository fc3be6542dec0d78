/-
  Base 64

  Bytes written in groups of four characters, six bits each. Reading passes over
  characters of no value, and a group that is filled up with equals signs ends
  the text.
-/

namespace RackElevation.Base64

/-- Why a text gives no bytes. -/
inductive Fault
  /-- One character is left over after this many full groups. -/
  | single (groups : Nat)
  | padding
  deriving DecidableEq, Repr

/-- The sentence for a fault. -/
def Fault.message : Fault → String
  | .single groups =>
    "Invalid base64-encoded string: number of data characters (" ++ toString (groups * 4 + 1) ++
      ") cannot be 1 more than a multiple of 4"
  | .padding => "Incorrect padding"

/-- The six bits of a character. -/
def value? (c : Char) : Option Nat :=
  if 'A' ≤ c ∧ c ≤ 'Z' then some (c.toNat - 65)
  else if 'a' ≤ c ∧ c ≤ 'z' then some (c.toNat - 71)
  else if '0' ≤ c ∧ c ≤ '9' then some (c.toNat + 4)
  else if c = '+' then some 62
  else if c = '/' then some 63
  else none

/-- The bytes of a group that has two values or more. -/
def groupBytes (group : List Nat) : List UInt8 :=
  let bits := group.foldl (fun n v => 64 * n + v) 0 * Nat.pow 64 (4 - group.length)
  ([bits / 65536, bits / 256, bits].map UInt8.ofNat).take (group.length - 1)

/-- Reads on after `groups` full groups, `group` of the next one, and `pads` equals signs in it. -/
def decodeFrom (groups : Nat) (group : List Nat) (pads : Nat) :
    List Char → Except Fault (List UInt8)
  | [] =>
    match group with
    | [] => .ok []
    | [_] => .error (.single groups)
    | _ => .error .padding
  | c :: r =>
    if c = '=' then
      if 2 ≤ group.length then
        if 4 ≤ group.length + (pads + 1) then .ok (groupBytes group)
        else decodeFrom groups group (pads + 1) r
      else decodeFrom groups group pads r
    else match value? c with
      | none => decodeFrom groups group pads r
      | some v =>
        if group.length = 3 then
          (decodeFrom (groups + 1) [] 0 r).map (groupBytes (group ++ [v]) ++ ·)
        else decodeFrom groups (group ++ [v]) 0 r

/-- The bytes of a text. -/
def decode (s : List Char) : Except Fault (List UInt8) := decodeFrom 0 [] 0 s

end RackElevation.Base64
