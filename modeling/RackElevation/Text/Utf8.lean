import RackElevation.Text.Quoted

/-
  UTF-8

  Bytes of a text and the text of bytes. Any sequence of bytes splits into
  pieces, each a character or a malformed run: a run ends before the first byte
  that cannot go on, so that byte starts the next piece. What becomes of a
  malformed run is the caller's choice: strict reading reports the first one,
  lossy reading puts U+FFFD in its place.

  What is proved:
    1. `lossy_of_decode` — where strict reading succeeds, lossy reading gives
       the same text.
-/

namespace RackElevation.Utf8

/-- The bytes of a text. -/
def encode (s : List Char) : List UInt8 := s.flatMap String.utf8EncodeChar

/-- Why a run of bytes is malformed. -/
inductive Reason
  /-- No character starts with this byte. -/
  | badStart
  /-- A byte that had to continue the character does not. -/
  | badContinuation
  /-- The bytes end inside a character. -/
  | cutShort
  deriving DecidableEq, Repr

/-- One character, or one malformed run. -/
inductive Piece
  | char (c : Char)
  | bad (bytes : List UInt8) (reason : Reason)

/-- Whether a byte is of the form `10xxxxxx`. -/
def isContinuation (b : UInt8) : Bool := 0x80 ≤ b && b ≤ 0xBF

/-- Whether `b` may follow the first byte `a` of a character of three or four bytes: overlong
forms, surrogates and numbers beyond the last character are excluded here. -/
def mayFollow (a b : UInt8) : Bool :=
  (if a == 0xE0 then 0xA0 else if a == 0xF0 then 0x90 else 0x80) ≤ b &&
    b ≤ (if a == 0xED then 0x9F else if a == 0xF4 then 0x8F else 0xBF)

/-- The low six bits of a continuation byte. -/
def low (b : UInt8) : Nat := b.toNat % 0x40

/-- The piece that starts with byte `a`, and how many of the bytes after `a` belong to it. -/
def firstPiece (a : UInt8) (rest : List UInt8) : Piece × Nat :=
  if a < 0x80 then (.char (Char.ofNat a.toNat), 0)
  else if a < 0xC2 || 0xF4 < a then (.bad [a] .badStart, 0)
  else if a < 0xE0 then
    match rest with
    | [] => (.bad [a] .cutShort, 0)
    | b :: _ =>
      if isContinuation b then (.char (Char.ofNat (a.toNat % 0x20 * 0x40 + low b)), 1)
      else (.bad [a] .badContinuation, 0)
  else
    match rest with
    | [] => (.bad [a] .cutShort, 0)
    | b :: rest =>
      if !mayFollow a b then (.bad [a] .badContinuation, 0)
      else match rest with
        | [] => (.bad [a, b] .cutShort, 1)
        | c :: rest =>
          if !isContinuation c then (.bad [a, b] .badContinuation, 1)
          else if a < 0xF0 then
            (.char (Char.ofNat (a.toNat % 0x10 * 0x1000 + low b * 0x40 + low c)), 2)
          else match rest with
            | [] => (.bad [a, b, c] .cutShort, 2)
            | d :: _ =>
              if !isContinuation d then (.bad [a, b, c] .badContinuation, 2)
              else (.char (Char.ofNat
                (a.toNat % 0x08 * 0x40000 + low b * 0x1000 + low c * 0x40 + low d)), 3)

/-- The pieces of a sequence of bytes. -/
def pieces : List UInt8 → List Piece
  | [] => []
  | a :: rest => (firstPiece a rest).1 :: pieces (rest.drop (firstPiece a rest).2)
termination_by bytes => bytes.length
decreasing_by
  rw [List.length_drop, List.length_cons]
  omega

/-- The number of bytes of a piece. -/
def Piece.size : Piece → Nat
  | .char c => (String.utf8EncodeChar c).length
  | .bad bytes _ => bytes.length

/-- A malformed run and where it starts. -/
structure Fault where
  position : Nat
  bytes : List UInt8
  reason : Reason
  deriving DecidableEq, Repr

/-- The sentence for a reason. -/
def Reason.message : Reason → String
  | .badStart => "invalid start byte"
  | .badContinuation => "invalid continuation byte"
  | .cutShort => "unexpected end of data"

/-- The sentence for a malformed run. -/
def Fault.message (f : Fault) : String :=
  let which := match f.bytes with
    | [b] => "byte 0x" ++ String.ofList (Text.hexDigits 2 b.toNat) ++ " in position " ++
        toString f.position
    | _ => "bytes in position " ++ toString f.position ++ "-" ++
        toString (f.position + f.bytes.length - 1)
  "'utf-8' codec can't decode " ++ which ++ ": " ++ f.reason.message

/-- The text of pieces that start at byte `position`, or the first malformed run. -/
def textOfPieces (position : Nat) : List Piece → Except Fault (List Char)
  | [] => .ok []
  | .bad bytes reason :: _ => .error ⟨position, bytes, reason⟩
  | .char c :: rest => (textOfPieces (position + (Piece.char c).size) rest).map (c :: ·)

/-- The text of bytes, strictly. -/
def decode (bytes : List UInt8) : Except Fault (List Char) := textOfPieces 0 (pieces bytes)

/-- The text of bytes, with what `replace` gives in place of each malformed run. -/
def decodeWith (replace : List UInt8 → List Char) (bytes : List UInt8) : List Char :=
  (pieces bytes).flatMap fun
    | .char c => [c]
    | .bad run _ => replace run

/-- The text of bytes, with U+FFFD in place of each malformed run. -/
def decodeLossy (bytes : List UInt8) : List Char := decodeWith (fun _ => ['\ufffd']) bytes

theorem lossy_of_pieces {ps : List Piece} {n : Nat} {s : List Char}
    (replace : List UInt8 → List Char) (h : textOfPieces n ps = .ok s) :
    (ps.flatMap fun | .char c => [c] | .bad run _ => replace run) = s := by
  induction ps generalizing n s with
  | nil => simpa [textOfPieces] using h
  | cons p ps ih =>
    cases p with
    | bad => simp [textOfPieces] at h
    | char c =>
      simp only [textOfPieces] at h
      cases ht : textOfPieces (n + (Piece.char c).size) ps with
      | error e => rw [ht] at h; simp [Except.map] at h
      | ok t =>
        rw [ht] at h
        simp only [Except.map, Except.ok.injEq] at h
        simp [← h, ih ht]

theorem lossy_of_decode {bytes : List UInt8} {s : List Char} (h : decode bytes = .ok s) :
    decodeLossy bytes = s :=
  lossy_of_pieces _ h

end RackElevation.Utf8
