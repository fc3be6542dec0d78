import RackElevation.Svg.Shape

/-
  Looks of devices

  The symbol and the colour for each kind of device. A symbol is drawn in a box
  of 24 by 16; a kind without a symbol still has a colour.

  What is proved:
    1. `glyph?_ne_nil` — a symbol has at least one shape.
-/

namespace RackElevation.Svg

/-- The height of the box of a symbol. -/
def glyphHeight : Int := 16

/-- A path without a stroke. -/
def filled (d : String) (fillRule : Option String) : Shape :=
  .path d symbolColor "none" none none fillRule

/-- A path that is only stroked. -/
def outline (d : String) (strokeLinecap : Option String) : Shape :=
  .path d "none" symbolColor (some (measure 2)) strokeLinecap none

/-- One of the sockets of a patch panel. -/
def socket (row column : Nat) : Shape :=
  .rect (measure (1 + column * 6)) (measure (2 + row * 7)) (measure 4) (measure 5) symbolColor

/-- One of the reels of a tape drive. -/
def reel (cx : Nat) : Shape :=
  .circle (measure cx) (measure 8) (measure 4) symbolColor "#ccc" (measure 2)

/-- The symbol of a kind of device. -/
def glyph? (kind : String) : Option (List Shape) :=
  match kind with
  | "patch" => some ((List.range 4).map (socket 0) ++ (List.range 4).map (socket 1))
  | "pdu" => some [outline
      "M 8 1 L 8 5 M 16 1 L 16 5 M 5 5 L 19 5 L 19 9 Q 12 15 5 9 Z M 12 12 L 12 15" (some "round")]
  | "storage" => some [filled
      "M 0 1 H 24 V 15 H 0 Z M 2 3 H 22 V 6 H 2 Z M 2 7 H 22 V 9 H 2 Z M 2 10 H 22 V 13 H 2 Z"
      (some "evenodd")]
  | "server" => some [filled
      "M 0 2 H 24 V 14 H 0 Z M 2 4 H 16 V 12 H 2 Z M 19 6 H 22 V 10 H 19 Z" (some "evenodd")]
  | "switch" => some [filled
      "M 2 3 H 16 V 0 L 22 4 L 16 8 V 5 H 2 Z M 22 11 H 8 V 8 L 2 12 L 8 16 V 13 H 22 Z" none]
  | "tape" => some [.rect (measure 0) (measure 2) (measure 24) (measure 12) symbolColor,
      reel 7, reel 17]
  | "ups" => some [filled "M 14 0 L 5 9 H 11 L 9 16 L 19 7 H 13 Z" none]
  | "router" => some [outline "M 12 1 A 7 7 0 1 1 11.9 1 Z M 7 8 H 17 M 12 3 V 13" none]
  | "firewall" => some [outline
      "M 1 2 H 23 V 14 H 1 Z M 1 6 H 23 M 1 10 H 23 M 8 2 V 6 M 16 6 V 10 M 8 10 V 14" none]
  | "kvm" => some [outline "M 3 1 H 21 V 10 H 3 Z M 9 10 V 13 H 15 V 10 M 5 15 H 19" none]
  | _ => none

/-- The colour of a kind of device. -/
def color (kind : String) : String :=
  match kind with
  | "server" => "#a3c4f3"
  | "switch" => "#90dbb4"
  | "patch" => "#d9d9d9"
  | "pdu" => "#f4a3a3"
  | "storage" => "#f9d58b"
  | "tape" => "#c9b3e6"
  | "ups" => "#ffc69e"
  | "router" => "#8fd3e8"
  | "firewall" => "#f28b82"
  | "kvm" => "#cfd8dc"
  | "blank" => "#bdbdbd"
  | _ => "#eeeeee"

theorem glyph?_ne_nil {kind : String} {shapes : List Shape} (h : glyph? kind = some shapes) :
    shapes ≠ [] := by
  unfold glyph? at h
  split at h <;> first | (cases h; simp) | cases h

end RackElevation.Svg
