import RackElevation.Data.Value
import RackElevation.Rack

/-
  Racks as untyped data

  Every field of a device, a rack or a rack set under its name, absent values as
  null.
-/

namespace RackElevation

open Data

/-- A text or null. -/
def Data.Value.ofText? : Option String → Value
  | none => .null
  | some s => .text s

/-- An integer or null. -/
def Data.Value.ofInt? : Option Int → Value
  | none => .null
  | some n => .int n

/-- A device as untyped data. -/
def Device.toValue (d : Device) : Value :=
  .record [(.text "type", .text d.kind), (.text "name", .text d.name), (.text "height", .int d.height),
    (.text "href", .ofText? d.href), (.text "color", .ofText? d.color),
    (.text "position", .ofInt? d.position), (.text "category", .ofText? d.category)]

/-- A rack as untyped data. -/
def Rack.toValue (r : Rack) : Value :=
  .record [(.text "name", .text r.name), (.text "height", .int r.height),
    (.text "devices", .list (r.devices.map Device.toValue))]

/-- A rack set as untyped data. -/
def RackSet.toValue (s : RackSet) : Value :=
  .record [(.text "base", .ofText? s.base), (.text "id", .ofText? s.id),
    (.text "racks", .list (s.racks.map Rack.toValue))]

end RackElevation
