import RackElevation.Data.Checked
import RackElevation.Rack

/-
  Racks from untyped data

  What data has to look like to be a device, a rack or a rack set: known fields
  only, a kind for each device, heights and positions from one on.
-/

namespace RackElevation

open Data

/-- A device from data. -/
def Device.check : Value → Checked Device :=
  recordOf "RackDevice" ["type", "name", "height", "href", "color", "position", "category"] fun v =>
    Device.mk <$> required "type" checkText v <*> withDefault "name" "" checkText v <*>
      withDefault "height" 1 (atLeast 1) v <*> withDefault "href" none (orNull checkText) v <*>
      withDefault "color" none (orNull checkText) v <*>
      withDefault "position" none (orNull (atLeast 1)) v <*>
      withDefault "category" none (orNull checkText) v

/-- A rack from data. -/
def Rack.check : Value → Checked Rack :=
  recordOf "Rack" ["name", "height", "devices"] fun v =>
    Rack.mk <$> withDefault "name" "" checkText v <*>
      withDefault "height" defaultRackHeight (atLeast 1) v <*>
      withDefault "devices" [] (listOf Device.check) v

/-- A rack set from data. -/
def RackSet.check : Value → Checked RackSet :=
  recordOf "RackSet" ["base", "id", "racks"] fun v =>
    RackSet.mk <$> withDefault "base" none (orNull checkText) v <*>
      withDefault "id" none (orNull checkText) v <*> withDefault "racks" [] (listOf Rack.check) v

end RackElevation
