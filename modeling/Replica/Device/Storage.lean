import Replica.Json.Integer
/-!
# Storages and the device itself

A device has storages, each with a number, and says who it is.  Only the number of a storage is
checked; every other field is kept as the device gave it.
-/

namespace Replica

/-- A storage of a device. -/
structure Storage where
  /-- The number that identifies it. -/
  id : Int
  /-- What the device calls it. -/
  description : Json
  /-- How much it holds. -/
  capacity : Json
  /-- How much of that is free. -/
  freeSpace : Json

namespace Storage

/-- The storage that an entry of a listing describes. -/
def ofJson : Json → Except ValueFault Storage
  | .object fs => do
    let id ← (← Json.required "id" fs).toInt
    return {
      id
      description := Json.textField "description" fs
      capacity := Json.field "max_capacity" fs
      freeSpace := Json.field "free_space" fs }
  | other => .error (.notRecord other.kindName)

/-- A storage as a JSON value. -/
def toJson (s : Storage) : Json :=
  .object [("id", .int s.id), ("description", s.description), ("max_capacity", s.capacity),
    ("free_space", s.freeSpace)]

end Storage

/-- Who a device is. -/
structure Device where
  /-- The name that its owner gave it. -/
  friendlyName : Json
  /-- Who made it. -/
  manufacturer : Json
  /-- Which model it is. -/
  model : Json
  /-- Its serial number. -/
  serial : Json

namespace Device

/-- The device that the bridge describes. -/
def ofJson (answer : Json) : Except ValueFault Device := do
  let device ← ((Json.field "device" (← answer.fields)).orElse (.object [])).fields
  return {
    friendlyName := Json.field "friendly_name" device
    manufacturer := Json.textField "manufacturer" device
    model := Json.textField "model" device
    serial := Json.textField "serial" device }

/-- The name to show to the user. -/
def shownName (d : Device) : Json := d.friendlyName.orElse (.string "(NULL)")

/-- The fields of a device. -/
def toJson (d : Device) : Json :=
  .object [("friendly_name", d.friendlyName), ("manufacturer", d.manufacturer),
    ("model", d.model), ("serial", d.serial)]

end Device

end Replica
