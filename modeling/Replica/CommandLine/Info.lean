import Replica.CommandLine.Shell
import Replica.Size
/-!
# The command that shows the device

It shows who the device is and which storages it has, each with its number in hexadecimal and,
where the device tells both, how much of it is free.
-/

namespace Replica.Shell

variable {τ : Type}

/-- What the command shows. -/
structure Overview where
  /-- The device. -/
  device : Device
  /-- Its storages. -/
  storages : List Storage

/-- Asks for the device and its storages. -/
def survey (shell : Shell τ) (console : Console) (c : Client) :
    Action (Session τ) Overview := do
  let answer ← Session.onConnection (c.device shell.link)
  let device ← Procedure.ofChecked (Device.ofJson answer)
  let r := shell.remote c
  let storages ← Action.serve r.listStorages
  showErrors console r
  return ⟨device, storages⟩

/-- The overview as a JSON value. -/
def Overview.toJson (o : Overview) : Json :=
  .object [("device", o.device.toJson), ("storages", .array (o.storages.map Storage.toJson))]

/-- The number of a storage as the command writes it. -/
def storageNumber (id : Int) : String := "0x" ++ Numeral.hexPadded 8 id

/-- How much of a storage is free, if the device tells. -/
def freeText (s : Storage) : Except ValueFault (Option String) :=
  match s.capacity, s.freeSpace with
  | .null, _ | _, .null => .ok none
  | capacity, free => do
    let free ← Size.ofJson free
    let capacity ← Size.ofJson capacity
    return some ("   " ++ free ++ " free of " ++ capacity)

/-- Prints a storage. -/
def printStorage (console : Console) (s : Storage) : Action (Session τ) Unit := do
  console.printValue
    (.joined [.string ("Storage " ++ storageNumber s.id ++ ": "), s.description])
  (← Procedure.ofChecked (freeText s)).forM fun text => console.print text

/-- A text without blanks at its end; a text with surrogates cannot be printed either way. -/
def withoutEnd : Json → Json
  | .string s => .string (Text.stripRight s)
  | other => other

/-- The line about the model of a device, if that is known. -/
def modelLine (d : Device) : Option Json :=
  if d.model.truthy then
    some (withoutEnd (.joined [.string "   Model: ", d.manufacturer, .string " ", d.model]))
  else none

/-- The line about the serial number of a device, if that is known. -/
def serialLine (d : Device) : Option Json :=
  if d.serial.truthy then some (.joined [.string "   Serial: ", d.serial]) else none

/-- Prints an overview. -/
def printOverview (console : Console) (o : Overview) : Action (Session τ) Unit := do
  let d := o.device
  console.printValue (.joined [.string "Device: ", d.shownName])
  (modelLine d).forM fun line => console.printValue line
  (serialLine d).forM fun line => console.printValue line
  o.storages.forM (printStorage console)

/-- The command. -/
def info (shell : Shell τ) (g : General) : Action (Session τ) ExitCode :=
  shell.connecting g fun c => do
    match ← withClient (shell.survey g.console c) with
    | .ok overview =>
      if g.console.json then g.console.document overview.toJson
      else printOverview g.console overview
      return .success
    | .error (.bridge error) =>
      g.console.error ("API error: " ++ error.message)
      return .failure
    | .error failure => Procedure.fail failure

end Replica.Shell
