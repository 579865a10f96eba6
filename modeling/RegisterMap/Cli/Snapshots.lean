import RegisterMap.Cli.Payload
import RegisterMap.Snapshot.Store

/-! # Snapshots on the command line

`showRecords` goes through the stored records of a device. The values shown with a record are those
of the register of that name in the definition file, restored from the record that is stored under
the number of that register. -/

namespace RegisterMap.Cli

open Snapshot

/-- What could be found out about the values of a stored record. -/
inductive Finding where
  /-- The definition file has no register of that name. -/
  | undefined
  | lost (register : Header) (error : StoreError)
  | restored (register : Header) (group : Group)
  deriving Repr

def findValues (db : Database) (d : Device) (device : String) (r : Snapshot.Record) : Finding :=
  match d.newGroup? r.register with
  | none => .undefined
  | some fresh =>
    match Snapshot.load db device fresh with
    | .error e => .lost fresh.header e
    | .ok (g, _) => .restored fresh.header g

/-- The records of a device with their values. -/
def showRecords (db : Database) (d : Device) (device : String) :
    Except StoreError (List (Snapshot.Record × Finding)) :=
  match Snapshot.list db device with
  | .error e => .error e
  | .ok records => .ok (records.map fun r => (r, findValues db d device r))

/-- The line of a record; `time` is the text of the time of saving. -/
def recordLine (time : Instant → String) (r : Snapshot.Record) : String :=
  s!"{r.register} ({Numeral.decimal r.id.toNat}) {r.direction.text} saved {time r.saved}: "
    ++ Numeral.spacedHex r.payload

/-- The lines of the values. -/
def Finding.lines : Finding → List String
  | restored _ g => g.report.map ("  " ++ ·)
  | _ => []

/-- The messages about a record. -/
def Finding.messages (definitions device : String) (r : Snapshot.Record) :
    Finding → List Log.Message
  | undefined => [⟨.warning, s!"Register {r.register} is not in {definitions}"⟩]
  | restored register _ => [loading register]
  | lost register e =>
    [loading register, ⟨.warning, s!"Cannot restore register {r.register}: {e.message}"⟩]
where
  loading (register : Header) : Log.Message :=
    ⟨.debug, s!"Loading register {register.name} ({Numeral.decimal register.id.toNat}) "
      ++ s!"of device {device}"⟩

/-- The message about a record that is being saved. -/
def savingMessage (device : String) (r : Snapshot.Record) : Log.Message :=
  ⟨.debug, s!"Saving register {r.register} ({Numeral.decimal r.id.toNat}) of device {device}: "
    ++ Numeral.spacedHex r.payload⟩

/-- The line about a record that was saved. -/
def savedLine (device : String) (r : Snapshot.Record) : String :=
  s!"saved {r.register} ({Numeral.decimal r.id.toNat}) of {device}: {Numeral.spacedHex r.payload}"

end RegisterMap.Cli
