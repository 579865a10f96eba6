import RegisterMap.Cli.Program
import RegisterMap.Snapshot.Image
import Std.Time.DateTime.Timestamp

/-! # The command line program

Reads the files that a run may touch, runs the program on them, and writes back what has changed.
The log and the error go to the standard error stream. -/

namespace RegisterMap.Cli

open Files

/-- What a file holds. A file that is neither a database nor text is taken byte by byte. -/
def contentOf (file : ByteArray) : Content :=
  let bytes := file.toList
  match Snapshot.Database.decode? bytes with
  | some db => .database db
  | none => .text ((Utf8.decode? bytes).getD (String.ofList (bytes.map fun b => Char.ofNat b.toNat)))

/-- The bytes of a file. -/
def bytesOf : Content → ByteArray
  | .text s => s.toUTF8
  | .database db => ⟨db.encode.toArray⟩

/-- The number of the system's error for a directory in place of a file. -/
def isDirectoryCode : UInt32 := 21

/-- Takes one name, whose directory is known, into the workspace. -/
def observe (w : Workspace) (name : String) : IO Workspace := do
  match w.find name with
  | .free location =>
    match ← (IO.FS.readBinFile name).toBaseIO with
    | .ok file => return w.put location (contentOf file)
    | .error (.inappropriateType _ code _) =>
      return if code == isDirectoryCode then { w with directories := location :: w.directories }
        else w
    | .error _ => return w
  | _ => return w

/-- The names of the directories on the way to a name, and the name itself. -/
def steps (name : String) : List String :=
  let root := if isRooted name then "/" else ""
  (List.range (parts name).length).map fun n =>
    root ++ "/".intercalate ((parts name).take (n + 1))

/-- Takes names and what lies on the way to them into the workspace. -/
def observeAll (w : Workspace) (names : List String) : IO Workspace :=
  (names.flatMap steps).foldlM observe w

def nameOf : Location → String
  | "/" :: rest => "/" ++ "/".intercalate rest
  | location => "/".intercalate location

/-- Writes the files and makes the directories that the former workspace does not have. -/
def writeBack (former w : Workspace) : IO Unit := do
  for location in w.directories.reverse do
    unless former.directories.contains location do
      IO.FS.createDirAll (nameOf location)
  for (location, content) in w.files.reverse do
    unless former.contentAt? location == some content do
      IO.FS.writeBinFile (nameOf location) (bytesOf content)

/-- The present time. -/
def now : IO Instant := do
  let t ← Std.Time.Timestamp.now
  return .ofParts 0 t.toNanosecondsSinceUnixEpoch.val

/-- Runs the program. The exit status tells whether it succeeded. -/
def runProgram (arguments : List String) : IO UInt32 := do
  let time ← now
  let env : Environment :=
    { home := ← IO.getEnv "HOME"
      now := time
      showTime := fun t => ({ t with nanos := 0 } : Instant).text }
  let known ← observeAll {} (touchedFiles env {} arguments)
  let files ← observeAll known (touchedFiles env known arguments)
  let outcome := execute env files arguments
  writeBack files outcome.files
  IO.print outcome.output
  for m in outcome.messages do
    IO.eprint (m.line (Log.stamp time))
  match outcome.error with
  | none => return 0
  | some e =>
    IO.eprintln ("Error: " ++ e.message)
    return 1

end RegisterMap.Cli

/-- The program. -/
def main (arguments : List String) : IO UInt32 :=
  RegisterMap.Cli.runProgram arguments
