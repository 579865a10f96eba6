import RegisterMap.Cli.Completion
import RegisterMap.Cli.Listing
import RegisterMap.Cli.Snapshots
import RegisterMap.Generated.Render

/-! # The program

`execute` is one run of the program: a function of the arguments, the files and the surroundings,
which gives the output, the log, the files afterwards and the error if there is one. What a command
has printed or written before it fails stays.

A run checks the arguments, then loads the configuration and sets the log level, then asks for the
required flags, and then does the work of the command. -/

namespace RegisterMap.Cli

open Files Snapshot

/-- What a run depends on besides its arguments and files. -/
structure Environment where
  /-- The home directory, if it is known. -/
  home : Option String
  now : Instant
  /-- How a time is shown. -/
  showTime : Instant → String

/-- What a run leaves behind. -/
structure Outcome where
  files : Workspace
  output : String := ""
  messages : List Log.Message := []
  error : Option CommandError := none

namespace Outcome

/-- A run that fails and leaves the files as they are. -/
def failure (files : Workspace) (e : CommandError) : Outcome :=
  { files, error := some e }

/-- The outcome with a message in front of the others. -/
def after (m : Log.Message) (o : Outcome) : Outcome :=
  { o with messages := m :: o.messages }

/-- The outcome with only the messages that a log of the given level shows. -/
def atLevel (level : LogLevel) (o : Outcome) : Outcome :=
  { o with messages := o.messages.filter fun m => level.shows m.level }

end Outcome

def unlines (lines : List String) : String :=
  String.join (lines.map (· ++ "\n"))

/-! ## Devices and stores -/

/-- Uses the device of the definition file. -/
def withDevice (config : Config) (files : Workspace) (use : Device → Outcome) : Outcome :=
  match files.read config.definitions with
  | .error e => .failure files (.file e)
  | .ok source =>
    match Definition.load source with
    | .error e => .failure files (.definition config.definitions e)
    | .ok d =>
      (use d).after ⟨.debug, s!"Loaded device {d.name} with {Numeral.decimal d.registers.length} "
        ++ s!"registers from {config.definitions}"⟩

/-- Uses the snapshot database, in which the device has a bucket. `use` gets the files, a way to
    store changed contents in them, and the contents. -/
def withStore (config : Config) (files : Workspace) (device : String)
    (use : Workspace → (Database → Workspace) → Database → Outcome) : Outcome :=
  match files.openDatabase config.dbPath with
  | .error e => .failure files (.database e)
  | .ok (files, location, db) =>
    match prepare db [device] with
    | .error e => .failure files (.store e)
    | .ok db =>
      let keep (db : Database) : Workspace := files.put location (.database db)
      use (keep db) keep db

/-! ## The commands -/

/-- Writes the configuration file. -/
def runConfigInit (config : Config) (files : Workspace) (overwrite : Bool) : Outcome :=
  match config.persist files overwrite with
  | .error e => .failure files (.config e)
  | .ok files => { files, messages := [⟨.info, s!"Config written to {config.path}"⟩] }

/-- Prints the configuration. -/
def runConfigShow (config : Config) (files : Workspace) : Outcome :=
  if config.isWritable then { files, output := config.text }
  else .failure files (.config .malformed)

/-- Prints the list of registers. -/
def runSchema (config : Config) (files : Workspace) : Outcome :=
  withDevice config files fun d => { files, output := listing d }

/-- Prints the payload of a register. -/
def runEncode (config : Config) (files : Workspace) (register op : String)
    (assignments : List String) : Outcome :=
  withDevice config files fun d =>
    match encode d register op assignments with
    | .error e => .failure files e
    | .ok payload =>
      { files
        output := unlines [Numeral.spacedHex payload]
        messages := [⟨.debug,
          s!"Encoded register {register}: {Numeral.decimal payload.length} bytes"⟩] }

/-- Prints the values of a payload. -/
def runDecode (config : Config) (files : Workspace) (register op : String) (texts : List String) :
    Outcome :=
  withDevice config files fun d =>
    match decode d register op texts with
    | .error e => .failure files e
    | .ok (g, rest) =>
      { files
        output := unlines g.report
        messages :=
          if rest.isEmpty then []
          else [⟨.warning, s!"Ignoring {Numeral.decimal rest.length} trailing bytes: "
            ++ Numeral.spacedHex rest⟩] }

/-- Prints the source of the generated package, or writes it to a file. -/
def runGenerate (config : Config) (files : Workspace) (package output : String) : Outcome :=
  withDevice config files fun d =>
    match Generated.generate d package with
    | .error e => .failure files (.generate e)
    | .ok p =>
      let source := p.render
      let outcome : Outcome :=
        if output = "" then { files, output := source }
        else
          match files.write output source with
          | .error e => .failure files (.file e)
          | .ok files => { files, messages := [⟨.info, s!"Generated {output}"⟩] }
      outcome.after ⟨.debug, s!"Generated {Numeral.decimal source.utf8ByteSize} bytes of Go code "
        ++ s!"for device {d.name}"⟩

/-- The device whose snapshots are meant: the given name, or the name of the defined device. -/
def snapshotDevice (d : Device) (device : String) : String :=
  if device = "" then d.name else device

/-- Saves a payload. -/
def runSnapshotSave (env : Environment) (config : Config) (files : Workspace)
    (device register op : String) (texts : List String) : Outcome :=
  withDevice config files fun d =>
    match decodeExactly d register op texts with
    | .error e => .failure files e
    | .ok (g, side) =>
      let device := snapshotDevice d device
      withStore config files device fun files keep db =>
        match record? g side.direction env.now with
        | .error e => .failure files (.store e)
        | .ok r =>
          let outcome : Outcome :=
            match store db device r with
            | .error e => .failure files (.store e)
            | .ok db => { files := keep db, output := unlines [savedLine device r] }
          outcome.after (savingMessage device r)

/-- Prints the saved payloads of a device. -/
def runSnapshotShow (env : Environment) (config : Config) (files : Workspace) (device : String) :
    Outcome :=
  withDevice config files fun d =>
    let device := snapshotDevice d device
    withStore config files device fun files _ db =>
      match showRecords db d device with
      | .error e => .failure files (.store e)
      | .ok found =>
        { files
          output := unlines (found.flatMap fun e => recordLine env.showTime e.1 :: e.2.lines)
          messages := found.flatMap fun e => e.2.messages config.definitions device e.1 }

/-- Does the work of a command. -/
def run (env : Environment) (config : Config) (files : Workspace) (i : Invocation) : Outcome :=
  let register := i.text .register ""
  let op := i.text .op "read"
  let device := i.text .device ""
  match i.command with
  | .configInit => runConfigInit config files (i.isOn .overwrite)
  | .configShow => runConfigShow config files
  | .schema => runSchema config files
  | .encode => runEncode config files register op i.arguments
  | .decode => runDecode config files register op i.arguments
  | .generate => runGenerate config files (i.text .package "") (i.text .output "")
  | .snapshotSave => runSnapshotSave env config files device register op i.arguments
  | .snapshotShow => runSnapshotShow env config files device
  | .completion => { files, output := completionScript }
  | _ => { files, output := (locate Command.levels .root i.arguments).1.helpText }

/-! ## A run -/

/-- The configuration of a run: the file, and over it what the flags say. -/
def settings (env : Environment) (files : Workspace) (i : Invocation) :
    Except ConfigError Config :=
  match (Config.default env.home (i.text .config "")).load files with
  | (_, some e) => .error e
  | (config, none) =>
    let override (f : Flag) (text : String) : String :=
      if i.text f "" = "" then text else i.text f ""
    .ok { config with
          logLevel := override .logLevel config.logLevel
          definitions := override .definitions config.definitions }

/-- Runs a command. Only `completion` does without a configuration. -/
def invoke (env : Environment) (files : Workspace) (i : Invocation) : Outcome :=
  if i.command = .completion then run env (.default env.home "") files i
  else
    match settings env files i with
    | .error e => .failure files (.config e)
    | .ok config =>
      match LogLevel.ofName? config.logLevel with
      | none => .failure files (.wrongLevel config.logLevel)
      | some level =>
        if i.missingFlags.isEmpty then (run env config files i).atLevel level
        else .failure files (.usage (.missingFlags i.missingFlags))

/-- One run of the program. -/
def execute (env : Environment) (files : Workspace) (arguments : List String) : Outcome :=
  match Request.parse arguments with
  | .error e => .failure files (.usage e)
  | .ok (.help command) => { files, output := command.helpText }
  | .ok (.run i) => invoke env files i

/-- The names of the files that a run with these arguments may read or write, as far as the files
    that are known already tell. -/
def touchedFiles (env : Environment) (files : Workspace) (arguments : List String) : List String :=
  match Request.parse arguments with
  | .ok (.run i) =>
    let path := (Config.default env.home (i.text .config "")).path
    match settings env files i with
    | .error _ => [path]
    | .ok config => [path, config.definitions, config.dbPath, i.text .output ""]
  | _ => []

end RegisterMap.Cli
