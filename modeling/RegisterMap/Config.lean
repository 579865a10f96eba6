import RegisterMap.Files.Workspace
import RegisterMap.Yaml.Writer

/-! # The configuration of the program

The configuration names the log level, the definition file and the snapshot database. It is kept in
a YAML file, which may be missing: then the defaults hold. A file changes only what it names, and
its keys match in any case. -/

namespace RegisterMap

/-- The settings of the program and the file they belong to. -/
structure Config where
  path : String
  logLevel : String
  definitions : String
  dbPath : String
  deriving DecidableEq, Repr

/-- Why the configuration could not be read or written. -/
inductive ConfigError where
  | alreadyExists (path : String)
  | file (error : Files.FileError)
  /-- The file is not YAML, or a text that cannot be written in it. -/
  | malformed
  deriving DecidableEq, Repr

def ConfigError.message : ConfigError → String
  | alreadyExists path => s!"config file {path} already exists"
  | file e => e.message
  | malformed => "malformed configuration"

namespace Config

/-- The file of the configuration if none is named; it lies in the home directory. -/
def defaultPath (home : Option String) : String :=
  Files.join (Files.join (home.getD "") ".regcodec") "config"

/-- The defaults, for a file or for the default file if the name is empty. The database lies beside
    the file. -/
def default (home : Option String) (path : String) : Config :=
  let path := if path = "" then defaultPath home else path
  { path
    logLevel := "info"
    definitions := "registers.pa"
    dbPath := Files.join (Files.directory path) "snapshots.db" }

/-! ## Reading -/

/-- A setting that can stand in the file. -/
inductive Setting where
  | dbPath | definitions | logLevel
  deriving DecidableEq, Repr

namespace Setting

/-- The settings in the order of their names. -/
def all : List Setting := [dbPath, definitions, logLevel]

def name : Setting → String
  | dbPath => "dbPath"
  | definitions => "definitions"
  | logLevel => "logLevel"

/-- A letter without its case. The long s counts as an s, and the sign of the kelvin as a k. -/
def foldCase (c : Char) : Char :=
  if c.toNat = 0x17F then 's' else if c.toNat = 0x212A then 'k' else c.toLower

/-- The setting that a key names. -/
def ofKey? (key : String) : Option Setting :=
  all.find? fun s => s.name.toList.map foldCase == key.toList.map foldCase

end Setting

def get (c : Config) : Setting → String
  | .dbPath => c.dbPath
  | .definitions => c.definitions
  | .logLevel => c.logLevel

/-- Changes a setting. -/
def set (c : Config) (s : Setting) (text : String) : Config :=
  match s with
  | .dbPath => { c with dbPath := text }
  | .definitions => { c with definitions := text }
  | .logLevel => { c with logLevel := text }

/-- A number in single precision. -/
def realText (bits : Nat) : String :=
  FloatLayout.general.render .binary32 (FloatFormat.binary64.convert .binary32 bits)

/-- The text of a scalar, if it is one. -/
def scalarText? : Yaml.Datum → Option String
  | .bool b => some (if b then "true" else "false")
  | .integer i => some (Numeral.signedDecimal i)
  | .real bits => some (realText bits)
  | .text s => some s
  | _ => none

def keyText? : Yaml.Datum → Option String
  | .integer i => if i < Nat.pow 2 63 then some (Numeral.signedDecimal i) else none
  | .real bits =>
    match FloatFormat.binary64.decode bits with
    | .nan => some ".nan"
    | .infinite negative => some (if negative then "-.inf" else ".inf")
    | .finite .. =>
      let text := realText bits
      some (if text = "+Inf" then ".inf" else if text = "-Inf" then "-.inf" else text)
  | .bool b => some (if b then "true" else "false")
  | .text s => some s
  | _ => none

mutual

/-- Whether a value can be passed over: its keys are texts, and its numbers are finite. -/
def isSound : Yaml.Datum → Bool
  | .real bits =>
    match FloatFormat.binary64.decode bits with
    | .finite .. => true
    | _ => false
  | .list items => areSound items
  | .map entries => areSoundEntries entries
  | _ => true

/-- Whether all values can be passed over. -/
def areSound : List Yaml.Datum → Bool
  | [] => true
  | d :: ds => isSound d && areSound ds

/-- Whether all entries can be passed over. -/
def areSoundEntries : List (Yaml.Datum × Yaml.Datum) → Bool
  | [] => true
  | (k, v) :: rest => (keyText? k).isSome && isSound v && areSoundEntries rest

end

/-- The value of a key, if it can be passed over or is a scalar for a setting. -/
def admitted? (entry : Yaml.Datum × Yaml.Datum) : Option (String × Yaml.Datum) :=
  match keyText? entry.1 with
  | none => none
  | some key =>
    if ((Setting.ofKey? key).isSome && (scalarText? entry.2).isSome) || isSound entry.2 then
      some (key, entry.2)
    else none

/-- Puts an entry among entries in the order of their keys, in place of one with the same key. -/
def insertEntry (entry : String × Yaml.Datum) :
    List (String × Yaml.Datum) → List (String × Yaml.Datum)
  | [] => [entry]
  | e :: rest =>
    if entry.1 < e.1 then entry :: e :: rest
    else if entry.1 = e.1 then entry :: rest
    else e :: insertEntry entry rest

/-- Applies entries one after the other. The flag tells whether all of them have fitting values. -/
def applyEntries (c : Config) : List (String × Yaml.Datum) → Config × Bool
  | [] => (c, true)
  | (key, d) :: rest =>
    match Setting.ofKey? key, d with
    | none, _ => c.applyEntries rest
    | some _, .null => c.applyEntries rest
    | some s, d =>
      match scalarText? d with
      | some text => (c.set s text).applyEntries rest
      | none => ((c.applyEntries rest).1, false)

/-- Applies a document: a mapping, or nothing. -/
def apply (c : Config) : Yaml.Datum → Config × Bool
  | .null => (c, true)
  | .map entries =>
    match entries.mapM admitted? with
    | none => (c, false)
    | some entries => c.applyEntries (entries.foldl (fun sorted e => insertEntry e sorted) [])
  | _ => (c, false)

/-- Reads the file over the current settings. A missing file changes nothing. -/
def load (c : Config) (w : Files.Workspace) : Config × Option ConfigError :=
  match w.read c.path with
  | .error e => if e.reason = .notFound then (c, none) else (c, some (.file e))
  | .ok text =>
    match Yaml.parse? text with
    | none => (c, some .malformed)
    | some d =>
      let (c, fits) := c.apply d
      (c, if fits then none else some .malformed)

/-! ## Writing -/

/-- The settings in the form of the file. -/
def text (c : Config) : String :=
  Yaml.writeMapping (Setting.all.map fun s => (s.name, c.get s))

/-- Whether the settings can be written: YAML has no place for some control characters. -/
def isWritable (c : Config) : Bool :=
  Setting.all.all fun s => (c.get s).toList.all fun ch => ch.toNat < 0x20 || Yaml.isAllowed ch

/-- Writes the file, and the directory it lies in. A file that exists is only replaced if
    `overwrite` says so. -/
def persist (c : Config) (w : Files.Workspace) (overwrite : Bool) :
    Except ConfigError Files.Workspace :=
  if w.contains c.path && !overwrite then .error (.alreadyExists c.path)
  else if !c.isWritable then .error .malformed
  else
    match w.makeDirectory (Files.directory c.path) with
    | .error e => .error (.file e)
    | .ok w =>
      match w.write c.path c.text with
      | .error e => .error (.file e)
      | .ok w => .ok w

end Config

end RegisterMap
