/-! # Commands and flags

The commands form a tree: the root has the commands of the first word, and some of these have
commands of their own. A command takes its own flags and those of the root. -/

namespace RegisterMap.Cli

/-- The flags of the command line. -/
inductive Flag where
  | config | definitions | logLevel
  | register | op | device | package | output | overwrite
  | help
  deriving DecidableEq, Repr

namespace Flag

/-- The name of a flag, which stands after two dashes. -/
def name : Flag → String
  | config => "config"
  | definitions => "definitions"
  | logLevel => "log-level"
  | register => "register"
  | op => "op"
  | device => "device"
  | package => "package"
  | output => "output"
  | overwrite => "overwrite"
  | help => "help"

/-- The letter of a flag, which stands after one dash. -/
def letter? : Flag → Option Char
  | package => some 'p'
  | output => some 'o'
  | help => some 'h'
  | _ => none

/-- Whether a flag is on or off; every other flag takes a text. -/
def isSwitch : Flag → Bool
  | overwrite => true
  | help => true
  | _ => false

/-- The flag as messages show it. -/
def text (f : Flag) : String :=
  match f.letter? with
  | some c => "-" ++ String.ofList [c] ++ ", --" ++ f.name
  | none => "--" ++ f.name

def ofName? (known : List Flag) (name : String) : Option Flag :=
  known.find? fun f => f.name == name

def ofLetter? (known : List Flag) (letter : Char) : Option Flag :=
  known.find? fun f => f.letter? == some letter

end Flag

/-- The commands of the program. -/
inductive Command where
  | root
  | config | configInit | configShow
  | schema
  | encode | decode
  | generate
  | snapshot | snapshotSave | snapshotShow
  | completion
  | help
  deriving DecidableEq, Repr

namespace Command

/-- The word for a command. -/
def name : Command → String
  | root => "regcodec"
  | config => "config"
  | configInit => "init"
  | configShow => "show"
  | schema => "schema"
  | encode => "encode"
  | decode => "decode"
  | generate => "generate"
  | snapshot => "snapshot"
  | snapshotSave => "save"
  | snapshotShow => "show"
  | completion => "completion"
  | help => "help"

/-- What a command is for. -/
def summary : Command → String
  | root => "Tool to work with register definitions and payloads"
  | config => "Manage config"
  | configInit => "Write config file with the current settings"
  | configShow => "Print effective config"
  | schema => "List registers of the definition file"
  | encode => "Serialize register fields and print the payload in hex"
  | decode => "Deserialize a register payload and print the field values"
  | generate => "Generate Go register types from the definition file"
  | snapshot => "Save and show register payloads"
  | snapshotSave => "Decode a register payload and save it"
  | snapshotShow => "Print saved registers of a device"
  | completion => "Generate completion script for bash"
  | help => "Help about any command"

/-- The commands below a command. -/
def children : Command → List Command
  | root => [config, schema, encode, decode, generate, snapshot, completion, help]
  | config => [configInit, configShow]
  | snapshot => [snapshotSave, snapshotShow]
  | _ => []

/-- How many words lead from the root to the commands farthest from it. -/
def levels : Nat := 2

/-- Whether a command does something by itself. -/
def isRunnable (c : Command) : Bool :=
  c.children.isEmpty

/-- The flags that every command takes. -/
def sharedFlags : List Flag := [.config, .definitions, .logLevel]

def ownFlags : Command → List Flag
  | configInit => [.overwrite]
  | encode => [.register, .op]
  | decode => [.register, .op]
  | generate => [.package, .output]
  | snapshotSave => [.device, .register, .op]
  | snapshotShow => [.device]
  | _ => []

/-- The flags a command takes, but for the one that asks for help. -/
def flags (c : Command) : List Flag :=
  c.ownFlags ++ sharedFlags

/-- The flags that must be given. -/
def requiredFlags : Command → List Flag
  | encode => [.register]
  | decode => [.register]
  | generate => [.package]
  | snapshotSave => [.register]
  | _ => []

def leastArguments : Command → Nat
  | decode => 1
  | snapshotSave => 1
  | _ => 0

/-- A short text about a command and the commands below it. -/
def helpText (c : Command) : String :=
  let commands := c.children.map fun child => "  " ++ child.name ++ ": " ++ child.summary
  let flags := (c.flags ++ [Flag.help]).map fun f => "  " ++ f.text
  "\n".intercalate ([c.summary] ++ (if commands.isEmpty then [] else "Commands:" :: commands)
    ++ "Flags:" :: flags) ++ "\n"

end Command

end RegisterMap.Cli
