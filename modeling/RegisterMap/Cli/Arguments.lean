import RegisterMap.Bytes.HexText
import RegisterMap.Cli.Suggestion
import RegisterMap.Text.Quoted

/-! # The arguments of the command line

The command is the first word, or two words, that stand apart from flags. Flags may stand anywhere:
a name after two dashes, or letters after one dash. The value of a flag follows an equals sign, the
letter itself, or is the next argument. Two dashes alone end the flags.

The command is found before its flags are read, so a flag is taken to have the next argument as its
value unless it is known as a switch at that point.

`Request.parse` gives what the arguments ask for, or the first thing that is wrong with them. -/

namespace RegisterMap.Cli

/-- What is wrong with the arguments. -/
inductive UsageError where
  | unknownCommand (word : String)
  | badSyntax (argument : String)
  | unknownFlag (name : String)
  /-- A letter that no flag has, with the letters from there on. -/
  | unknownLetter (letter : Char) (letters : String)
  | missingValue (argument : String)
  | missingLetterValue (letter : Char) (letters : String)
  | badSwitch (flag : Flag) (value : String)
  | tooFewArguments (least given : Nat)
  | missingFlags (names : List String)
  deriving DecidableEq, Repr

/-- The lines that suggest commands. -/
def suggestionText (names : List String) : String :=
  if names.isEmpty then ""
  else "\n\nDid you mean this?\n" ++ String.join (names.map fun name => "\t" ++ name ++ "\n")

def UsageError.message : UsageError → String
  | unknownCommand word =>
    s!"unknown command {Text.quoted word} for {Text.quoted Command.root.name}"
      ++ suggestionText (suggestions word)
  | badSyntax argument => s!"bad flag syntax: {argument}"
  | unknownFlag name => s!"unknown flag: --{name}"
  | unknownLetter letter letters =>
    s!"unknown shorthand flag: {Text.quotedLetter letter} in -{letters}"
  | missingValue argument => s!"flag needs an argument: {argument}"
  | missingLetterValue letter letters =>
    s!"flag needs an argument: {Text.quotedLetter letter} in -{letters}"
  | badSwitch flag value =>
    s!"invalid argument {Text.quoted value} for {Text.quoted flag.text} flag: " ++
    s!"strconv.ParseBool: parsing {Text.quoted value}: invalid syntax"
  | tooFewArguments least given =>
    s!"requires at least {Numeral.decimal least} arg(s), only received {Numeral.decimal given}"
  | missingFlags names =>
    "required flag(s) \"" ++ "\", \"".intercalate names ++ "\" not set"

/-! ## Finding the command -/

/-- Whether a flag is taken to have the next argument as its value. -/
def takesNext (known : List Flag) (argument : String) : Bool :=
  let isSwitch (f? : Option Flag) : Bool := (f?.map Flag.isSwitch).getD false
  match argument.toList with
  | '-' :: '-' :: name =>
    !name.contains '=' && !isSwitch (Flag.ofName? known (String.ofList name))
  | ['-', letter] =>
    letter.toNat < 128 && letter != '=' && !isSwitch (Flag.ofLetter? known letter)
  | _ => false

/-- The arguments that stand apart from flags. A flag without an equals sign takes the next argument
    away; if nothing comes after that one, nothing is left. -/
def plainWords (known : List Flag) : List String → List String
  | [] => []
  | argument :: rest =>
    if argument = "--" then []
    else if takesNext known argument then
      match rest with
      | [] => []
      | [_] => []
      | _ :: rest => plainWords known rest
    else if argument ≠ "" ∧ !argument.startsWith "-" then argument :: plainWords known rest
    else plainWords known rest

/-- Goes down the tree of commands as far as the words name commands, at most a number of levels.
    The words are taken out of the arguments. -/
def locate : (levels : Nat) → Command → List String → Command × List String
  | 0, command, arguments => (command, arguments)
  | levels + 1, command, arguments =>
    match plainWords command.flags arguments with
    | [] => (command, arguments)
    | word :: _ =>
      match command.children.find? fun child => child.name == word with
      | some child => locate levels child (arguments.erase word)
      | none => (command, arguments)

/-! ## Reading the flags -/

/-- The flags that were given with their values, the last one first. -/
abbrev Given := List (Flag × String)

/-- The state of a switch in words. -/
def readSwitch? (text : String) : Option Bool :=
  if ["1", "t", "T", "TRUE", "true", "True"].contains text then some true
  else if ["0", "f", "F", "FALSE", "false", "False"].contains text then some false
  else none

/-- Gives a flag a value. -/
def Given.set (given : Given) (f : Flag) (value : String) : Except UsageError Given :=
  if f.isSwitch && (readSwitch? value).isNone then .error (.badSwitch f value)
  else .ok ((f, value) :: given)

/-- What one argument does: it is complete, or a flag takes the next argument as its value. -/
inductive Reading where
  | complete (given : Given)
  | awaiting (given : Given) (f : Flag) (missing : UsageError)
  deriving DecidableEq, Repr

/-- Reads what stands after two dashes. -/
def readName (known : List Flag) (given : Given) (argument : String) (body : List Char) :
    Except UsageError Reading :=
  let name := String.ofList (body.takeWhile (· != '='))
  if name = "" ∨ body.head? = some '-' then .error (.badSyntax argument)
  else
    match Flag.ofName? known name, body.dropWhile (· != '=') with
    | none, _ => .error (.unknownFlag name)
    | some f, _ :: value => (given.set f (String.ofList value)).map .complete
    | some f, [] =>
      if f.isSwitch then .ok (.complete ((f, "true") :: given))
      else .ok (.awaiting given f (.missingValue argument))

/-- What begins the letters that are passed over. -/
def reservedLetters : List Char := "test.".toList

/-- Reads what stands after one dash: switches, and at last a flag with its value. -/
def readLetters (known : List Flag) (given : Given) : List Char → Except UsageError Reading
  | [] => .ok (.complete given)
  | letter :: rest =>
    let letters := String.ofList (letter :: rest)
    if reservedLetters.isPrefixOf (letter :: rest) then .ok (.complete given)
    else
      match Flag.ofLetter? known letter with
      | none => .error (.unknownLetter (Char.ofNat (HexText.firstByte letter)) letters)
      | some f =>
        match rest with
        | '=' :: c :: value => (given.set f (String.ofList (c :: value))).map .complete
        | _ =>
          if f.isSwitch then readLetters known ((f, "true") :: given) rest
          else if rest.isEmpty then .ok (.awaiting given f (.missingLetterValue letter letters))
          else .ok (.complete ((f, String.ofList rest) :: given))

/-- Reads one argument that begins with a dash. -/
def readFlag (known : List Flag) (given : Given) (argument : String) : Except UsageError Reading :=
  match argument.toList with
  | '-' :: '-' :: body => readName known given argument body
  | '-' :: letters => readLetters known given letters
  | _ => .ok (.complete given)

/-- Reads all arguments: the flags, and the arguments that are none. -/
def readAll (known : List Flag) (given : Given) :
    List String → Except UsageError (Given × List String)
  | [] => .ok (given, [])
  | argument :: rest =>
    if argument = "--" then .ok (given, rest)
    else if argument = "-" ∨ !argument.startsWith "-" then
      match readAll known given rest with
      | .error e => .error e
      | .ok (given, arguments) => .ok (given, argument :: arguments)
    else
      match readFlag known given argument with
      | .error e => .error e
      | .ok (.complete given) => readAll known given rest
      | .ok (.awaiting given f missing) =>
        match rest with
        | [] => .error missing
        | value :: rest => readAll known ((f, value) :: given) rest

/-! ## Requests -/

/-- A command with its flags and arguments. -/
structure Invocation where
  command : Command
  given : Given
  arguments : List String
  deriving DecidableEq, Repr

namespace Invocation

/-- The value of a flag, or a default. -/
def text (i : Invocation) (f : Flag) (default : String) : String :=
  (i.given.lookup f).getD default

/-- Whether a switch is on. -/
def isOn (i : Invocation) (f : Flag) : Bool :=
  ((i.given.lookup f).bind readSwitch?).getD false

/-- The names of the required flags that were not given. -/
def missingFlags (i : Invocation) : List String :=
  (i.command.requiredFlags.filter fun f => (i.given.lookup f).isNone).map Flag.name

end Invocation

/-- What the arguments ask for. -/
inductive Request where
  | help (command : Command)
  | run (invocation : Invocation)
  deriving DecidableEq, Repr

/-- The request of the flags and arguments of a command. -/
def Request.ofCommand (command : Command) (arguments : List String) : Except UsageError Request :=
  match readAll (command.flags ++ [.help]) [] arguments with
  | .error e => .error e
  | .ok (given, arguments) =>
    let invocation : Invocation := ⟨command, given, arguments⟩
    if invocation.isOn .help || !command.isRunnable then .ok (.help command)
    else if arguments.length < command.leastArguments then
      .error (.tooFewArguments command.leastArguments arguments.length)
    else .ok (.run invocation)

/-- The request of the arguments of the program. -/
def Request.parse (arguments : List String) : Except UsageError Request :=
  match locate Command.levels .root arguments with
  | (.root, rest) =>
    match plainWords Command.root.flags rest with
    | word :: _ => .error (.unknownCommand word)
    | [] => Request.ofCommand .root rest
  | (command, rest) => Request.ofCommand command rest

end RegisterMap.Cli
