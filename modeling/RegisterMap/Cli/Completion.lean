import RegisterMap.Cli.Command

/-! # Completion of command lines

A script for the shell that completes the words of a command line: the commands below the command
that has been typed, and its flags. -/

namespace RegisterMap.Cli

/-- The words that may follow a command. -/
def completionWords (c : Command) : String :=
  " ".intercalate (c.children.map Command.name
    ++ (c.flags ++ [Flag.help]).map fun f => "--" ++ f.name)

/-- The lines for a command at the given words, and for the commands below it. -/
def completionCases (words : List String) (c : Command) : List String :=
  let pattern := "\"" ++ " ".intercalate words ++ "\""
  ["        " ++ pattern ++ ") words=\"" ++ completionWords c ++ "\" ;;"]

def completionScript : String :=
  let name := Command.root.name
  let blanks := String.ofList (List.replicate 29 ' ')
  let below (c : Command) := c.children.map fun child => ([c.name, child.name], child)
  let cases := ([name], Command.root)
    :: Command.root.children.map (fun c => ([name, c.name], c))
    ++ Command.root.children.flatMap fun c => (below c).map fun e => (name :: e.1, e.2)
  String.join ((["# bash completion for " ++ name ++ blanks ++ "-*- shell-script -*-", "",
    "__" ++ name ++ "_complete()",
    "\x7b",
    "    local path words word",
    "    for word in \"$\x7bCOMP_WORDS[@]:0:COMP_CWORD\x7d\"; do",
    "        [[ $word == -* ]] || path=\"$\x7bpath:+$path \x7d$\x7bword##*/\x7d\"",
    "    done",
    "    case \"$path\" in"]
    ++ cases.flatMap (fun e => completionCases e.1 e.2)
    ++ ["    esac",
    "    COMPREPLY=($(compgen -W \"$words\" -- \"$\x7bCOMP_WORDS[COMP_CWORD]\x7d\"))",
    "\x7d",
    "complete -o default -F __" ++ name ++ "_complete " ++ name]).map (· ++ "\n"))

end RegisterMap.Cli
