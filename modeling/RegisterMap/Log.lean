import RegisterMap.Calendar
import RegisterMap.Numeral.Digits
import RegisterMap.Text.Case
import RegisterMap.Text.Quoted

/-! # The program's log

A message has a level, and the log shows messages up to the level it is set to. A line of the log
has the program's name, the time, the level and the message. -/

namespace RegisterMap

/-- How important a message is. -/
inductive LogLevel where
  | error | warning | info | debug
  deriving DecidableEq, Repr

namespace LogLevel

/-- The levels, the most important first. -/
def all : List LogLevel := [error, warning, info, debug]

/-- The place of a level among all levels. -/
def number : LogLevel → Nat
  | error => 0
  | warning => 1
  | info => 2
  | debug => 3

def name : LogLevel → String
  | error => "error"
  | warning => "warning"
  | info => "info"
  | debug => "debug"

/-- The mark of a level in a line. -/
def mark : LogLevel → String
  | error => "[error] "
  | warning => "[warn] "
  | info => "[info] "
  | debug => "[debug] "

/-- The level with a name, in any case. -/
def ofName? (text : String) : Option LogLevel :=
  all.find? fun level => level.name == Text.lowerCase text

/-- The name of the level with a number, or the number itself in words. -/
def nameOfNumber (i : Int) : String :=
  match all.find? fun level => (level.number : Int) == i with
  | some level => level.name
  | none => s!"LogLevel({Numeral.signedDecimal i})"

/-- The complaint about a text that names no level. -/
def unknown (text : String) : String :=
  s!"Wrong log level {Text.quoted text}. Must be one of: error, warning, info, debug."

/-- Whether a log that is set to this level shows a message. -/
def shows (level message : LogLevel) : Bool :=
  message.number ≤ level.number

end LogLevel

namespace Log

/-- A message of the program. -/
structure Message where
  level : LogLevel
  text : String
  deriving DecidableEq, Repr

/-- The line of a message, with the time that it was logged at. -/
def Message.line (m : Message) (time : String) : String :=
  "[regcodec] " ++ time ++ m.level.mark ++ m.text ++ "\n"

/-- The time in a line: date and time of day, to the second. -/
def stamp (t : Instant) : String :=
  (({ t with nanos := 0 } : Instant).text.map fun c =>
    if c == '-' then '/' else if c == 'T' || c == 'Z' then ' ' else c)

/-- The arguments that no placeholder took. -/
def surplus (args : List String) : List Char :=
  if args.isEmpty then []
  else ("%!(EXTRA " ++ ", ".intercalate (args.map ("string=" ++ ·)) ++ ")").toList

/-- Fills the arguments into the placeholders `%s` of a text. A doubled percent sign stands for
    itself; a placeholder without an argument, one of another kind and arguments that are left over
    are shown as faults. -/
def fill : List Char → (args : List String) → List Char
  | [], args => surplus args
  | '%' :: [], args => "%!(NOVERB)".toList ++ surplus args
  | '%' :: c :: cs, args =>
    if c = '%' then '%' :: fill cs args
    else
      match args with
      | [] => '%' :: '!' :: c :: ("(MISSING)".toList ++ fill cs [])
      | arg :: rest =>
        if c = 's' ∨ c = 'v' then arg.toList ++ fill cs rest
        else '%' :: '!' :: c :: (s!"(string={arg})".toList ++ fill cs rest)
  | c :: cs, args => c :: fill cs args

/-- A message that is made of a text with placeholders. -/
def Message.ofFormat (level : LogLevel) (text : String) (args : List String) : Message :=
  ⟨level, String.ofList (fill text.toList args)⟩

end Log

end RegisterMap
