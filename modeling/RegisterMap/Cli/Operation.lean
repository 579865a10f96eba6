import RegisterMap.Device.Direction
import RegisterMap.Text.Case

/-! # The operation pair on the command line -/

namespace RegisterMap.Cli

/-- The side an operation option names, in any case. -/
def parseSide? (text : String) : Option Side :=
  let word := Text.lowerCase text
  if word = "read" ∨ word = "r" then some .read
  else if word = "write" ∨ word = "w" then some .write
  else none

/-- The complaint about any other word. -/
def wrongOperation (text : String) : String :=
  "wrong operation " ++ Text.quoted text ++ ", must be read or write"

end RegisterMap.Cli
