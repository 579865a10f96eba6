import RegisterMap.Bytes.Utf8
import RegisterMap.Cli.Command
import RegisterMap.Text.Case

/-! # Suggestions for unknown commands

A word that is no command is compared with the names of the commands, without regard to case. A
command is suggested if the word is at most two edits away from its name, or begins it. An edit
replaces, inserts or removes one byte. -/

namespace RegisterMap.Cli

/-- One row of the table of distances, from the row above it. The arguments after the bytes `t` are
    the distance above on the left, the distance on the left, and the distances above. -/
def distanceRow (b : UInt8) : (t : Bytes) → (corner left : Nat) → (above : List Nat) → List Nat
  | c :: t, corner, left, up :: above =>
    let here := if b = c then corner else min (min left up) corner + 1
    here :: distanceRow b t up here above
  | _, _, _, _ => []

/-- The distances between the first bytes of a text, one byte more than in the row above, and all
    beginnings of `t`. -/
def nextDistances (t : Bytes) (row : List Nat) (b : UInt8) : List Nat :=
  match row with
  | [] => []
  | corner :: above => (corner + 1) :: distanceRow b t corner (corner + 1) above

/-- The number of edits that make one text of the other. -/
def editDistance (s t : Bytes) : Nat :=
  (s.foldl (nextDistances t) (List.range (t.length + 1))).getLastD 0

/-- Whether a word is close to the name of a command. -/
def isClose (word name : String) : Bool :=
  let word := Text.lowerCase word
  editDistance (Utf8.encode word) (Utf8.encode name) ≤ 2 || word.toList.isPrefixOf name.toList

/-- The names of the commands that may be meant by a word. -/
def suggestions (word : String) : List String :=
  ((Command.root.children.filter (· ≠ .help)).map Command.name).filter (isClose word)

end RegisterMap.Cli
