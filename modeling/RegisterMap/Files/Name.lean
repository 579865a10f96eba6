/-! # File names

A file name is a list of parts between slashes. Its clean form has no empty parts and no `.`, and a
`..` only at the start of a name that is not rooted. -/

namespace RegisterMap.Files

/-- What stands between the slashes of a text. -/
def betweenSlashes : List Char → List (List Char)
  | [] => [[]]
  | c :: cs =>
    if c = '/' then [] :: betweenSlashes cs
    else
      match betweenSlashes cs with
      | [] => [[c]]
      | first :: rest => (c :: first) :: rest

/-- The parts of a name that lead anywhere. -/
def parts (name : String) : List String :=
  ((betweenSlashes name.toList).map String.ofList).filter fun p => p ≠ "" ∧ p ≠ "."

/-- Whether a name starts at the root. -/
def isRooted (name : String) : Bool :=
  name.toList.head? == some '/'

/-- One part more on a stack of parts. A `..` takes the last part away if there is one; the root has
    nothing above it. -/
def pushPart (rooted : Bool) (stack : List String) (part : String) : List String :=
  if part = ".." then
    match stack with
    | [] => if rooted then [] else [".."]
    | last :: rest => if last = ".." then ".." :: last :: rest else rest
  else
    part :: stack

/-- The clean form of a name. -/
def clean (name : String) : String :=
  let rooted := isRooted name
  let body := "/".intercalate ((parts name).foldl (pushPart rooted) []).reverse
  if rooted then "/" ++ body
  else if body = "" then "."
  else body

/-- The clean form of two names one after the other. -/
def join (first second : String) : String :=
  if first = "" then
    if second = "" then "" else clean second
  else
    clean (first ++ "/" ++ second)

/-- The directory a name lies in. -/
def directory (name : String) : String :=
  clean (String.ofList (name.toList.reverse.dropWhile (· != '/')).reverse)

end RegisterMap.Files
