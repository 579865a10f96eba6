import RegisterMap.Generated.Build
import RegisterMap.Generated.DocComment

/-! # Source text of generated packages

`Package.render` writes a package as Go source, line by line. The import declaration names only
what the code uses. -/

namespace RegisterMap.Generated

/-! ## Declarations -/

/-- Comment lines, indented. A comment has no carriage returns. -/
def commentLines (indent : String) (doc : List String) : List String :=
  doc.map fun line =>
    if line.isEmpty then indent ++ "//"
    else indent ++ "// " ++ String.ofList (line.toList.filter (· != '\r'))

/-- `cell` filled up with blanks. -/
def padded (width : Nat) (cell : String) : String :=
  cell ++ String.ofList (List.replicate (width - cell.length) ' ')

/-- The length of the longest text. -/
def widest (cells : List String) : Nat :=
  cells.foldl (fun n s => max n s.length) 0

/-- The members of a struct. Those without a comment between them have their types in one
    column. -/
def memberLines (members : List Member) : List String :=
  (members.splitBy fun _ next => next.doc.isEmpty).flatMap fun block =>
    let width := widest (block.map Member.name)
    block.flatMap fun m =>
      commentLines "\t" m.doc ++ ["\t" ++ padded width m.name ++ " " ++ m.shape.typeText]

/-- Constants without a comment between them, in columns. -/
def constantBlock (constants : List ConstantDef) : List String :=
  let nameWidth := widest (constants.map ConstantDef.name)
  let typeWidth := widest (constants.map ConstantDef.type)
  constants.flatMap fun c =>
    commentLines "\t" c.doc ++
      ["\t" ++ padded nameWidth c.name ++ " " ++ padded typeWidth c.type ++ " = " ++ c.literal]

/-- A group of constants, or nothing if there are none. -/
def constantLines (constants : List ConstantDef) : List String :=
  if constants.isEmpty then
    []
  else
    ["", "const ("] ++ (constants.splitBy fun _ next => next.doc.isEmpty).flatMap constantBlock
      ++ [")"]

/-! ## Methods -/

/-- The function that writes or reads a shape. -/
def coder (op : Op) : Shape → String
  | .word _ => if isWriter then "codec.Put" else "codec.Get"
  | .float k => floatCoder k
  | .words _ _ => if isWriter then "codec.PutSlice" else "codec.GetSlice"
  | .floats k _ => floatCoder k
  | .nested _ => ""
where
  isWriter : Bool := match op with
    | .serialize _ => true
    | _ => false
  floatCoder (k : Kind) : String :=
    (if isWriter then "codec.Put" else "codec.Get") ++ (if k = .float32 then "Float32" else "Float64")

/-- A call that may fail, and the advance of the offset after it. -/
def callLines (indent call : String) : List String :=
  [indent ++ "if n, err = " ++ call ++ "; err != nil \x7b",
   indent ++ "\treturn offset, err",
   indent ++ "\x7d",
   indent ++ "offset += n"]

/-- The lines of a step. A writer reads the members of `r`, a reader fills those of the copy
    `v`. -/
def stepLines (op : Op) (s : Step) : List String :=
  let (receiver, address) := match op with
    | .serialize _ => ("r.", "")
    | _ => ("v.", "&")
  let operand := receiver ++ s.member
  let call (target : String) : String := coder op s.shape ++ "(buf[offset:], " ++ target ++ ")"
  match s.shape with
  | .nested _ => callLines "\t" (operand ++ "." ++ methodName op ++ "(buf[offset:])")
  | .floats _ _ =>
    ["\tfor i := range " ++ operand ++ " \x7b"] ++
      callLines "\t\t" (call (address ++ operand ++ "[i]")) ++ ["\t\x7d"]
  | .words _ _ => callLines "\t" (call (operand ++ "[:]"))
  | _ => callLines "\t" (call (address ++ operand))

/-- The lines that check the length of the buffer. -/
def guardLines : Option Nat → List String
  | none => []
  | some size =>
    let n := Numeral.decimal size
    ["\tif len(buf) < " ++ n ++ " \x7b",
     "\t\treturn 0, &codec.ErrBufferCapacity\x7bNeed: " ++ n ++ ", Have: len(buf)\x7d",
     "\t\x7d"]

/-- The lines of the body of a method. -/
def bodyLines (op : Op) : Body → List String
  | .reject register rejected =>
    ["\treturn 0, &register.ErrDirectionMismatch\x7bRegister: " ++ Text.quoted register
      ++ ", Op: register.Op" ++ methodName rejected ++ "\x7d"]
  | .run guard steps =>
    let (copy, commit) := match op with
      | .serialize _ => ([], [])
      | _ => (["\tv := *r"], ["\t*r = v"])
    guardLines guard ++ copy ++ ["\toffset := 0"]
      ++ (if steps.isEmpty then [] else ["\tvar n int", "\tvar err error"])
      ++ steps.flatMap (stepLines op) ++ commit ++ ["\treturn offset, nil"]

def methodLines (type : String) (m : Method) : List String :=
  ["", "// " ++ methodName m.op ++ " " ++ m.doc,
   "func (r *" ++ type ++ ") " ++ methodName m.op ++ "(buf []byte) (int, error) \x7b"]
    ++ bodyLines m.op m.body ++ ["\x7d"]

/-! ## Types and packages -/

/-- The lines of a type with everything that belongs to it. -/
def typeLines (t : TypeDef) : List String :=
  ["", "// ================= " ++ t.register ++ " =================", "",
   "// " ++ t.name ++ "ID is the number of register " ++ t.register,
   "const " ++ t.name ++ "ID uint8 = " ++ Numeral.decimal t.id.toNat, ""]
    ++ commentLines "" (documentation t.doc)
    ++ ["type " ++ t.name ++ " struct \x7b"] ++ memberLines t.members ++ ["\x7d"]
    ++ constantLines t.constants ++ constantLines t.masks
    ++ ["", "// ID returns the register number", "func (r *" ++ t.name ++ ") ID() uint8 \x7b",
        "\treturn " ++ t.name ++ "ID", "\x7d", "",
        "// Size returns the number of bytes the register takes on the wire",
        "func (r *" ++ t.name ++ ") Size() int \x7b", "\treturn " ++ Numeral.decimal t.size, "\x7d"]
    ++ t.methods.flatMap (methodLines t.name)

/-- Whether a body calls the scalar codec. -/
def Body.usesCodec : Body → Bool
  | reject .. => false
  | run guard steps => guard.isSome || steps.any fun s =>
    match s.shape with
    | .nested _ => false
    | _ => true

/-- Whether a body names the errors of registers. -/
def Body.usesRegister : Body → Bool
  | reject .. => true
  | run .. => false

/-- The import declaration. -/
def importLines (p : Package) : List String :=
  let bodies := p.types.flatMap fun t => t.methods.map Method.body
  let used :=
    (if bodies.any Body.usesCodec then ["\t\"jinr.ru/greenlab/go-regcodec/pkg/codec\""] else [])
    ++ (if bodies.any Body.usesRegister then ["\t\"jinr.ru/greenlab/go-regcodec/pkg/register\""]
        else [])
  if used.isEmpty then [] else ["", "import ("] ++ used ++ [")"]

def Package.lines (p : Package) : List String :=
  ["// Code generated by regcodec. DO NOT EDIT.", ""] ++ commentLines "" (documentation p.doc)
    ++ ["package " ++ p.name] ++ importLines p ++ p.types.flatMap typeLines

/-- The source text of a package. -/
def Package.render (p : Package) : String :=
  String.join (p.lines.map (· ++ "\n"))

end RegisterMap.Generated
