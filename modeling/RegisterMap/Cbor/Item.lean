import RegisterMap.Bytes.BigEndian
import RegisterMap.FloatFormat.Rounding

/-! # Data items in CBOR

Records are stored in the concise binary object representation. An item begins with a head: three
bits of major type, five bits of additional information, and for a large argument up to eight bytes
more. Writing takes the shortest head; reading accepts any, and refuses items of indefinite length
and items that are nested too deeply. -/

namespace RegisterMap.Cbor

/-- One data item. -/
inductive Item where
  | unsigned (n : Nat)
  /-- The number `-1 - n`. -/
  | negative (n : Nat)
  | bytes (content : Bytes)
  /-- A text, as the bytes found. -/
  | text (content : Bytes)
  | array (items : List Item)
  | map (entries : List (Item × Item))
  | tag (number : Nat) (content : Item)
  | simple (n : Nat)
  /-- A floating-point number, widened to double precision. -/
  | double (bits : Nat)
  deriving Repr

/-! ## Writing -/

/-- The shortest head of a major type and an argument below `2 ^ 64`. -/
def writeHead (major argument : Nat) : Bytes :=
  if argument < 24 then [UInt8.ofNat (32 * major + argument)]
  else if argument < Nat.pow 2 8 then UInt8.ofNat (32 * major + 24) :: BigEndian.encode 1 argument
  else if argument < Nat.pow 2 16 then UInt8.ofNat (32 * major + 25) :: BigEndian.encode 2 argument
  else if argument < Nat.pow 2 32 then UInt8.ofNat (32 * major + 26) :: BigEndian.encode 4 argument
  else UInt8.ofNat (32 * major + 27) :: BigEndian.encode 8 argument

def writeUnsigned (n : Nat) : Bytes :=
  writeHead 0 n

/-- A byte string. -/
def writeBytes (content : Bytes) : Bytes :=
  writeHead 2 content.length ++ content

def writeText (content : Bytes) : Bytes :=
  writeHead 3 content.length ++ content

/-- The item that stands for nothing. -/
def writeNull : Bytes := [0xF6]

/-! ## Reading -/

structure Head where
  major : Nat
  /-- The additional information, which for the last major type tells what the argument is. -/
  info : Nat
  argument : Nat
  deriving DecidableEq, Repr

/-- Reads a head. Heads of indefinite length are refused. -/
def readHead : Bytes → Option (Head × Bytes)
  | [] => none
  | b :: rest =>
    let major := b.toNat / 32
    let info := b.toNat % 32
    if info < 24 then
      some (⟨major, info, info⟩, rest)
    else if info < 28 then
      let width := Nat.pow 2 (info - 24)
      let argument := rest.take width
      if argument.length = width then
        some (⟨major, info, BigEndian.decode argument⟩, rest.drop width)
      else
        none
    else
      none

/-- Reads the `count` bytes of a string. -/
def readString (count : Nat) (bytes : Bytes) : Option (Bytes × Bytes) :=
  if bytes.length < count then none else some (bytes.take count, bytes.drop count)

/-- Reads `count` things one after the other. -/
def readMany {α : Type} (read : Bytes → Option (α × Bytes)) :
    (count : Nat) → Bytes → Option (List α × Bytes)
  | 0, bytes => some ([], bytes)
  | count + 1, bytes =>
    match read bytes with
    | none => none
    | some (a, rest) =>
      match readMany read count rest with
      | none => none
      | some (as, rest) => some (a :: as, rest)

/-- The things at even places paired with those after them. -/
def pairs {α : Type} : List α → List (α × α)
  | a :: b :: rest => (a, b) :: pairs rest
  | _ => []

/-- Half precision, which only stored records use. -/
def binary16 : FloatFormat := ⟨10, 5⟩

/-- The item of the last major type. A simple value below 32 has no second byte. -/
def primitive? (head : Head) : Option Item :=
  if head.info = 25 then some (.double (binary16.convert .binary64 head.argument))
  else if head.info = 26 then some (.double (FloatFormat.binary32.convert .binary64 head.argument))
  else if head.info = 27 then some (.double head.argument)
  else if head.info = 24 ∧ head.argument < 32 then none
  else some (.simple head.argument)

/-- How deep arrays, maps and tags of tags may nest. -/
def maxDepth : Nat := 32

/-- How many elements an array or entries a map may have. -/
def maxCount : Nat := 131072

/-- Whether a tag comes next. -/
def tagFollows : Bytes → Bool
  | [] => false
  | b :: _ => b.toNat / 32 == 6

/-- Reads one item that stands `depth` deep. Every item takes at least a byte, so that the number of
    bytes is fuel enough. -/
def readItem : (fuel : Nat) → (depth : Nat) → Bytes → Option (Item × Bytes)
  | 0, _, _ => none
  | fuel + 1, depth, bytes =>
    match readHead bytes with
    | none => none
    | some (head, rest) =>
      match head.major with
      | 0 => some (.unsigned head.argument, rest)
      | 1 => some (.negative head.argument, rest)
      | 2 => (readString head.argument rest).map fun r => (.bytes r.1, r.2)
      | 3 => (readString head.argument rest).map fun r => (.text r.1, r.2)
      | 4 =>
        if maxDepth ≤ depth ∨ maxCount < head.argument then none
        else
          (readMany (readItem fuel (depth + 1)) head.argument rest).map fun r => (.array r.1, r.2)
      | 5 =>
        if maxDepth ≤ depth ∨ maxCount < head.argument then none
        else
          (readMany (readItem fuel (depth + 1)) (2 * head.argument) rest).map fun r =>
            (.map (pairs r.1), r.2)
      | 6 =>
        let inner := if tagFollows rest then depth + 1 else depth
        if maxDepth < inner then none
        else (readItem fuel inner rest).map fun r => (.tag head.argument r.1, r.2)
      | _ => (primitive? head).map fun item => (item, rest)

/-- The item that takes up all of the bytes. -/
def decode? (bytes : Bytes) : Option Item :=
  match readItem (bytes.length + 1) 0 bytes with
  | some (item, []) => some item
  | _ => none

/-! ## Contents -/

namespace Item

/-- Whether the tags around an item fit what they mark: a date is a text, a point in time a number,
    and a large number a byte string. -/
def tagsFit : Item → Bool
  | tag number content =>
    (match number, content with
      | 0, .text _ => true
      | 0, _ => false
      | 1, .unsigned _ => true
      | 1, .negative _ => true
      | 1, .double _ => true
      | 1, _ => false
      | 2, .bytes _ => true
      | 2, _ => false
      | 3, .bytes _ => true
      | 3, _ => false
      | _, _ => true) && content.tagsFit
  | _ => true

/-- The item inside of all tags. -/
def untagged : Item → Item
  | tag _ content => content.untagged
  | item => item

/-- Whether the item stands for nothing. -/
def isNull : Item → Bool
  | simple n => n == 22 || n == 23
  | _ => false

/-- The natural number of an item: an unsigned number, a large one that fits 64 bits, or a simple
    value without a meaning of its own. -/
def toNat? : Item → Option Nat
  | unsigned n => some n
  | simple n => if 20 ≤ n ∧ n ≤ 23 then none else some n
  | tag 2 (bytes content) => some (BigEndian.decode content)
  | tag 3 _ => none
  | tag _ content => content.toNat?
  | _ => none

end Item

end RegisterMap.Cbor
