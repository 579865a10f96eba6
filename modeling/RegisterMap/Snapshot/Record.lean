import RegisterMap.Bytes.Utf8
import RegisterMap.Calendar
import RegisterMap.Cbor.Item
import RegisterMap.Device.Direction

/-! # Snapshot records

A snapshot is the payload of a register at some time. It is stored as a map with the keys 1 to 5:
register name, register number, direction of the exchange, payload, and the time of saving as a
text. A time that is not set is stored as null.

Reading is more liberal than writing: keys may come in any order, other keys are passed over, and a
key that is missing or null leaves its part of the record empty. No key may come twice. -/

namespace RegisterMap.Snapshot

/-- The stored payload of a register. -/
structure Record where
  register : String := ""
  id : UInt8 := 0
  /-- The side of the exchange the payload was serialized for. -/
  direction : Direction := ⟨false, false, 0⟩
  payload : Bytes := []
  saved : Instant := .unset
  deriving DecidableEq, Repr

/-- The stored time of saving. -/
def writeSaved (saved : Instant) : Bytes :=
  if saved = .unset then Cbor.writeNull else Cbor.writeText (Utf8.encode saved.text)

def Record.encode (r : Record) : Bytes :=
  Cbor.writeHead 5 5
    ++ Cbor.writeUnsigned 1 ++ Cbor.writeText (Utf8.encode r.register)
    ++ Cbor.writeUnsigned 2 ++ Cbor.writeUnsigned r.id.toNat
    ++ Cbor.writeUnsigned 3 ++ Cbor.writeUnsigned r.direction.number
    ++ Cbor.writeUnsigned 4 ++ Cbor.writeBytes r.payload
    ++ Cbor.writeUnsigned 5 ++ writeSaved r.saved

/-! ## Reading -/

def readText? (item : Cbor.Item) : Option String :=
  match item.untagged with
  | .text content => Utf8.decode? content
  | i => if i.isNull then some "" else none

/-- The number from 0 to 255 of an item. -/
def readByte? (item : Cbor.Item) : Option UInt8 :=
  if item.untagged.isNull then some 0
  else
    match item.toNat? with
    | some n => if n < 256 then some (UInt8.ofNat n) else none
    | none => none

/-- The payload of an item: a byte string, or an array of numbers from 0 to 255. -/
def readPayload? (item : Cbor.Item) : Option Bytes :=
  match item.untagged with
  | .bytes content => some content
  | .array items => items.mapM fun i => if i.tagsFit then readByte? i else none
  | i => if i.isNull then some [] else none

/-- The instant of a double-precision number of seconds. The fraction is rounded to double
    precision as nanoseconds, and then cut off. A number outside of 64 bits counts as the smallest
    one, and what is no number is no time. -/
def instantOfDouble (bits : Nat) : Instant :=
  match FloatFormat.binary64.decode bits with
  | .finite negative mantissa exponent =>
    let (num, den) := scaled mantissa exponent
    let whole : Int := if negative then -(num / den : Nat) else (num / den : Nat)
    let billionths := FloatFormat.binary64.round (num % den * 1000000000) den
    let nanos : Int := (FloatFormat.binary64.truncate? billionths).getD 0
    .ofParts (if -Nat.pow 2 63 ≤ whole ∧ whole < Nat.pow 2 63 then whole else -Nat.pow 2 63)
      (if negative then -nanos else nanos)
  | _ => .unset

/-- The time of an item: a text, or a number of seconds. -/
def readInstant? (item : Cbor.Item) : Option Instant :=
  match item.untagged with
  | .text content => (Utf8.decode? content).bind Instant.parse?
  | .unsigned n => if n < Nat.pow 2 63 then some ⟨n, 0⟩ else none
  | .negative n => if n < Nat.pow 2 63 then some ⟨-1 - n, 0⟩ else none
  | .double bits => some (instantOfDouble bits)
  | i => if i.isNull then some .unset else none

/-- A key of a map: a number, taken modulo `2 ^ 64`, or a text. -/
inductive Key where
  | number (i : Int)
  | text (s : String)
  deriving DecidableEq, Repr

/-- The key an item stands for. -/
def Key.ofItem? : Cbor.Item → Option Key
  | .unsigned n => some (.number (Int.bmod n (Nat.pow 2 64)))
  | .negative n => some (.number (Int.bmod (-1 - n) (Nat.pow 2 64)))
  | .text content => (Utf8.decode? content).map .text
  | _ => none

/-- Sets the part of a record that a key names. -/
def Record.put? (r : Record) (key : Key) (item : Cbor.Item) : Option Record :=
  match key with
  | .number 1 => if item.tagsFit then (readText? item).map ({ r with register := · }) else none
  | .number 2 => if item.tagsFit then (readByte? item).map ({ r with id := · }) else none
  | .number 3 =>
    if item.tagsFit then
      (readByte? item).map fun n => { r with direction := .ofNumber n.toNat }
    else none
  | .number 4 => if item.tagsFit then (readPayload? item).map ({ r with payload := · }) else none
  | .number 5 => if item.tagsFit then (readInstant? item).map ({ r with saved := · }) else none
  | _ => some r

/-- Goes through the entries of a map; `seen` holds the keys before them. -/
def Record.putEntries? (r : Record) (seen : List Key) : List (Cbor.Item × Cbor.Item) → Option Record
  | [] => some r
  | (k, item) :: rest =>
    match Key.ofItem? k with
    | none => none
    | some key =>
      if key ∈ seen then none
      else
        match r.put? key item with
        | none => none
        | some r => r.putEntries? (key :: seen) rest

def Record.ofItem? (item : Cbor.Item) : Option Record :=
  if !item.tagsFit then none
  else
    match item.untagged with
    | .map entries => Record.putEntries? {} [] entries
    | i => if i.isNull then some {} else none

/-- The record with the given stored form. -/
def Record.decode? (bytes : Bytes) : Option Record :=
  (Cbor.decode? bytes).bind Record.ofItem?

end RegisterMap.Snapshot
