import RegisterMap.Bytes.Utf8
import RegisterMap.Calendar
import RegisterMap.FloatFormat.Text
import RegisterMap.Numeral.Real
import RegisterMap.Yaml.Node

/-! # The data of a YAML document

A plain text without a tag is a truth value, a number or nothing if it looks like one, and a tag can
ask for a certain kind. What looks like a point in time stays a text, but is recognized, because it
has to be quoted when it is written.

A key `<<` merges another mapping, or several, into the one it stands in. Of equal keys the last one
counts. -/

namespace RegisterMap.Yaml

/-- A value of a document. -/
inductive Datum where
  | null
  | bool (b : Bool)
  | integer (i : Int)
  /-- A double-precision number, given by its pattern. -/
  | real (bits : Nat)
  | text (s : String)
  | list (items : List Datum)
  | map (entries : List (Datum × Datum))
  deriving Repr

inductive ScalarKind where
  | null | bool | integer | real | timestamp | text
  deriving DecidableEq, Repr

/-! ## Plain texts -/

/-- The words that stand for something else than a text. -/
def words : List (Datum × List String) :=
  [(.bool true, ["y", "Y", "yes", "Yes", "YES", "true", "True", "TRUE", "on", "On", "ON"]),
   (.bool false, ["n", "N", "no", "No", "NO", "false", "False", "FALSE", "off", "Off", "OFF"]),
   (.null, ["", "~", "null", "Null", "NULL"]),
   (.real Numeral.RealLiteral.nanBits, [".nan", ".NaN", ".NAN"]),
   (.real FloatFormat.binary64.infinity, [".inf", ".Inf", ".INF", "+.inf", "+.Inf", "+.INF"]),
   (.real (FloatFormat.binary64.signed true FloatFormat.binary64.infinity),
     ["-.inf", "-.Inf", "-.INF"])]

/-- What a word stands for. -/
def word? (text : String) : Option Datum :=
  (words.find? fun w => w.2.contains text).map (·.1)

/-- The digits of an integer, their base being marked as usual; a zero in front marks base eight. -/
def naturalOf? (digits : List Char) : Option Nat :=
  let inBase (base : Nat) (ds : List Char) : Option Nat :=
    let values := ds.filterMap Numeral.digitValue?
    if values.length = ds.length ∧ values.all (· < base) then some (Numeral.ofDigits base values)
    else none
  match digits with
  | [] => none
  | '0' :: m :: d :: ds =>
    let mark := Numeral.lowered m
    if mark = 'b' then inBase 2 (d :: ds)
    else if mark = 'o' then inBase 8 (d :: ds)
    else if mark = 'x' then inBase 16 (d :: ds)
    else inBase 8 (m :: d :: ds)
  | '0' :: ds => inBase 8 ds
  | ds => inBase 10 ds

/-- The integer of 64 bits that a text stands for; without a sign it may take all of them. -/
def integer? (text : List Char) : Option Int :=
  match text with
  | '-' :: ds => (naturalOf? ds).bind fun n => if n ≤ Nat.pow 2 63 then some (-n) else none
  | '+' :: ds => (naturalOf? ds).bind fun n => if n < Nat.pow 2 63 then some n else none
  | ds => (naturalOf? ds).bind fun n => if n < Nat.pow 2 64 then some n else none

/-- Whether a text has the form of a decimal number: digits, a point among or before them, and an
    exponent. -/
def isDecimal (text : List Char) : Bool :=
  let body := Numeral.withoutSign text
  let whole := body.takeWhile Char.isDigit
  let rest := body.drop whole.length
  let (point, fraction, rest) := match rest with
    | '.' :: cs => (true, cs.takeWhile Char.isDigit, cs.dropWhile Char.isDigit)
    | cs => (false, [], cs)
  let exponentFits := match rest with
    | [] => true
    | c :: cs =>
      let digits := Numeral.withoutSign cs
      Numeral.lowered c == 'e' && !digits.isEmpty && digits.all Char.isDigit
  (!whole.isEmpty || (point && !fraction.isEmpty)) && exponentFits

/-- The double-precision number that a text stands for. -/
def real? (text : List Char) : Option Nat :=
  (Numeral.readReal? text).bind (·.toBits? .binary64)

/-- The kind of a plain text, and what it stands for. -/
def classify (timestamps : Bool) (text : String) : ScalarKind × Datum :=
  match text.toList with
  | [] => (.null, .null)
  | c :: cs =>
    match word? text with
    | some .null => (.null, .null)
    | some (.bool b) => (.bool, .bool b)
    | some d => (.real, d)
    | none =>
      if c = '.' then
        match real? (c :: cs) with
        | some bits => (.real, .real bits)
        | none => (.text, .text text)
      else if c.isDigit || c == '+' || c == '-' then
        if timestamps && Instant.isTimestamp text then (.timestamp, .text text)
        else
          let digits := (c :: cs).filter (· != '_')
          match integer? digits with
          | some i => (.integer, .integer i)
          | none =>
            match if isDecimal digits then real? digits else none with
            | some bits => (.real, .real bits)
            | none => (.text, .text text)
      else (.text, .text text)

/-! ## Tags -/

/-- A tag of the common set. -/
def commonTag (name : String) : String :=
  "tag:yaml.org,2002:" ++ name

/-- The kind that a tag asks for. -/
def kindOfTag? (tag : String) : Option ScalarKind :=
  if tag = commonTag "null" then some .null
  else if tag = commonTag "bool" then some .bool
  else if tag = commonTag "int" then some .integer
  else if tag = commonTag "float" then some .real
  else if tag = commonTag "timestamp" then some .timestamp
  else none

/-- The value of a digit of base 64. -/
def base64Digit? (c : Char) : Option Nat :=
  if 'A' ≤ c ∧ c ≤ 'Z' then some (c.toNat - 65)
  else if 'a' ≤ c ∧ c ≤ 'z' then some (c.toNat - 71)
  else if '0' ≤ c ∧ c ≤ '9' then some (c.toNat + 4)
  else if c = '+' then some 62
  else if c = '/' then some 63
  else none

/-- The bytes that groups of four digits of base 64 stand for; the last group may be filled up with
    equals signs. -/
def base64? : List Char → Option Bytes
  | [] => some []
  | [a, b, '=', '='] => do
    let n := (← base64Digit? a) * 64 + (← base64Digit? b)
    return [UInt8.ofNat (n / 16)]
  | [a, b, c, '='] => do
    let n := ((← base64Digit? a) * 64 + (← base64Digit? b)) * 64 + (← base64Digit? c)
    return [UInt8.ofNat (n / 1024), UInt8.ofNat (n / 4)]
  | a :: b :: c :: d :: rest => do
    let n := (((← base64Digit? a) * 64 + (← base64Digit? b)) * 64 + (← base64Digit? c)) * 64
      + (← base64Digit? d)
    return BigEndian.encode 3 n ++ (← base64? rest)
  | _ => none

/-- What a scalar stands for. -/
def scalar? (tag : String) (implicit : Bool) (text : String) : Option Datum :=
  if tag = "" then
    some (if implicit then (classify true text).2 else .text text)
  else if tag = commonTag "binary" then
    ((base64? (text.toList.filter (!isBreak ·))).bind Utf8.decode?).map .text
  else
    match kindOfTag? tag with
    | none => some (.text text)
    | some want =>
      match classify (want == .timestamp) text with
      | (.integer, .integer i) =>
        if want = .integer then some (.integer i)
        else if want = .real ∧ i < Nat.pow 2 63 then some (.real (FloatFormat.binary64.ofInt i))
        else none
      | (kind, d) => if kind = want then some d else none

/-! ## Documents -/

/-- Whether a node is the key that merges mappings. -/
def Node.isMerge : Node → Bool
  | .scalar tag implicit text => text == "<<" && (implicit || tag == commonTag "merge")
  | _ => false

/-- Whether a value can be a key. -/
def Datum.isKey : Datum → Bool
  | .list _ => false
  | .map _ => false
  | _ => true

mutual

/-- What a node stands for. -/
def Node.datum? : Node → Option Datum
  | .scalar tag implicit text => scalar? tag implicit text
  | .sequence items => (datums? items).map .list
  | .mapping children => (entries? children).map .map

/-- What nodes stand for. -/
def datums? : List Node → Option (List Datum)
  | [] => some []
  | n :: rest =>
    match n.datum?, datums? rest with
    | some d, some ds => some (d :: ds)
    | _, _ => none

/-- The entries of a mapping in the order in which they count, from its keys and values in turn. -/
def entries? : List Node → Option (List (Datum × Datum))
  | [] => some []
  | [_] => some []
  | k :: v :: rest =>
    match (if k.isMerge then v.merged? else
        match k.datum?, v.datum? with
        | some key, some d => if key.isKey then some [(key, d)] else none
        | _, _ => none), entries? rest with
    | some first, some others => some (first ++ others)
    | _, _ => none

/-- The entries that a node merges into a mapping. -/
def Node.merged? : Node → Option (List (Datum × Datum))
  | .mapping children => entries? children
  | .sequence items => mergedAll? items
  | .scalar .. => none

/-- The entries that several mappings merge; the first mapping counts most. -/
def mergedAll? : List Node → Option (List (Datum × Datum))
  | [] => some []
  | .mapping children :: rest =>
    match entries? children, mergedAll? rest with
    | some first, some others => some (others ++ first)
    | _, _ => none
  | _ :: _ => none

end

/-- The data of the first document of a text. A text without a document stands for nothing. -/
def parse? (text : String) : Option Datum :=
  match document? text with
  | none => none
  | some none => some .null
  | some (some n) => n.datum?

end RegisterMap.Yaml
