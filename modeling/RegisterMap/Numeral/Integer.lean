import RegisterMap.Numeral.Digits

/-! # Integer literals

An integer literal is decimal, or hexadecimal, octal or binary after one of `0x`, `0o` and `0b` in
either case. A leading zero alone does not change the base. With a base mark, single underscores
may stand between the digits and after the mark.

Reading goes from left to right and stops at the first problem, so a number that overflows before
a wrong character is out of range and not malformed. A reading carries a number even when it
failed: the nearest limit if the literal is out of range, and zero otherwise. -/

namespace RegisterMap.Numeral

/-- Why a number literal is refused. -/
inductive LiteralFault where
  | malformed
  | outOfRange
  /-- The requested width is not between 0 and 64. -/
  | badWidth (width : Int)
  deriving DecidableEq, Repr

namespace LiteralFault

def message : LiteralFault → String
  | malformed => "invalid syntax"
  | outOfRange => "value out of range"
  | badWidth width => "invalid bit size " ++ signedDecimal width

end LiteralFault

/-- A number and, if the literal was refused, the reason. -/
structure Reading (α : Type) where
  value : α
  fault : Option LiteralFault := none
  deriving Repr

/-- `c` in lower case, for ASCII letters. -/
def lowered (c : Char) : Char :=
  if 'A' ≤ c ∧ c ≤ 'Z' then Char.ofNat (c.toNat + 32) else c

/-! ## Separators -/

/-- What stands directly before a character of a literal, as far as separators care. -/
inductive Before where
  | start | digit | separator | other
  deriving DecidableEq

/-- Whether every underscore of `cs` follows a digit and is followed by one. -/
def separatorsBetweenDigits (hexadecimal : Bool) : Before → List Char → Bool
  | before, [] => before != .separator
  | before, c :: cs =>
    if c.isDigit || (hexadecimal && 'a' ≤ lowered c && lowered c ≤ 'f') then
      separatorsBetweenDigits hexadecimal .digit cs
    else if c == '_' then
      before == .digit && separatorsBetweenDigits hexadecimal .separator cs
    else
      before != .separator && separatorsBetweenDigits hexadecimal .other cs

/-- `cs` without one leading sign. -/
def withoutSign : List Char → List Char
  | '+' :: cs => cs
  | '-' :: cs => cs
  | cs => cs

/-- Whether the underscores of a literal are placed between digits, the base mark counting as a
    digit. -/
def separatorsPlaced (literal : List Char) : Bool :=
  match withoutSign literal with
  | '0' :: mark :: cs =>
    if lowered mark == 'b' || lowered mark == 'o' || lowered mark == 'x' then
      separatorsBetweenDigits (lowered mark == 'x') .digit cs
    else
      separatorsBetweenDigits false .start ('0' :: mark :: cs)
  | cs => separatorsBetweenDigits false .start cs

/-! ## Bases -/

/-- Whether the text, after all its leading signs, starts with a base mark. -/
def hasBaseMark (text : List Char) : Bool :=
  match text.dropWhile fun c => c == '+' || c == '-' with
  | '0' :: mark :: _ => lowered mark == 'x' || lowered mark == 'o' || lowered mark == 'b'
  | _ => false

/-- The base a literal announces, and the digits after its mark. A mark without digits is none, and
    the zero in front then announces base eight. -/
def announcedBase : List Char → Nat × List Char
  | '0' :: mark :: c :: cs =>
    if lowered mark == 'b' then (2, c :: cs)
    else if lowered mark == 'o' then (8, c :: cs)
    else if lowered mark == 'x' then (16, c :: cs)
    else (8, mark :: c :: cs)
  | '0' :: cs => (8, cs)
  | cs => (10, cs)

/-! ## Reading -/

/-- Reads digits after a number `acc` that was read before them. With `separated`, underscores are
    skipped. -/
def scan (base limit : Nat) (separated : Bool) : (acc : Nat) → List Char → Except LiteralFault Nat
  | acc, [] => .ok acc
  | acc, c :: cs =>
    if separated && c == '_' then
      scan base limit separated acc cs
    else
      match digitValue? c with
      | none => .error .malformed
      | some d =>
        if base ≤ d then .error .malformed
        else if limit < acc * base + d then .error .outOfRange
        else scan base limit separated (acc * base + d) cs

/-- The number of bits a requested width stands for: zero means 64. -/
def effectiveWidth (width : Int) : Nat :=
  if width = 0 then 64 else width.toNat

/-- Reads a literal without a sign, of at most `width` bits. With `marked`, the literal announces
    its base; otherwise it is decimal. -/
def readMagnitude (marked : Bool) (literal : List Char) (width : Int) : Reading Nat :=
  if literal.isEmpty then
    ⟨0, some .malformed⟩
  else if width < 0 ∨ 64 < width then
    ⟨0, some (.badWidth width)⟩
  else
    let limit := Nat.pow 2 (effectiveWidth width) - 1
    let (base, body) := if marked then announcedBase literal else (10, literal)
    match scan base limit marked 0 body with
    | .error .outOfRange => ⟨limit, some .outOfRange⟩
    | .error fault => ⟨0, some fault⟩
    | .ok n =>
      if body.contains '_' && !separatorsPlaced literal then ⟨0, some .malformed⟩ else ⟨n, none⟩

/-- Reads an unsigned number of at most `width` bits. -/
def readUnsigned (text : List Char) (width : Int) : Reading Nat :=
  readMagnitude (hasBaseMark text) text width

/-- Reads a number of `width` bits in two's complement, with an optional sign. The magnitude is
    read first, as an unsigned number of the same width. -/
def readSigned (text : List Char) (width : Int) : Reading Int :=
  if text.isEmpty then
    ⟨0, some .malformed⟩
  else
    let negative := text.head? == some '-'
    let magnitude := readMagnitude (hasBaseMark text) (withoutSign text) width
    match magnitude.fault with
    | some .malformed => ⟨0, some .malformed⟩
    | some (.badWidth w) => ⟨0, some (.badWidth w)⟩
    | _ =>
      let half := Nat.pow 2 (effectiveWidth width - 1)
      if negative then
        if half < magnitude.value then ⟨-half, some .outOfRange⟩ else ⟨-magnitude.value, none⟩
      else
        if half ≤ magnitude.value then ⟨half - 1, some .outOfRange⟩ else ⟨magnitude.value, none⟩

/-- Reads a decimal number with an optional sign, as an array index is written. -/
def readIndex (text : List Char) : Option Int :=
  match withoutSign text with
  | [] => none
  | literal =>
    let magnitude := readMagnitude false literal 64
    match magnitude.fault with
    | some _ => none
    | none =>
      if text.head? == some '-' then
        if Nat.pow 2 63 < magnitude.value then none else some (-magnitude.value)
      else
        if Nat.pow 2 63 ≤ magnitude.value then none else some magnitude.value

end RegisterMap.Numeral
