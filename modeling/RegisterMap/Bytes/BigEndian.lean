/-! # Big-endian words

A word of `width` bytes is written most significant byte first. Both directions are plain
arithmetic on natural numbers: `encode` takes base-256 digits by division, `decode` folds them
back, so that facts about them are facts about `/` and `%`. -/

namespace RegisterMap

/-- A byte string: a payload, a buffer or the content of a file. -/
abbrev Bytes := List UInt8

namespace BigEndian

/-- The `width` low-order bytes of `n`, most significant byte first. -/
def encode : (width : Nat) → (n : Nat) → Bytes
  | 0, _ => []
  | width + 1, n => UInt8.ofNat (n / Nat.pow 256 width) :: encode width n

/-- The number whose base-256 digits are `bytes`, most significant byte first. -/
def decode (bytes : Bytes) : Nat :=
  bytes.foldl (fun n b => n * 256 + b.toNat) 0

@[simp] theorem length_encode (width n : Nat) : (encode width n).length = width := by
  induction width with
  | zero => rfl
  | succ width ih => simp [encode, ih]

end BigEndian

end RegisterMap
