import Mathlib.Data.Nat.Digits.Defs
import RegisterMap.Bytes.BigEndian

/-! # Big-endian words and their digits

`encode` and `decode` are inverse to each other: on numbers below `256 ^ width` in one direction,
on all byte strings in the other. `decode` is the value of the base-256 digits, the last byte being
the lowest one. -/

namespace RegisterMap.BigEndian

theorem foldl_eq (bytes : Bytes) (start : Nat) :
    bytes.foldl (fun n b => n * 256 + b.toNat) start =
      start * 256 ^ bytes.length + decode bytes := by
  induction bytes generalizing start with
  | nil => simp [decode]
  | cons b bytes ih =>
    -- `decode` is the same fold from zero, so the hypothesis opens it too.
    have number : decode (b :: bytes) = (0 * 256 + b.toNat) * 256 ^ bytes.length + decode bytes :=
      ih _
    rw [List.foldl_cons, ih, number, List.length_cons, pow_succ]
    ring

@[simp] theorem decode_nil : decode [] = 0 := rfl

theorem decode_cons (b : UInt8) (bytes : Bytes) :
    decode (b :: bytes) = b.toNat * 256 ^ bytes.length + decode bytes := by
  rw [decode, List.foldl_cons, foldl_eq, Nat.zero_mul, Nat.zero_add]

theorem decode_lt (bytes : Bytes) : decode bytes < 256 ^ bytes.length := by
  induction bytes with
  | nil => simp
  | cons b bytes ih =>
    have small := b.toNat_lt
    rw [decode_cons, List.length_cons, pow_succ]
    calc b.toNat * 256 ^ bytes.length + decode bytes
        < b.toNat * 256 ^ bytes.length + 256 ^ bytes.length := by omega
      _ = (b.toNat + 1) * 256 ^ bytes.length := by ring
      _ ≤ 256 * 256 ^ bytes.length := Nat.mul_le_mul_right _ (by omega)
      _ = 256 ^ bytes.length * 256 := Nat.mul_comm _ _

theorem encode_succ (width n : Nat) :
    encode (width + 1) n = UInt8.ofNat (n / 256 ^ width) :: encode width n := rfl

theorem decode_encode (width n : Nat) : decode (encode width n) = n % 256 ^ width := by
  induction width with
  | zero => simp [encode, Nat.mod_one]
  | succ width ih =>
    have modulus : n % 256 ^ (width + 1) =
        n % 256 ^ width + 256 ^ width * (n / 256 ^ width % 256) :=
      Nat.mod_pow_succ
    rw [encode_succ, decode_cons, length_encode, ih, UInt8.toNat_ofNat', modulus, Nat.add_comm,
      Nat.mul_comm]

/-- What stands above the width does not matter. -/
theorem encode_mul_add (width high low : Nat) :
    encode width (high * 256 ^ width + low) = encode width low := by
  induction width generalizing high with
  | zero => rfl
  | succ width ih =>
    -- Seen from the next byte, what stands above is a multiple of 256, which a byte drops.
    have split : high * 256 ^ (width + 1) + low = high * 256 * 256 ^ width + low := by ring
    rw [encode_succ, encode_succ, split, ih]
    congr 1
    apply UInt8.toNat_inj.1
    rw [UInt8.toNat_ofNat', UInt8.toNat_ofNat', Nat.add_comm,
      Nat.add_mul_div_right _ _ (by positivity)]
    omega

theorem encode_decode (bytes : Bytes) : encode bytes.length (decode bytes) = bytes := by
  induction bytes with
  | nil => rfl
  | cons b bytes ih =>
    -- The tail ignores what the first byte adds above it; the head is all that it adds.
    rw [List.length_cons, encode_succ, decode_cons, encode_mul_add, ih]
    congr 1
    have head : (b.toNat * 256 ^ bytes.length + decode bytes) / 256 ^ bytes.length = b.toNat := by
      rw [Nat.add_comm, Nat.add_mul_div_right _ _ (by positivity),
        Nat.div_eq_of_lt (decode_lt bytes), Nat.zero_add]
    rw [head, UInt8.ofNat_toNat]

/-- The number of a byte string is the one its digits have, lowest digit last. -/
theorem ofDigits_reverse (bytes : Bytes) :
    Nat.ofDigits 256 (bytes.reverse.map UInt8.toNat) = decode bytes := by
  rw [Nat.ofDigits_eq_foldr, List.foldr_map, List.foldr_reverse, decode]
  congr 1
  funext n b
  simp only [Nat.cast_id]
  ring

end RegisterMap.BigEndian
