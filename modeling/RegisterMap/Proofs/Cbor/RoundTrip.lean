import RegisterMap.Cbor.Item
import RegisterMap.Proofs.Bytes.BigEndian

/-! # Items that are written can be read

`Writes bytes item` says that the bytes are a complete form of the item: a reader that finds them in
front of anything, at any depth, takes exactly them. The shortest heads have this property for
arguments of 64 bits, and a map of parts that have it can be decoded. -/

namespace RegisterMap.Cbor

/-! ## Heads -/

/-- A head with its argument in `2 ^ j` bytes. -/
theorem readHead_long {major j argument : Nat} (kind : major < 8) (width : j < 4)
    (small : argument < 256 ^ 2 ^ j) (rest : Bytes) :
    readHead (UInt8.ofNat (32 * major + (24 + j)) :: BigEndian.encode (2 ^ j) argument ++ rest) =
      some (⟨major, 24 + j, argument⟩, rest) := by
  have byte : (UInt8.ofNat (32 * major + (24 + j))).toNat = 32 * major + (24 + j) := by
    rw [UInt8.toNat_ofNat', Nat.mod_eq_of_lt (by omega)]
  have major_eq : (32 * major + (24 + j)) / 32 = major := by omega
  have info_eq : (32 * major + (24 + j)) % 32 = 24 + j := by omega
  have length : (BigEndian.encode (2 ^ j) argument).length = 2 ^ j := BigEndian.length_encode _ _
  have taken : (BigEndian.encode (2 ^ j) argument ++ rest).take (2 ^ j) =
      BigEndian.encode (2 ^ j) argument := List.take_left' length
  have left : (BigEndian.encode (2 ^ j) argument ++ rest).drop (2 ^ j) = rest :=
    List.drop_left' length
  have number : BigEndian.decode (BigEndian.encode (2 ^ j) argument) = argument := by
    rw [BigEndian.decode_encode, Nat.mod_eq_of_lt small]
  simp only [List.cons_append, readHead, byte, major_eq, info_eq, Nat.add_sub_cancel_left,
    Nat.pow_eq, taken, left, length, number, if_true]
  rw [if_neg (by omega), if_pos (by omega)]

/-- Whatever form the head takes, its type and argument are read back. -/
theorem readHead_writeHead (major : Nat) {argument : Nat} (kind : major < 8)
    (small : argument < 2 ^ 64) (rest : Bytes) :
    ∃ info, readHead (writeHead major argument ++ rest) = some (⟨major, info, argument⟩, rest) := by
  unfold writeHead
  simp only [Nat.pow_eq]
  split_ifs with tiny one two four
  · refine ⟨argument, ?_⟩
    have byte : (UInt8.ofNat (32 * major + argument)).toNat = 32 * major + argument := by
      rw [UInt8.toNat_ofNat', Nat.mod_eq_of_lt (by omega)]
    have major_eq : (32 * major + argument) / 32 = major := by omega
    have info_eq : (32 * major + argument) % 32 = argument := by omega
    simp only [List.cons_append, List.nil_append, readHead, byte, major_eq, info_eq, tiny, if_true]
  · exact ⟨_, readHead_long (j := 0) kind (by omega) (by omega) rest⟩
  · exact ⟨_, readHead_long (j := 1) kind (by omega) (by omega) rest⟩
  · exact ⟨_, readHead_long (j := 2) kind (by omega) (by omega) rest⟩
  · exact ⟨_, readHead_long (j := 3) kind (by omega) (by omega) rest⟩

/-! ## Items -/

def Writes (bytes : Bytes) (item : Item) : Prop :=
  ∀ fuel depth rest, readItem (fuel + 1) depth (bytes ++ rest) = some (item, rest)

theorem readString_append (content rest : Bytes) :
    readString content.length (content ++ rest) = some (content, rest) := by
  rw [readString, if_neg (by simp), List.take_left, List.drop_left]

theorem writes_unsigned {n : Nat} (small : n < 2 ^ 64) :
    Writes (writeUnsigned n) (.unsigned n) := by
  intro fuel depth rest
  obtain ⟨info, head⟩ := readHead_writeHead 0 (by omega) small rest
  rw [readItem, writeUnsigned, head]
  rfl

theorem writes_bytes {content : Bytes} (small : content.length < 2 ^ 64) :
    Writes (writeBytes content) (.bytes content) := by
  intro fuel depth rest
  obtain ⟨info, head⟩ := readHead_writeHead 2 (by omega) small (content ++ rest)
  rw [readItem, writeBytes, List.append_assoc, head]
  dsimp only
  rw [readString_append]
  rfl

theorem writes_text {content : Bytes} (small : content.length < 2 ^ 64) :
    Writes (writeText content) (.text content) := by
  intro fuel depth rest
  obtain ⟨info, head⟩ := readHead_writeHead 3 (by omega) small (content ++ rest)
  rw [readItem, writeText, List.append_assoc, head]
  dsimp only
  rw [readString_append]
  rfl

theorem writes_null : Writes writeNull (.simple 22) := by
  intro fuel depth rest
  rfl

/-! ## Maps -/

theorem readMany_written {parts : List Bytes} {items : List Item}
    (written : List.Forall₂ Writes parts items) (fuel depth : Nat) (rest : Bytes) :
    readMany (readItem (fuel + 1) depth) items.length (parts.flatten ++ rest) =
      some (items, rest) := by
  induction written with
  | nil => rfl
  | @cons part item parts items first _ ih =>
    rw [List.length_cons, readMany, List.flatten_cons, List.append_assoc, first fuel depth]
    simp only [ih]

/-- A map of as many entries, whose keys and values stand one after the other. -/
theorem decode?_map {parts : List Bytes} {items : List Item}
    (written : List.Forall₂ Writes parts items) (count : Nat) (even : items.length = 2 * count)
    (few : count ≤ maxCount) :
    decode? (writeHead 5 count ++ parts.flatten) = some (.map (pairs items)) := by
  have small : count < 2 ^ 64 := lt_of_le_of_lt few (by decide)
  obtain ⟨info, head⟩ := readHead_writeHead 5 (by omega) small parts.flatten
  -- The head alone takes a byte, so there is fuel for the items inside.
  obtain ⟨fuel, length⟩ : ∃ fuel, (writeHead 5 count ++ parts.flatten).length = fuel + 1 := by
    apply Nat.exists_eq_succ_of_ne_zero
    intro empty
    rw [List.length_eq_zero_iff.1 empty] at head
    cases head
  have inside := readMany_written written fuel 1 []
  rw [List.append_nil, even] at inside
  have shallow : ¬ (maxDepth ≤ 0 ∨ maxCount < count) := by
    unfold maxDepth
    omega
  have item : readItem (fuel + 1 + 1) 0 (writeHead 5 count ++ parts.flatten) =
      some (.map (pairs items), []) := by
    rw [readItem, head]
    simp only [if_neg shallow, Nat.zero_add, inside, Option.map_some]
  simp only [decode?, length, item]

end RegisterMap.Cbor
