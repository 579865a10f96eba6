import Mathlib.Tactic
import RegisterMap.Bytes.Utf8

/-! # Texts are determined by their bytes -/

namespace RegisterMap.Utf8

theorem toList_loop_eq (bytes : ByteArray) (i : Nat) (acc : List UInt8) :
    ByteArray.toList.loop bytes i acc = acc.reverse ++ bytes.data.toList.drop i := by
  fun_induction ByteArray.toList.loop bytes i acc with
  | case1 i acc inside ih =>
    have bound : i < bytes.data.size := inside
    have next : bytes.data.toList.drop i = bytes.get! i :: bytes.data.toList.drop (i + 1) := by
      rw [List.drop_eq_getElem_cons (by simpa using bound)]
      congr 1
      exact (getElem!_pos bytes.data i bound).symm
    rw [ih, next, List.reverse_cons, List.append_assoc]
    rfl
  | case2 i acc outside =>
    have beyond : bytes.data.toList.length ≤ i := not_lt.1 outside
    rw [List.drop_eq_nil_of_le beyond, List.append_nil]

theorem encode_eq (s : String) : encode s = s.toByteArray.data.toList := by
  rw [encode, ByteArray.toList, toList_loop_eq]
  rfl

theorem decode?_encode (s : String) : decode? (encode s) = some s := by
  have bytes : (⟨(encode s).toArray⟩ : ByteArray) = s.toByteArray := by rw [encode_eq]
  rw [decode?, bytes, String.fromUTF8?, dif_pos s.isValidUTF8]
  rfl

theorem length_encode (s : String) : (encode s).length = s.utf8ByteSize := by
  rw [encode_eq]
  rfl

/-- A character takes four bytes at most. -/
theorem length_encode_ofList_le (cs : List Char) :
    (encode (String.ofList cs)).length ≤ 4 * cs.length := by
  induction cs with
  | nil =>
    rw [length_encode]
    exact Nat.le_refl 0
  | cons c cs ih =>
    have four := c.utf8Size_le_four
    rw [length_encode] at ih ⊢
    rw [String.ofList_cons, String.utf8ByteSize_append, String.utf8ByteSize_singleton,
      List.length_cons]
    omega

end RegisterMap.Utf8
