import RegisterMap.Group.Wire
import RegisterMap.Proofs.Device.Nesting
import RegisterMap.Proofs.Value.WellFormed

/-! # The layout of a group

`Cells.Fits d fs cells` is the representation invariant of groups: the cells hold exactly the
fields `fs`, in order, with as many values as the field has elements, each well-formed and of the
field's kind, and below a register field the cells of that very register.

Cells that fit the same fields differ only in their values, and the values are determined by the
bytes on the wire (`Fits.eq_of_bytes`). A new group fits its register (`isOf_newGroup`), and cells
that fit have the size the device computes for the register (`Fits.size_eq`). -/

namespace RegisterMap

namespace Cells

/-- The bytes of all values in wire order. -/
def bytes (cells : Cells) : Bytes :=
  cells.values.flatMap fun e => e.2.bytes

@[simp] theorem bytes_nil : nil.bytes = [] := rfl

@[simp] theorem bytes_scalar (name : String) (kind : Kind) (value : Value) (rest : Cells) :
    (scalar name kind value rest).bytes = value.bytes ++ rest.bytes := rfl

@[simp] theorem bytes_array (name : String) (kind : Kind) (values : List Value) (rest : Cells) :
    (array name kind values rest).bytes = values.flatMap Value.bytes ++ rest.bytes := by
  have elements : values.zipIdx.flatMap (fun e => e.1.bytes) = values.flatMap Value.bytes := by
    rw [← List.flatMap_map, List.zipIdx_map_fst]
  simp [bytes, Cells.values, List.flatMap_map, elements]

@[simp] theorem bytes_nested (name : String) (header : Header) (inner rest : Cells) :
    (nested name header inner rest).bytes = inner.bytes ++ rest.bytes := by
  simp [bytes, Cells.values, List.flatMap_map]

/-- The cells hold the fields in order. -/
inductive Fits (d : Device) : List Field → Cells → Prop where
  | nil : Fits d [] .nil
  | scalar {f : Field} {fs : List Field} {value : Value} {rest : Cells}
      (held : f.register = none) (single : f.count = 0) (isOf : value.IsOf f.kind)
      (fits : Fits d fs rest) : Fits d (f :: fs) (.scalar f.name f.kind value rest)
  | array {f : Field} {fs : List Field} {values : List Value} {rest : Cells}
      (held : f.register = none) (several : 0 < f.count) (length : values.length = f.count.toNat)
      (isOf : ∀ v ∈ values, v.IsOf f.kind) (fits : Fits d fs rest) :
      Fits d (f :: fs) (.array f.name f.kind values rest)
  | nested {f : Field} {fs : List Field} {j : Nat} {r : Register} {inner rest : Cells}
      (held : f.register = some j) (own : d.registers[j]? = some r)
      (inside : Fits d r.fields inner) (fits : Fits d fs rest) :
      Fits d (f :: fs) (.nested f.name r.header inner rest)

end Cells

/-! ## Lengths -/

theorem length_flatMap_bytes {kind : Kind} {values : List Value}
    (kinds : ∀ v ∈ values, v.kind = kind) :
    (values.flatMap Value.bytes).length = values.length * kind.size := by
  induction values with
  | nil => simp
  | cons v values ih =>
    obtain ⟨first, rest⟩ := List.forall_mem_cons.1 kinds
    simp only [List.flatMap_cons, List.length_append, Value.length_bytes, List.length_cons,
      ih rest, first]
    ring

namespace Cells.Fits

variable {d : Device} {fs : List Field} {cells other : Cells}

theorem length_bytes (fits : Fits d fs cells) : cells.bytes.length = cells.size := by
  induction fits with
  | nil => rfl
  | scalar _ _ isOf _ ih => simp [Cells.size, ih, isOf.kind]
  | array _ _ _ isOf _ ih =>
    simp [Cells.size, ih, length_flatMap_bytes fun v member => (isOf v member).kind]
  | nested _ _ _ _ innerLength ih => simp [Cells.size, innerLength, ih]

theorem wellFormed_of_mem (fits : Fits d fs cells) {e : String × Value}
    (member : e ∈ cells.values) : e.2.WellFormed := by
  induction fits generalizing e with
  | nil => cases member
  | scalar _ _ isOf _ ih =>
    rcases List.mem_cons.1 member with rfl | member
    · exact isOf.wellFormed
    · exact ih member
  | array _ _ _ isOf _ ih =>
    rcases List.mem_append.1 member with member | member
    · obtain ⟨⟨v, k⟩, element, rfl⟩ := List.mem_map.1 member
      exact (isOf v (List.fst_mem_of_mem_zipIdx element)).wellFormed
    · exact ih member
  | nested _ _ _ _ innerIh ih =>
    rcases List.mem_append.1 member with member | member
    · obtain ⟨inner, element, rfl⟩ := List.mem_map.1 member
      have inside : inner.2.WellFormed := innerIh element
      exact inside
    · exact ih member

/-- Cells that fit a register of a consistent device have its size. -/
theorem size_eq (fits : Fits d fs cells) (consistent : d.Consistent) :
    cells.size = (fs.map d.fieldSize).sum := by
  induction fits with
  | nil => rfl
  | scalar held single _ _ ih => simp [Cells.size, Device.fieldSize, ih, held, single]
  | array held several length _ _ ih =>
    simp [Cells.size, Device.fieldSize, ih, held, several, length]
  | nested held own _ _ innerSize ih =>
    simp [Cells.size, Device.fieldSize, ih, held, innerSize, consistent.registerSize_eq own]

theorem same_length (left : Fits d fs cells) (consistent : d.Consistent)
    (right : Fits d fs other) : cells.bytes.length = other.bytes.length := by
  rw [left.length_bytes, right.length_bytes, left.size_eq consistent, right.size_eq consistent]

/-! ## Bytes determine the cells -/

theorem eq_of_flatMap_bytes {kind : Kind} {vs ws : List Value} (length : vs.length = ws.length)
    (left : ∀ v ∈ vs, v.IsOf kind) (right : ∀ w ∈ ws, w.IsOf kind)
    (same : vs.flatMap Value.bytes = ws.flatMap Value.bytes) : vs = ws := by
  induction vs generalizing ws with
  | nil =>
    cases ws with
    | nil => rfl
    | cons w ws => cases length
  | cons v vs ih =>
    cases ws with
    | nil => cases length
    | cons w ws =>
      obtain ⟨firstLeft, restLeft⟩ := List.forall_mem_cons.1 left
      obtain ⟨firstRight, restRight⟩ := List.forall_mem_cons.1 right
      rw [List.flatMap_cons, List.flatMap_cons] at same
      have widths : v.bytes.length = w.bytes.length := by simp [firstLeft.kind, firstRight.kind]
      obtain ⟨first, rest⟩ := List.append_inj same widths
      rw [firstLeft.eq_of_bytes firstRight first,
        ih (by simpa using length) restLeft restRight rest]

/-- Cells that fit the same fields and have the same bytes are the same. -/
theorem eq_of_bytes (consistent : d.Consistent) (left : Fits d fs cells) (right : Fits d fs other)
    (same : cells.bytes = other.bytes) : cells = other := by
  induction left generalizing other with
  | nil => cases right; rfl
  | scalar held single isOf _ ih =>
    cases right with
    | scalar _ _ isOfRight fitsRight =>
      simp only [bytes_scalar] at same
      obtain ⟨first, rest⟩ := List.append_inj same (by simp [isOf.kind, isOfRight.kind])
      rw [isOf.eq_of_bytes isOfRight first, ih fitsRight rest]
    | array _ several => omega
    | nested heldRight => simp [held] at heldRight
  | array held several length isOf _ ih =>
    cases right with
    | scalar _ single => omega
    | array _ _ lengthRight isOfRight fitsRight =>
      have lengths := length.trans lengthRight.symm
      have widths := length_flatMap_bytes fun v member => (isOf v member).kind
      have widthsRight := length_flatMap_bytes fun v member => (isOfRight v member).kind
      simp only [bytes_array] at same
      obtain ⟨first, rest⟩ := List.append_inj same (by rw [widths, widthsRight, lengths])
      rw [eq_of_flatMap_bytes lengths isOf isOfRight first, ih fitsRight rest]
    | nested heldRight => simp [held] at heldRight
  | nested held own inside _ innerEq ih =>
    cases right with
    | scalar heldRight => simp [held] at heldRight
    | array heldRight => simp [held] at heldRight
    | nested heldRight ownRight insideRight fitsRight =>
      rw [held] at heldRight
      cases heldRight
      rw [own] at ownRight
      cases ownRight
      -- Both inner registers are the same one, so their parts of the bytes have the same length.
      simp only [bytes_nested] at same
      obtain ⟨first, rest⟩ := List.append_inj same (inside.same_length consistent insideRight)
      rw [innerEq insideRight first, ih fitsRight rest]

end Cells.Fits

/-! ## New groups -/

namespace Device

variable {d : Device}

theorem fits_zeros {inner : Nat → Header × Cells} {fs : List Field}
    (counts : ∀ f ∈ fs, f.register = none → 0 ≤ f.count)
    (nested : ∀ f ∈ fs, ∀ j, f.register = some j →
      ∃ r, d.registers[j]? = some r ∧ (inner j).1 = r.header ∧ Cells.Fits d r.fields (inner j).2) :
    Cells.Fits d fs (.zeros inner fs) := by
  induction fs with
  | nil => exact .nil
  | cons f fs ih =>
    obtain ⟨count, counts⟩ := List.forall_mem_cons.1 counts
    obtain ⟨first, nested⟩ := List.forall_mem_cons.1 nested
    have rest := ih counts nested
    unfold Cells.zeros
    cases held : f.register with
    | some j =>
      obtain ⟨r, own, header, fits⟩ := first j held
      simp only [header]
      exact .nested held own fits rest
    | none =>
      dsimp only
      split_ifs with single
      · exact .scalar held single (Value.isOf_zero f.kind) rest
      · -- A count below zero would leave the field without values; consistency excludes it.
        have several : 0 < f.count := lt_of_le_of_ne (count held) (Ne.symm single)
        refine .array held several List.length_replicate ?_ rest
        intro v member
        rw [List.eq_of_mem_replicate member]
        exact Value.isOf_zero f.kind

theorem Consistent.fits_zerosWithin (consistent : d.Consistent) {i : Nat} {r : Register}
    (own : d.registers[i]? = some r) :
    ∃ r, d.registers[i]? = some r ∧ (d.zerosWithin d.table.length i).1 = r.header ∧
      Cells.Fits d r.fields (d.zerosWithin d.table.length i).2 := by
  refine consistent.nesting_induction ?_ own (motive := fun fuel i =>
    ∃ r, d.registers[i]? = some r ∧ (d.zerosWithin fuel i).1 = r.header ∧
      Cells.Fits d r.fields (d.zerosWithin fuel i).2)
  intro fuel i r own inner
  rw [zerosWithin, table_of_own own]
  have rules := consistent.registers r (List.mem_of_getElem? own)
  exact ⟨r, own, rfl, fits_zeros (fun f within held => (rules.scalars f within held).count) inner⟩

end Device

/-- A group of the register `r` of a device: it knows the register's header, and its cells hold
    the register's fields. -/
structure Group.IsOf (d : Device) (r : Register) (g : Group) : Prop where
  header : g.header = r.header
  fits : Cells.Fits d r.fields g.cells

theorem Group.IsOf.name_eq {d : Device} {r : Register} {g : Group} (isOf : g.IsOf d r) :
    g.header.name = r.name := by
  rw [isOf.header]
  rfl

theorem Group.IsOf.id_eq {d : Device} {r : Register} {g : Group} (isOf : g.IsOf d r) :
    g.header.id = r.id := by
  rw [isOf.header]
  rfl

theorem Device.Consistent.isOf_newGroup {d : Device} (consistent : d.Consistent) {i : Nat}
    {r : Register} (own : d.registers[i]? = some r) : (d.newGroup i).IsOf d r := by
  obtain ⟨s, ownAlso, header, fits⟩ := consistent.fits_zerosWithin own
  rw [own] at ownAlso
  cases ownAlso
  exact ⟨header, fits⟩

theorem Group.IsOf.size_eq {d : Device} {i : Nat} {r : Register} {g : Group} (isOf : g.IsOf d r)
    (consistent : d.Consistent) (own : d.registers[i]? = some r) :
    g.size = d.registerSize i := by
  rw [Group.size, isOf.fits.size_eq consistent, consistent.registerSize_eq own]

theorem Group.IsOf.length_bytes {d : Device} {i : Nat} {r : Register} {g : Group}
    (isOf : g.IsOf d r) (consistent : d.Consistent) (own : d.registers[i]? = some r) :
    g.cells.bytes.length = d.registerSize i :=
  isOf.fits.length_bytes.trans (isOf.size_eq consistent own)

end RegisterMap
