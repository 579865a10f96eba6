import Mathlib.Data.List.Perm.Subperm
import Mathlib.Tactic
import RegisterMap.Proofs.Device.Consistency

/-! # Nested registers of a consistent device

The size and the zero cells of a register are computed with a bound on the depth of nesting, the
length of the table. In a consistent device the registers on a path from outer to inner ones are
pairwise distinct, so the bound is never reached. `Consistent.nesting_induction` says this once: a
property of a bound and a register that follows from the same property of all inner registers with
a bound smaller by one holds for the whole table. The bounded functions then satisfy the equations
they would have without a bound. -/

namespace RegisterMap.Device

variable {d : Device}

/-- The registers on the path outside a register of a consistent device are fewer than the device
    has registers. -/
theorem Consistent.path_length_lt (consistent : d.Consistent) {i : Nat}
    (inside : i < d.registers.length) {path : List Nat} (distinct : path.Nodup)
    (outer : ∀ p ∈ path, p < d.registers.length ∧ Relation.TransGen d.Holds p i) :
    path.length < d.registers.length := by
  have fresh : i ∉ path := fun member => consistent.acyclic i inside (outer i member).2
  have subset : i :: path ⊆ List.range d.registers.length := by
    intro p member
    rcases List.mem_cons.1 member with rfl | member
    · exact List.mem_range.2 inside
    · exact List.mem_range.2 (outer p member).1
  have bounded := (List.subperm_of_subset (List.nodup_cons.2 ⟨fresh, distinct⟩) subset).length_le
  simp only [List.length_cons, List.length_range] at bounded
  omega

theorem Consistent.own_of_holds (consistent : d.Consistent) {i j : Nat} {r : Register}
    (own : d.registers[i]? = some r) {f : Field} (within : f ∈ r.fields)
    (held : f.register = some j) : ∃ inner, d.registers[j]? = some inner := by
  obtain ⟨-, -, inner, own, -⟩ :=
    (consistent.registers r (List.mem_of_getElem? own)).registers f within j held
  exact ⟨inner, own⟩

/-- Induction from inner to outer registers, with a bound that grows by one at each level. -/
theorem Consistent.nesting_induction_of_le (consistent : d.Consistent)
    {motive : Nat → Nat → Prop}
    (step : ∀ fuel i r, d.registers[i]? = some r →
      (∀ f ∈ r.fields, ∀ j, f.register = some j → motive fuel j) → motive (fuel + 1) i)
    {bound : Nat} (enough : d.registers.length ≤ bound)
    {i : Nat} {r : Register} (own : d.registers[i]? = some r) : motive bound i := by
  -- Generalized over the path that led to the register: bound and path together cover the table.
  have along : ∀ fuel (path : List Nat) i r, d.registers[i]? = some r → path.Nodup →
      (∀ p ∈ path, p < d.registers.length ∧ Relation.TransGen d.Holds p i) →
      d.registers.length ≤ fuel + path.length → motive fuel i := by
    intro fuel
    induction fuel with
    | zero =>
      -- A path as long as the table leaves no register to stand at its end.
      intro path i r own distinct outer covered
      have inside := (List.getElem?_eq_some_iff.1 own).1
      have short := consistent.path_length_lt inside distinct outer
      omega
    | succ fuel ih =>
      intro path i r own distinct outer covered
      have inside := (List.getElem?_eq_some_iff.1 own).1
      refine step fuel i r own fun f within j held => ?_
      have holds : d.Holds i j := (holds_iff_of_own own).2 ⟨f, within, held⟩
      obtain ⟨inner, ownInner⟩ := consistent.own_of_holds own within held
      have fresh : i ∉ path := fun member => consistent.acyclic i inside (outer i member).2
      refine ih (i :: path) j inner ownInner (List.nodup_cons.2 ⟨fresh, distinct⟩) ?_ ?_
      · intro p member
        rcases List.mem_cons.1 member with rfl | member
        · exact ⟨inside, .single holds⟩
        · exact ⟨(outer p member).1, .tail (outer p member).2 holds⟩
      · simp only [List.length_cons]
        omega
  exact along bound [] i r own List.nodup_nil (by simp) enough

/-- The length of the table is a bound. -/
theorem Consistent.nesting_induction (consistent : d.Consistent) {motive : Nat → Nat → Prop}
    (step : ∀ fuel i r, d.registers[i]? = some r →
      (∀ f ∈ r.fields, ∀ j, f.register = some j → motive fuel j) → motive (fuel + 1) i)
    {i : Nat} {r : Register} (own : d.registers[i]? = some r) : motive d.table.length i :=
  consistent.nesting_induction_of_le step (by simp [table]) own

theorem sizeWithin_succ_of_own {i : Nat} {r : Register} (own : d.registers[i]? = some r)
    (fuel : Nat) :
    d.sizeWithin (fuel + 1) i = (r.fields.map fun f =>
      match f.register with
      | some j => d.sizeWithin fuel j
      | none => if 0 < f.count then f.count.toNat * f.kind.size else f.kind.size).sum := by
  rw [← fieldsOf_of_own own]
  rfl

theorem Consistent.sizeWithin_succ (consistent : d.Consistent) {i : Nat} {r : Register}
    (own : d.registers[i]? = some r) :
    d.sizeWithin (d.table.length + 1) i = d.sizeWithin d.table.length i := by
  refine consistent.nesting_induction ?_ own (motive := fun fuel i =>
    d.sizeWithin (fuel + 1) i = d.sizeWithin fuel i)
  intro fuel i r own inner
  rw [sizeWithin_succ_of_own own, sizeWithin_succ_of_own own]
  congr 1
  apply List.map_congr_left
  intro f within
  cases held : f.register with
  | none => rfl
  | some j => exact inner f within j held

/-- The size of a register is the sum of the sizes of its fields. -/
theorem Consistent.registerSize_eq (consistent : d.Consistent) {i : Nat} {r : Register}
    (own : d.registers[i]? = some r) :
    d.registerSize i = (r.fields.map d.fieldSize).sum := by
  rw [registerSize, ← consistent.sizeWithin_succ own, sizeWithin_succ_of_own own]
  rfl

end RegisterMap.Device
