import RegisterMap.Group.Path
import RegisterMap.Proofs.Group.Wire

/-! # Runs of a group

A run is a finite sequence of calls on a group, successful or not; a failing call leaves the group
as it was. Every call keeps `Group.IsOf`, so each group that a run reaches from a new one is a
group of its register (`Reachable.isOf`). -/

namespace RegisterMap

/-- A call of one of the operations of a group, with all its arguments. Numbers are machine words,
    and a value is one that the library made. -/
inductive Call where
  | set (path : String) (value : Value) (made : value.FromCodec)
  | setInt (path : String) (i : Int64)
  | setNat (path : String) (n : UInt64)
  | setDouble (path : String) (pattern : UInt64)
  | setText (path text : String)
  | serialize (side : Side) (buffer : Bytes)
  | deserialize (side : Side) (buffer : Bytes)

namespace Group

/-- The group after a call. -/
def call (g : Group) : Call → Group
  | .set path value _ => (g.set? path value).toOption.getD g
  | .setInt path i => (g.setInt? path i.toInt).toOption.getD g
  | .setNat path n => (g.setNat? path n.toNat).toOption.getD g
  | .setDouble path pattern => (g.setDouble? path pattern.toNat).toOption.getD g
  | .setText path text => (g.setText? path text).toOption.getD g
  | .serialize _ _ => g
  | .deserialize side buffer => (g.deserialize side buffer).result

/-- The group after a sequence of calls. -/
def run (g : Group) (calls : List Call) : Group :=
  calls.foldl call g

end Group

/-! ## Assignments -/

/-- Replacing a value by one of the same kind keeps the layout. -/
theorem Cells.Fits.set {d : Device} {fs : List Field} {cells : Cells} (fits : Fits d fs cells)
    {path : List Char} {old v : Value} (found : cells.get? path = some old)
    (isOf : v.IsOf old.kind) : Fits d fs (cells.set path v) := by
  -- Looking up and replacing follow the path through the same cells.
  induction fits generalizing path with
  | nil => cases found
  | scalar held single isOfOld fits ih =>
    simp only [Cells.get?] at found
    simp only [Cells.set]
    split_ifs at found ⊢ with name last
    · cases found
      exact .scalar held single (isOfOld.kind ▸ isOf) fits
    · exact .scalar held single isOfOld (ih found)
  | array held several length isOfOld fits ih =>
    simp only [Cells.get?] at found
    simp only [Cells.set]
    split_ifs at found ⊢ with name
    · -- The old value is an element of the array, so the new one has the array's kind.
      obtain ⟨i, element, value⟩ := Option.bind_eq_some_iff.1 found
      rw [element]
      have kind := (isOfOld old (List.mem_of_getElem? value)).kind
      refine .array held several (by simpa using length) ?_ fits
      intro w member
      rcases List.mem_or_eq_of_mem_set member with kept | rfl
      · exact isOfOld w kept
      · exact kind ▸ isOf
    · exact .array held several length isOfOld (ih found)
  | nested held own inside fits innerIh ih =>
    simp only [Cells.get?] at found
    simp only [Cells.set]
    split_ifs at found ⊢ with name
    · split at found
      · next innerPath => exact .nested held own (innerIh found) fits
      · cases found
    · exact .nested held own inside (ih found)

namespace Group.IsOf

variable {d : Device} {r : Register} {g : Group}

theorem set (isOf : g.IsOf d r) {path : String} {old v : Value} (found : g.get? path = .ok old)
    (fitting : v.IsOf old.kind) :
    ({ g with cells := g.cells.set path.toList v } : Group).IsOf d r := by
  refine ⟨isOf.header, isOf.fits.set ?_ fitting⟩
  unfold Group.get? at found
  split at found
  · next value => cases found; exact value
  · cases found

theorem setWith? (isOf : g.IsOf d r) (path : String) {make : Kind → Except CodecError Value}
    (makes : ∀ kind v, make kind = .ok v → v.IsOf kind) :
    ((g.setWith? path make).toOption.getD g).IsOf d r := by
  unfold Group.setWith?
  split
  · exact isOf
  · next old found =>
    split
    · exact isOf
    · next v made => exact isOf.set found (makes _ _ made)

theorem set? (isOf : g.IsOf d r) (path : String) {v : Value} (made : v.FromCodec) :
    ((g.set? path v).toOption.getD g).IsOf d r := by
  unfold Group.set?
  split
  · exact isOf
  · next old found =>
    split
    · next kind => exact isOf.set found ⟨kind, made.wellFormed⟩
    · exact isOf

theorem deserialize (isOf : g.IsOf d r) (side : Side) (buffer : Bytes) :
    (g.deserialize side buffer).result.IsOf d r := by
  -- A failed reading gives the group back, a successful one a group that was read whole.
  cases outcome : (g.deserialize side buffer).failure with
  | some e => rwa [deserialize_result_of_failure outcome]
  | none =>
    obtain ⟨-, -, read, same, isOfRead, -⟩ := isOf.exists_deserialize_eq outcome
    rwa [same]

/-- One call keeps the invariant. -/
theorem call (isOf : g.IsOf d r) (c : Call) : (g.call c).IsOf d r := by
  cases c with
  | set path value made => exact isOf.set? path made
  | setInt path i => exact isOf.setWith? path fun _ _ => Value.isOf_ofInt
  | setNat path n => exact isOf.setWith? path fun _ _ => Value.isOf_ofNat
  | setDouble path pattern =>
    exact isOf.setWith? path fun _ _ => Value.isOf_ofDouble pattern.toNat_lt
  | setText path text => exact isOf.setWith? path fun _ _ => Value.isOf_parse
  | serialize side buffer => exact isOf
  | deserialize side buffer => exact isOf.deserialize side buffer

/-- So does a whole run. -/
theorem run (isOf : g.IsOf d r) (calls : List Call) : (g.run calls).IsOf d r := by
  induction calls generalizing g with
  | nil => exact isOf
  | cons c calls ih => exact ih (isOf.call c)

end Group.IsOf

/-! ## Reachable groups -/

namespace Device

/-- Some run leads from a new group of the register at `i` to the group. -/
def Reachable (d : Device) (i : Nat) (g : Group) : Prop :=
  ∃ calls, g = (d.newGroup i).run calls

theorem Reachable.isOf {d : Device} {i : Nat} {r : Register} {g : Group}
    (reachable : d.Reachable i g) (consistent : d.Consistent)
    (own : d.registers[i]? = some r) : g.IsOf d r := by
  obtain ⟨calls, rfl⟩ := reachable
  exact (consistent.isOf_newGroup own).run calls

end Device

end RegisterMap
