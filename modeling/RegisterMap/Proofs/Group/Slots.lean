import RegisterMap.Proofs.Group.WireFormat

/-! # The slots of a group

Seen from the fields of its register, a group has for each field a list of values and room for a
nested group. `Group.Represents` is the representation invariant in these terms: what the lists hold
is said field by field, and at every depth. Each group that a run reaches satisfies it.

A path is resolved by the fields alone (`Device.slot?`): it leads to a slot, which is the same for
all groups of a register, or nowhere. The slot is there in every group of the register, so that
looking up a path finds a value exactly if the path leads to a slot (`Fits.resolve`), and an
assignment changes the value in one slot (`Fits.at?_set`). -/

namespace RegisterMap

/-! ## Field by field -/

namespace Cells

/-- The values of each field; a nested register has none of its own. -/
def slotLists : Cells → List (List Value)
  | nil => []
  | scalar _ _ value rest => [value] :: rest.slotLists
  | array _ _ values rest => values :: rest.slotLists
  | nested _ _ _ rest => [] :: rest.slotLists

/-- The nested group of each field, if it has one. -/
def innerGroups : Cells → List (Option Group)
  | nil => []
  | scalar _ _ _ rest => none :: rest.innerGroups
  | array _ _ _ rest => none :: rest.innerGroups
  | nested _ header inner rest => some ⟨header, inner⟩ :: rest.innerGroups

end Cells

/-- The representation invariant of a group of the register at an index. -/
inductive Group.Represents (d : Device) : Nat → Group → Prop where
  | intro {i : Nat} {r : Register} {g : Group} (own : d.registers[i]? = some r)
      (header : g.header = r.header)
      (lists : g.cells.slotLists.length = r.fields.length)
      (entries : g.cells.innerGroups.length = r.fields.length)
      (nested : ∀ (k : Nat) (f : Field) (j : Nat), r.fields[k]? = some f → f.register = some j →
        g.cells.slotLists[k]? = some [] ∧ ∃ inner, g.cells.innerGroups[k]? = some (some inner))
      (inside : ∀ (k : Nat) (f : Field) (j : Nat) (inner : Group), r.fields[k]? = some f →
        f.register = some j → g.cells.innerGroups[k]? = some (some inner) → Represents d j inner)
      (scalars : ∀ (k : Nat) (f : Field), r.fields[k]? = some f → f.register = none →
        g.cells.innerGroups[k]? = some none ∧ ∃ values, g.cells.slotLists[k]? = some values ∧
          (values.length : Int) = max f.count 1 ∧
          ∀ v ∈ values, v.kind = f.kind ∧ v.bits < 2 ^ f.kind.bits) :
      Represents d i g

namespace Cells.Fits

variable {d : Device} {fs : List Field} {cells : Cells}

theorem length_slotLists (fits : Fits d fs cells) : cells.slotLists.length = fs.length := by
  induction fits with
  | nil => rfl
  | scalar _ _ _ _ ih | array _ _ _ _ _ ih | nested _ _ _ _ _ ih => simp [slotLists, ih]

theorem length_innerGroups (fits : Fits d fs cells) : cells.innerGroups.length = fs.length := by
  induction fits with
  | nil => rfl
  | scalar _ _ _ _ ih | array _ _ _ _ _ ih | nested _ _ _ _ _ ih => simp [innerGroups, ih]

theorem nested_field (fits : Fits d fs cells) {k : Nat} {f : Field} {j : Nat}
    (field : fs[k]? = some f) (held : f.register = some j) :
    cells.slotLists[k]? = some [] ∧ ∃ inner, cells.innerGroups[k]? = some (some inner) := by
  induction fits generalizing k with
  | nil => simp at field
  | scalar heldNone _ _ _ ih | array heldNone _ _ _ _ ih =>
    cases k with
    | zero =>
      cases field
      simp [held] at heldNone
    | succ k => exact ih field
  | nested _ _ _ _ _ ih =>
    cases k with
    | zero => exact ⟨rfl, _, rfl⟩
    | succ k => exact ih field

theorem scalar_field (fits : Fits d fs cells) {k : Nat} {f : Field} (field : fs[k]? = some f)
    (held : f.register = none) :
    cells.innerGroups[k]? = some none ∧ ∃ values, cells.slotLists[k]? = some values ∧
      (values.length : Int) = max f.count 1 ∧ ∀ v ∈ values, v.IsOf f.kind := by
  induction fits generalizing k with
  | nil => simp at field
  | @scalar f' _ value _ _ single isOf _ ih =>
    cases k with
    | zero =>
      cases field
      exact ⟨rfl, [value], rfl, by simp [single], by simpa using isOf⟩
    | succ k => exact ih field
  | @array f' _ values _ _ several length isOf _ ih =>
    cases k with
    | zero =>
      cases field
      exact ⟨rfl, values, rfl, by omega, isOf⟩
    | succ k => exact ih field
  | nested heldSome _ _ _ _ ih =>
    cases k with
    | zero =>
      cases field
      simp [held] at heldSome
    | succ k => exact ih field

theorem represents_of_inside (fits : Fits d fs cells) {i : Nat} {r : Register}
    (own : d.registers[i]? = some r) (whole : r.fields = fs)
    (inside : ∀ (k : Nat) (f : Field) (j : Nat) (inner : Group), fs[k]? = some f →
      f.register = some j → cells.innerGroups[k]? = some (some inner) → inner.Represents d j) :
    Group.Represents d i ⟨r.header, cells⟩ := by
  subst whole
  refine .intro own rfl fits.length_slotLists fits.length_innerGroups
    (fun _ _ _ => fits.nested_field) inside ?_
  intro k f field held
  obtain ⟨absent, values, list, length, isOf⟩ := fits.scalar_field field held
  refine ⟨absent, values, list, length, ?_⟩
  intro v member
  have kind := (isOf v member).kind
  exact ⟨kind, kind ▸ (isOf v member).wellFormed⟩

/-- Every group inside satisfies the invariant of the register that its field holds. -/
theorem inside (fits : Fits d fs cells) (k : Nat) (f : Field) (j : Nat) (inner : Group)
    (field : fs[k]? = some f) (held : f.register = some j)
    (entry : cells.innerGroups[k]? = some (some inner)) : inner.Represents d j := by
  induction fits generalizing k f j inner with
  | nil => simp at field
  | scalar _ _ _ _ ih | array _ _ _ _ _ ih =>
    cases k with
    | zero => cases entry
    | succ k => exact ih k f j inner field held entry
  | nested heldSome own innerFits _ innerIh ih =>
    cases k with
    | zero =>
      cases field
      cases entry
      cases held.symm.trans heldSome
      -- One level further in, the hypothesis speaks about all fields of that register.
      exact innerFits.represents_of_inside own rfl innerIh
    | succ k => exact ih k f j inner field held entry

end Cells.Fits

theorem Group.IsOf.represents {d : Device} {i : Nat} {r : Register} {g : Group} (isOf : g.IsOf d r)
    (own : d.registers[i]? = some r) : g.Represents d i := by
  obtain ⟨header, cells⟩ := g
  cases isOf.header
  exact isOf.fits.represents_of_inside own rfl isOf.fits.inside

/-! ## Slots -/

/-- A place for a value: an element of the first field, a place inside the register that the first
    field holds, or a place after the first field. -/
inductive Slot where
  | element (index : Nat)
  | inside (slot : Slot)
  | after (slot : Slot)
  deriving DecidableEq, Repr

/-- The element of a field without a register that the end of a path names: an index within the
    array, or nothing at all for a single value. -/
def Field.element? (f : Field) (suffix : List Char) : Option Nat :=
  if 0 < f.count then
    (Path.index? suffix).bind fun e => if 0 ≤ e ∧ e < f.count then some e.toNat else none
  else if suffix.isEmpty then some 0
  else none

/-- The count of the field and the number of values of its array are the same bound for an
    index. -/
theorem Field.element?_eq {f : Field} (several : 0 < f.count) {values : List Value}
    (length : values.length = f.count.toNat) (suffix : List Char) :
    f.element? suffix = Path.element? values (Path.index? suffix) := by
  have bound : ((values.length : Nat) : Int) = f.count := by omega
  rw [Field.element?, if_pos several]
  cases Path.index? suffix with
  | none => rfl
  | some e => simp only [Path.element?, Option.bind_some, bound]

theorem Path.lt_of_element? {values : List Value} {index : Option Int} {k : Nat}
    (element : Path.element? values index = some k) : k < values.length := by
  cases index with
  | none => cases element
  | some e =>
    simp only [Path.element?] at element
    split_ifs at element with range
    cases element
    omega

/-- What follows the point after a field name is shorter than the path. -/
theorem Path.length_lt_of_split {path inner : List Char} {c : Char}
    (rest : (split path).2 = c :: inner) : inner.length < path.length := by
  have suffix : (split path).2 <:+ path := by
    rw [split, List.span_eq_takeWhile_dropWhile]
    exact List.dropWhile_suffix _
  have shorter := suffix.length_le
  rw [rest, List.length_cons] at shorter
  omega

namespace Device

/-- The slot that a path leads to. The first field of the name at the start of the path decides. -/
def slot? (d : Device) : List Field → List Char → Option Slot
  | [], _ => none
  | f :: fs, path =>
    if (Path.split path).1 = f.name.toList then
      match f.register with
      | none => (f.element? (Path.split path).2).map .element
      | some j =>
        match _ : (Path.split path).2 with
        | '.' :: inner => (d.slot? (d.fieldsOf j) inner).map .inside
        | _ => none
    else
      (d.slot? fs path).map .after
  termination_by fs path => (path.length, fs.length)
  decreasing_by
    · exact .left _ _ (Path.length_lt_of_split ‹_›)
    · exact .right _ (Nat.lt_succ_self _)

section

variable {d : Device} {f : Field} {fs : List Field} {path : List Char}

theorem slot?_of_ne (name : (Path.split path).1 ≠ f.name.toList) :
    d.slot? (f :: fs) path = (d.slot? fs path).map .after := by
  rw [slot?, if_neg name]

theorem slot?_of_scalar (name : (Path.split path).1 = f.name.toList) (held : f.register = none) :
    d.slot? (f :: fs) path = (f.element? (Path.split path).2).map .element := by
  rw [slot?, if_pos name]
  simp only [held]

theorem slot?_of_register (name : (Path.split path).1 = f.name.toList) {j : Nat}
    (held : f.register = some j) :
    d.slot? (f :: fs) path =
      match (Path.split path).2 with
      | '.' :: inner => (d.slot? (d.fieldsOf j) inner).map .inside
      | _ => none := by
  rw [slot?, if_pos name]
  simp only [held]
  split <;> simp_all

end

/-- The kind of value that belongs into a slot. -/
def kindAt? (d : Device) : List Field → Slot → Option Kind
  | [], _ => none
  | f :: _, .element _ => some f.kind
  | f :: _, .inside slot => f.register.bind fun j => d.kindAt? (d.fieldsOf j) slot
  | _ :: fs, .after slot => d.kindAt? fs slot

end Device

/-- The value in a slot. -/
def Cells.at? : Cells → Slot → Option Value
  | nil, _ => none
  | scalar _ _ value _, .element index => [value][index]?
  | array _ _ values _, .element index => values[index]?
  | nested _ _ inner _, .inside slot => inner.at? slot
  | scalar _ _ _ rest, .after slot => rest.at? slot
  | array _ _ _ rest, .after slot => rest.at? slot
  | nested _ _ _ rest, .after slot => rest.at? slot
  | _, _ => none

/-- A slot and the value that was looked up belong together: there is neither, or the slot holds the
    value. -/
def Cells.Resolved (cells : Cells) (slot : Option Slot) (value : Option Value) : Prop :=
  (slot = none ∧ value = none) ∨ ∃ s v, slot = some s ∧ cells.at? s = some v ∧ value = some v

theorem Cells.Resolved.step {cells part : Cells} {slot : Option Slot} {value : Option Value}
    (resolved : part.Resolved slot value) {step : Slot → Slot}
    (same : ∀ s, cells.at? (step s) = part.at? s) : cells.Resolved (slot.map step) value := by
  obtain ⟨rfl, rfl⟩ | ⟨s, v, rfl, holds, rfl⟩ := resolved
  · exact .inl ⟨rfl, rfl⟩
  · exact .inr ⟨step s, v, rfl, (same s).trans holds, rfl⟩

namespace Cells.Fits

variable {d : Device} {fs : List Field} {cells : Cells}

/-- In every group of a register, a path leads nowhere or to a slot that holds a value. -/
theorem resolve (fits : Fits d fs cells) (path : List Char) :
    cells.Resolved (d.slot? fs path) (cells.get? path) := by
  induction fits generalizing path with
  | nil => exact .inl ⟨by rw [Device.slot?], rfl⟩
  | @scalar f _ _ _ held single _ _ ih =>
    by_cases name : (Path.split path).1 = f.name.toList
    · rw [Device.slot?_of_scalar name held]
      simp only [get?, if_pos name, Field.element?, single, lt_irrefl, if_false]
      split_ifs
      · exact .inr ⟨.element 0, _, rfl, rfl, rfl⟩
      · exact .inl ⟨rfl, rfl⟩
    · rw [Device.slot?_of_ne name]
      simp only [get?, if_neg name]
      exact (ih path).step fun _ => rfl
  | @array f _ values _ held several length _ _ ih =>
    by_cases name : (Path.split path).1 = f.name.toList
    · rw [Device.slot?_of_scalar name held]
      simp only [get?, if_pos name, Field.element?_eq several length]
      cases element : Path.element? values (Path.index? (Path.split path).2) with
      | none => exact .inl ⟨rfl, rfl⟩
      | some index =>
        have value := List.getElem?_eq_getElem (Path.lt_of_element? element)
        exact .inr ⟨.element index, _, rfl, value, value⟩
    · rw [Device.slot?_of_ne name]
      simp only [get?, if_neg name]
      exact (ih path).step fun _ => rfl
  | @nested f _ _ _ _ _ held own _ _ innerIh ih =>
    by_cases name : (Path.split path).1 = f.name.toList
    · rw [Device.slot?_of_register name held, Device.fieldsOf_of_own own]
      simp only [get?, if_pos name]
      cases (Path.split path).2 with
      | nil => exact .inl ⟨rfl, rfl⟩
      | cons c suffix =>
        by_cases point : c = '.'
        · subst point
          exact (innerIh suffix).step fun _ => rfl
        · have other : ∀ rest, c :: suffix ≠ '.' :: rest := by simp [point]
          refine .inl ⟨?_, ?_⟩
          · split
            · next same => exact absurd same (other _)
            · rfl
          · split
            · next same => exact absurd same (other _)
            · rfl
    · rw [Device.slot?_of_ne name]
      simp only [get?, if_neg name]
      exact (ih path).step fun _ => rfl

/-- An assignment changes the value in the slot that the path leads to, and no other. -/
theorem at?_set (fits : Fits d fs cells) {path : List Char} {slot : Slot}
    (found : d.slot? fs path = some slot) (v : Value) (other : Slot) :
    (cells.set path v).at? other = if other = slot then some v else cells.at? other := by
  induction fits generalizing path slot other with
  | nil =>
    rw [Device.slot?] at found
    cases found
  | @scalar f _ _ _ held single _ _ ih =>
    by_cases name : (Path.split path).1 = f.name.toList
    · rw [Device.slot?_of_scalar name held] at found
      by_cases last : (Path.split path).2.isEmpty
      · obtain rfl : Slot.element 0 = slot := by simpa [Field.element?, single, last] using found
        simp only [Cells.set, if_pos name, if_pos last]
        cases other with
        | element index => cases index <;> simp [at?]
        | inside other => simp [at?]
        | after other => simp [at?]
      · simp [Field.element?, single, last] at found
    · rw [Device.slot?_of_ne name] at found
      obtain ⟨slot, later, rfl⟩ := Option.map_eq_some_iff.1 found
      simp only [Cells.set, if_neg name]
      cases other with
      | after other => simpa [at?] using ih later other
      | element index => simp [at?]
      | inside other => simp [at?]
  | @array f _ values _ held several length _ _ ih =>
    by_cases name : (Path.split path).1 = f.name.toList
    · rw [Device.slot?_of_scalar name held] at found
      obtain ⟨index, element, rfl⟩ := Option.map_eq_some_iff.1 found
      rw [Field.element?_eq several length] at element
      have within := Path.lt_of_element? element
      simp only [Cells.set, if_pos name, element]
      cases other with
      | element other =>
        by_cases here : other = index
        · simp [at?, here, within]
        · simp [at?, here, List.getElem?_set_ne (Ne.symm here)]
      | inside other => simp [at?]
      | after other => simp [at?]
    · rw [Device.slot?_of_ne name] at found
      obtain ⟨slot, later, rfl⟩ := Option.map_eq_some_iff.1 found
      simp only [Cells.set, if_neg name]
      cases other with
      | after other => simpa [at?] using ih later other
      | element index => simp [at?]
      | inside other => simp [at?]
  | @nested f _ _ _ _ _ held own _ _ innerIh ih =>
    by_cases name : (Path.split path).1 = f.name.toList
    · rw [Device.slot?_of_register name held, Device.fieldsOf_of_own own] at found
      simp only [Cells.set, if_pos name]
      generalize (Path.split path).2 = suffix at found
      split at found
      · obtain ⟨slot, within, rfl⟩ := Option.map_eq_some_iff.1 found
        cases other with
        | inside other => simpa [at?] using innerIh within other
        | element index => simp [at?]
        | after other => simp [at?]
      · cases found
    · rw [Device.slot?_of_ne name] at found
      obtain ⟨slot, later, rfl⟩ := Option.map_eq_some_iff.1 found
      simp only [Cells.set, if_neg name]
      cases other with
      | after other => simpa [at?] using ih later other
      | element index => simp [at?]
      | inside other => simp [at?]

theorem kindAt?_eq (fits : Fits d fs cells) {slot : Slot} {v : Value}
    (holds : cells.at? slot = some v) : d.kindAt? fs slot = some v.kind := by
  induction fits generalizing slot with
  | nil => cases holds
  | scalar _ _ isOf _ ih =>
    cases slot with
    | element index =>
      cases index with
      | zero =>
        cases holds
        rw [Device.kindAt?, isOf.kind]
      | succ index => cases holds
    | inside slot => cases holds
    | after slot => exact ih holds
  | array _ _ _ isOf _ ih =>
    cases slot with
    | element index => rw [Device.kindAt?, (isOf v (List.mem_of_getElem? holds)).kind]
    | inside slot => cases holds
    | after slot => exact ih holds
  | nested held own _ _ innerIh ih =>
    cases slot with
    | element index => cases holds
    | inside slot =>
      simp only [Device.kindAt?, held, Option.bind_some, Device.fieldsOf_of_own own]
      exact innerIh holds
    | after slot => exact ih holds

/-! ## Listed values -/

theorem map_fst_array (name : String) (kind : Kind) (values : List Value) (rest : Cells) :
    (Cells.array name kind values rest).values.map Prod.fst =
      (List.range' 0 values.length).map (elementPath name) ++ rest.values.map Prod.fst := by
  rw [Cells.values, List.map_append, ← List.zipIdx_map_snd, List.map_map, List.map_map]
  rfl

theorem map_fst_nested (name : String) (header : Header) (inner rest : Cells) :
    (Cells.nested name header inner rest).values.map Prod.fst =
      (inner.values.map Prod.fst).map (innerPath name) ++ rest.values.map Prod.fst := by
  rw [Cells.values, List.map_append, List.map_map, List.map_map]
  rfl

/-- The paths that are listed depend on the fields alone. -/
theorem map_fst_values (left : Fits d fs cells) {other : Cells} (right : Fits d fs other) :
    cells.values.map Prod.fst = other.values.map Prod.fst := by
  induction left generalizing other with
  | nil =>
    cases right
    rfl
  | scalar held single _ _ ih =>
    cases right with
    | scalar _ _ _ right => simp [Cells.values, ih right]
    | array _ several => omega
    | nested heldRight => simp [held] at heldRight
  | array held several length _ _ ih =>
    cases right with
    | scalar _ single => omega
    | array _ _ lengthRight _ right =>
      rw [map_fst_array, map_fst_array, length, lengthRight, ih right]
    | nested heldRight => simp [held] at heldRight
  | nested held own _ _ innerIh ih =>
    cases right with
    | scalar heldRight => simp [held] at heldRight
    | array heldRight => simp [held] at heldRight
    | nested heldRight ownRight insideRight right =>
      cases held.symm.trans heldRight
      cases own.symm.trans ownRight
      rw [map_fst_nested, map_fst_nested, innerIh insideRight, ih right]

/-- All values of a group of a consistent device are scalars. -/
theorem kind_mem_scalars (fits : Fits d fs cells) (consistent : d.Consistent) {r : Register}
    (member : r ∈ d.registers) (part : fs ⊆ r.fields) {e : String × Value}
    (listed : e ∈ cells.values) : e.2.kind ∈ Kind.scalars := by
  induction fits generalizing r e with
  | nil => cases listed
  | scalar held _ isOf _ ih =>
    obtain ⟨within, part⟩ := List.cons_subset.1 part
    rcases List.mem_cons.1 listed with rfl | listed
    · simp only [isOf.kind]
      exact ((consistent.registers r member).scalars _ within held).kind
    · exact ih member part listed
  | array held _ _ isOf _ ih =>
    obtain ⟨within, part⟩ := List.cons_subset.1 part
    rcases List.mem_append.1 listed with listed | listed
    · obtain ⟨⟨v, k⟩, element, rfl⟩ := List.mem_map.1 listed
      simp only [(isOf v (List.fst_mem_of_mem_zipIdx element)).kind]
      exact ((consistent.registers r member).scalars _ within held).kind
    · exact ih member part listed
  | nested held own _ _ innerIh ih =>
    obtain ⟨-, part⟩ := List.cons_subset.1 part
    rcases List.mem_append.1 listed with listed | listed
    · obtain ⟨inner, element, rfl⟩ := List.mem_map.1 listed
      have scalar : inner.2.kind ∈ Kind.scalars :=
        innerIh (List.mem_of_getElem? own) (List.Subset.refl _) element
      exact scalar
    · exact ih member part listed

end Cells.Fits

/-! ## Whole runs -/

/-- The representation invariant holds after every run. So a path never leads to a place that the
    group does not have, the paths that are listed stay the same, and no value that is written has a
    kind without a width. -/
theorem runs_keep_representation {d : Device} (valid : d.validate = .ok ()) {i : Nat}
    {r : Register} (own : d.registers[i]? = some r) {g : Group} (reachable : d.Reachable i g) :
    g.Represents d i ∧
    (∀ path : String,
      (d.slot? r.fields path.toList = none ∧ g.get? path = .error (.unknownField r.name path)) ∨
      ∃ slot v, d.slot? r.fields path.toList = some slot ∧ g.cells.at? slot = some v ∧
        g.get? path = .ok v) ∧
    g.values.map Prod.fst = (d.newGroup i).values.map Prod.fst ∧
    (∀ e ∈ g.values, e.2.kind ∈ Kind.scalars) ∧
    ∀ side buffer name, (g.serialize side buffer).failure ≠ some (.codec (.unknownKind name)) := by
  have consistent := Device.Consistent.of_validate valid
  have isOf := reachable.isOf consistent own
  refine ⟨isOf.represents own, ?_, ?_, ?_, ?_⟩
  · intro path
    obtain ⟨nowhere, absent⟩ | ⟨slot, v, found, holds, present⟩ := isOf.fits.resolve path.toList
    · refine .inl ⟨nowhere, ?_⟩
      simp only [Group.get?, absent, isOf.header]
      rfl
    · refine .inr ⟨slot, v, found, holds, ?_⟩
      simp only [Group.get?, present]
  · exact isOf.fits.map_fst_values (consistent.isOf_newGroup own).fits
  · intro e listed
    exact isOf.fits.kind_mem_scalars consistent (List.mem_of_getElem? own) (List.Subset.refl _)
      listed
  · intro side buffer name
    rw [isOf.serialize_eq consistent own]
    split_ifs <;> simp [Transfer.written]

theorem probe_keeps_representation :
    probe.validate = .ok () ∧
      ((probe.newGroup 1).run probeCalls).Represents probe 1 ∧
      ((probe.newGroup 1).run probeCalls).values.map Prod.fst =
        ["head", "body.flags", "body.level[0]", "body.level[1]"] := by
  have valid : probe.validate = .ok () := rfl
  obtain ⟨represents, -, paths, -⟩ :=
    runs_keep_representation valid (i := 1) rfl ⟨probeCalls, rfl⟩
  exact ⟨valid, represents, paths⟩

end RegisterMap
