import RegisterMap.Proofs.Group.Listing

/-! # What an assignment leaves alone

All assignments work in the same way: the path leads to an entry of the listed values, the argument
is converted to the kind of that entry, and the result replaces the value there. Whether and how
this fails is the same for all groups of a register (`Group.assign?_cases`). So an assignment is the
update of one slot, from which the frame follows: nothing else of the list changes, nothing on the
wire outside the bytes of the entry, and no other nested group. -/

namespace RegisterMap

/-! ## Assignments -/

/-- What can be assigned to a path: a value that the library made, a number, or a text. -/
inductive Argument where
  | value (v : Value) (made : v.FromCodec)
  | int (i : Int64)
  | nat (n : UInt64)
  | double (pattern : UInt64)
  | text (content : String)

namespace Argument

/-- The call that assigns the argument. -/
def call (path : String) : Argument → Call
  | value v made => .set path v made
  | int i => .setInt path i
  | nat n => .setNat path n
  | double pattern => .setDouble path pattern
  | text content => .setText path content

/-- The value of a kind that the argument stands for. A value stands for itself, and only for its
    own kind. -/
def convert (path : String) : Argument → Kind → Except GroupError Value
  | value v _, kind => if v.kind = kind then .ok v else .error (.kindMismatch path kind v.kind)
  | int i, kind => (Value.ofInt? kind i.toInt).mapError .codec
  | nat n, kind => (Value.ofNat? kind n.toNat).mapError .codec
  | double pattern, kind => (Value.ofDouble? kind pattern.toNat).mapError .codec
  | text content, kind => (Value.parse? kind content).mapError .codec

end Argument

theorem mapError_eq_ok_iff {ε δ α : Type} {x : Except ε α} {f : ε → δ} {a : α} :
    x.mapError f = .ok a ↔ x = .ok a := by
  cases x <;> simp [Except.mapError]

theorem Argument.isOf_convert {path : String} {a : Argument} {kind : Kind} {v : Value}
    (converted : a.convert path kind = .ok v) : v.IsOf kind := by
  cases a with
  | value w made =>
    simp only [convert] at converted
    split_ifs at converted with same
    cases converted
    exact ⟨same, made.wellFormed⟩
  | int i => exact Value.isOf_ofInt (mapError_eq_ok_iff.1 converted)
  | nat n => exact Value.isOf_ofNat (mapError_eq_ok_iff.1 converted)
  | double pattern => exact Value.isOf_ofDouble pattern.toNat_lt (mapError_eq_ok_iff.1 converted)
  | text content => exact Value.isOf_parse (mapError_eq_ok_iff.1 converted)

namespace Group

/-- Assigns an argument to a path. -/
def assign? (g : Group) (path : String) : Argument → Except GroupError Group
  | .value v _ => g.set? path v
  | .int i => g.setInt? path i.toInt
  | .nat n => g.setNat? path n.toNat
  | .double pattern => g.setDouble? path pattern.toNat
  | .text content => g.setText? path content

theorem call_eq (g : Group) (path : String) (a : Argument) :
    g.call (a.call path) = (g.assign? path a).toOption.getD g := by
  cases a <;> rfl

theorem setWith?_eq (g : Group) (path : String) (make : Kind → Except CodecError Value) :
    g.setWith? path make = (g.get? path).bind fun old =>
      ((make old.kind).mapError .codec).map fun v =>
        { g with cells := g.cells.set path.toList v } := by
  unfold setWith?
  cases g.get? path with
  | error e => rfl
  | ok old => cases made : make old.kind <;> simp [Except.bind, Except.mapError, Except.map, made]

/-- The setters differ only in how they convert their arguments. -/
theorem assign?_eq (g : Group) (path : String) (a : Argument) :
    g.assign? path a = (g.get? path).bind fun old =>
      (a.convert path old.kind).map fun v => { g with cells := g.cells.set path.toList v } := by
  cases a with
  | value v made =>
    simp only [assign?, set?, Argument.convert]
    cases g.get? path with
    | error e => rfl
    | ok old =>
      simp only [Except.bind]
      split_ifs <;> rfl
  | int i => exact g.setWith?_eq path fun kind => Value.ofInt? kind i.toInt
  | nat n => exact g.setWith?_eq path fun kind => Value.ofNat? kind n.toNat
  | double pattern => exact g.setWith?_eq path fun kind => Value.ofDouble? kind pattern.toNat
  | text content => exact g.setWith?_eq path fun kind => Value.parse? kind content

section

variable {g : Group} {path : String} {a : Argument}

theorem assign?_of_absent {e : GroupError} (absent : g.get? path = .error e) :
    g.assign? path a = .error e := by
  rw [assign?_eq, absent]
  rfl

theorem assign?_of_refused {old : Value} {e : GroupError} (found : g.get? path = .ok old)
    (refused : a.convert path old.kind = .error e) : g.assign? path a = .error e := by
  rw [assign?_eq, found]
  simp only [Except.bind, refused]
  rfl

theorem assign?_of_converted {old v : Value} (found : g.get? path = .ok old)
    (converted : a.convert path old.kind = .ok v) :
    g.assign? path a = .ok { g with cells := g.cells.set path.toList v } := by
  rw [assign?_eq, found]
  simp only [Except.bind, converted]
  rfl

end

end Group

/-! ## One slot -/

/-- The position in the listed values that a path leads to, which is the same for all groups of the
    register at `i`. -/
def Device.position? (d : Device) (i : Nat) (path : String) : Option Nat :=
  (d.slot? (d.fieldsOf i) path.toList).bind fun slot =>
    (d.newGroup i).cells.slots.idxOf? slot

theorem Device.exists_slot? {d : Device} {i : Nat} {r : Register}
    (own : d.registers[i]? = some r) {path : String} {k : Nat}
    (somewhere : d.position? i path = some k) :
    ∃ slot, d.slot? r.fields path.toList = some slot := by
  rw [position?, fieldsOf_of_own own] at somewhere
  obtain ⟨slot, leads, -⟩ := Option.bind_eq_some_iff.1 somewhere
  exact ⟨slot, leads⟩

namespace Group

variable {d : Device} {r : Register} {g h : Group}

theorem IsOf.get?_of_nowhere (isOf : g.IsOf d r) {path : String}
    (nowhere : d.slot? r.fields path.toList = none) :
    g.get? path = .error (.unknownField r.name path) := by
  rw [Group.get?, isOf.fits.get?_eq, nowhere, isOf.name_eq]
  rfl

/-- The outcome of an assignment is the same on all groups of a register: it fails in one way, or
    it puts one value into one slot. -/
theorem assign?_cases (d : Device) (r : Register) (path : String) (a : Argument) :
    (∃ e, ∀ g : Group, g.IsOf d r → g.assign? path a = .error e) ∨
    ∃ slot v, d.slot? r.fields path.toList = some slot ∧ ∀ g : Group, g.IsOf d r →
      g.assign? path a = .ok { g with cells := g.cells.set path.toList v } := by
  cases leads : d.slot? r.fields path.toList with
  | none =>
    exact .inl ⟨_, fun g isOf => assign?_of_absent (isOf.get?_of_nowhere leads)⟩
  | some slot =>
    -- The kind in a slot is the same in all groups, and it decides about the conversion.
    have present : ∀ g : Group, g.IsOf d r →
        ∃ old, g.get? path = .ok old ∧ d.kindAt? r.fields slot = some old.kind := by
      intro g isOf
      obtain ⟨old, holds, found⟩ := isOf.fits.exists_at? leads
      exact ⟨old, get?_eq_ok_iff.2 found, isOf.fits.kindAt?_eq holds⟩
    cases expected : d.kindAt? r.fields slot with
    | none =>
      refine .inl ⟨.unknownField r.name path, fun g isOf => ?_⟩
      obtain ⟨old, -, kind⟩ := present g isOf
      rw [expected] at kind
      cases kind
    | some kind =>
      cases converted : a.convert path kind with
      | error e =>
        refine .inl ⟨e, fun g isOf => ?_⟩
        obtain ⟨old, found, same⟩ := present g isOf
        cases expected.symm.trans same
        exact assign?_of_refused found converted
      | ok v =>
        refine .inr ⟨slot, v, rfl, fun g isOf => ?_⟩
        obtain ⟨old, found, same⟩ := present g isOf
        cases expected.symm.trans same
        exact assign?_of_converted found converted

namespace IsOf

/-- A path that leads to a slot leads to the entry of this slot, in every group. -/
theorem exists_entry {i : Nat} (isOf : g.IsOf d r) (consistent : d.Consistent)
    (own : d.registers[i]? = some r) {path : String} {slot : Slot}
    (leads : d.slot? r.fields path.toList = some slot) :
    ∃ k name old, d.position? i path = some k ∧ g.cells.listing[k]? = some (slot, name, old) ∧
      g.get? path = .ok old := by
  obtain ⟨old, holds, found⟩ := isOf.fits.exists_at? leads
  obtain ⟨name, listed⟩ := Cells.exists_mem_listing holds
  obtain ⟨k, entry⟩ := List.mem_iff_getElem?.1 listed
  refine ⟨k, name, old, ?_, entry, get?_eq_ok_iff.2 found⟩
  -- The first position of the slot in the list is its only one.
  obtain ⟨n, position⟩ := Option.isSome_iff_exists.1
    (List.isSome_idxOf?.2 (Cells.mem_slots_of_at? holds))
  obtain ⟨inside, atPosition, -⟩ := List.idxOf?_eq_some_iff.1 position
  have same : n = k := Cells.index_unique (List.getElem?_eq_some_iff.2 ⟨inside, atPosition⟩)
    (Cells.getElem?_slots entry)
  rw [Device.position?, Device.fieldsOf_of_own own, leads, Option.bind_some,
    (consistent.isOf_newGroup own).fits.slots_eq isOf.fits, position, same]

theorem slot?_eq_none {i : Nat} (isOf : g.IsOf d r) (consistent : d.Consistent)
    (own : d.registers[i]? = some r) {path : String} (nowhere : d.position? i path = none) :
    d.slot? r.fields path.toList = none := by
  cases leads : d.slot? r.fields path.toList with
  | none => rfl
  | some slot =>
    obtain ⟨k, _, _, somewhere, -⟩ := isOf.exists_entry consistent own leads
    rw [nowhere] at somewhere
    cases somewhere

end IsOf

/-! ## Bytes on the wire -/

/-- The number of bytes in front of an entry on the wire. -/
def offset (g : Group) (k : Nat) : Nat :=
  ((g.values.take k).map fun e => e.2.kind.size).sum

/-- `h` is `g` with the value `v` in place of the one listed at `k`, which has the same kind. What it
    writes is what `g` writes, except for the bytes of this entry. -/
structure Replaces (g h : Group) (k : Nat) (v : Value) : Prop where
  values : ∃ name old, g.values[k]? = some (name, old) ∧ old.kind = v.kind ∧
    h.values = g.values.set k (name, v)
  count : ∀ side buffer, (h.serialize side buffer).count = (g.serialize side buffer).count
  failure : ∀ side buffer, (h.serialize side buffer).failure = (g.serialize side buffer).failure
  outside : ∀ side buffer n, n < g.offset k ∨ g.offset k + v.kind.size ≤ n →
    (h.serialize side buffer).result[n]? = (g.serialize side buffer).result[n]?
  inside : ∀ side buffer, (g.serialize side buffer).failure = none →
    ((h.serialize side buffer).result.drop (g.offset k)).take v.kind.size = v.bytes

theorem getElem?_append_of_outside {front first second back : Bytes}
    (length : first.length = second.length) {n : Nat}
    (outside : n < front.length ∨ front.length + first.length ≤ n) :
    (front ++ (first ++ back))[n]? = (front ++ (second ++ back))[n]? := by
  rcases outside with before | behind
  · rw [List.getElem?_append_left before, List.getElem?_append_left before]
  · rw [List.getElem?_append_right (by omega), List.getElem?_append_right (by omega),
      List.getElem?_append_right (by omega), List.getElem?_append_right (by omega), length]

/-- The bytes of the values around one of them. -/
theorem bytes_eq {k : Nat} {name : String} {v : Value} (entry : g.values[k]? = some (name, v)) :
    ∃ front back, front.length = g.offset k ∧ g.cells.bytes = front ++ (v.bytes ++ back) ∧
      ∀ (h : Group) (w : Value), h.values = g.values.set k (name, w) →
        h.cells.bytes = front ++ (w.bytes ++ back) := by
  obtain ⟨within, here⟩ := List.getElem?_eq_some_iff.1 entry
  refine ⟨(g.values.take k).flatMap fun e => e.2.bytes,
    (g.values.drop (k + 1)).flatMap fun e => e.2.bytes, ?_, ?_, ?_⟩
  · simp [offset, List.length_flatMap]
  · have parts : g.values = g.values.take k ++ (name, v) :: g.values.drop (k + 1) := by
      rw [← here, List.cons_getElem_drop_succ, List.take_append_drop]
    have bytes : g.cells.bytes = g.values.flatMap fun e => e.2.bytes := rfl
    rw [bytes]
    nth_rewrite 1 [parts]
    rw [List.flatMap_append, List.flatMap_cons]
  · intro h w values
    have bytes : h.cells.bytes = h.values.flatMap fun e => e.2.bytes := rfl
    rw [bytes, values, List.set_eq_take_append_cons_drop, if_pos within, List.flatMap_append,
      List.flatMap_cons]

namespace IsOf

theorem replaces_set {i : Nat} (isOf : g.IsOf d r) (consistent : d.Consistent)
    (own : d.registers[i]? = some r) {path : String} {slot : Slot}
    (leads : d.slot? r.fields path.toList = some slot) {k : Nat} {name : String} {old v : Value}
    (entry : g.cells.listing[k]? = some (slot, name, old))
    (after : ({ g with cells := g.cells.set path.toList v } : Group).IsOf d r)
    (kind : v.kind = old.kind) :
    g.Replaces { g with cells := g.cells.set path.toList v } k v := by
  have listed : g.values[k]? = some (name, old) := Cells.getElem?_values entry
  have values := isOf.fits.values_set leads after.fits entry
  obtain ⟨front, back, length, bytes, bytesAfter⟩ := bytes_eq listed
  have bytesAfter := bytesAfter { g with cells := g.cells.set path.toList v } v values
  have width : v.bytes.length = old.bytes.length := by simp [kind]
  have total : (g.cells.set path.toList v).bytes.length = g.cells.bytes.length := by
    simp [bytes, bytesAfter, width]
  have outcome := isOf.serialize_eq consistent own
  have outcomeAfter := after.serialize_eq consistent own
  refine ⟨⟨name, old, listed, kind.symm, values⟩, ?_, ?_, ?_, ?_⟩
  · intro side buffer
    rw [outcome, outcomeAfter]
    split_ifs <;> simp [Transfer.written, total]
  · intro side buffer
    rw [outcome, outcomeAfter]
    split_ifs <;> rfl
  · intro side buffer n outside
    rw [outcome, outcomeAfter]
    split_ifs
    · rfl
    · simp only [Transfer.written, total]
      rw [bytes, bytesAfter, List.append_assoc, List.append_assoc, List.append_assoc,
        List.append_assoc]
      refine getElem?_append_of_outside width ?_
      rwa [length, Value.length_bytes]
    · rfl
  · intro side buffer success
    rw [outcome] at success
    rw [outcomeAfter]
    split_ifs at success ⊢
    simp only [Transfer.written]
    rw [bytesAfter, List.append_assoc, List.append_assoc, ← length, List.drop_left,
      ← Value.length_bytes, List.take_left]

/-- Assignments that lead to different entries can be made in either order. -/
theorem call_comm (isOf : g.IsOf d r) (consistent : d.Consistent) {left right : String}
    (apart : d.slot? r.fields left.toList ≠ d.slot? r.fields right.toList) (a b : Argument) :
    (g.call (a.call left)).call (b.call right) = (g.call (b.call right)).call (a.call left) := by
  have first := isOf.call (a.call left)
  have second := isOf.call (b.call right)
  obtain ⟨e, fails⟩ | ⟨place, v, leads, puts⟩ := assign?_cases d r left a
  · simp only [call_eq _ left, fails g isOf, fails _ second]
    rfl
  obtain ⟨e, fails⟩ | ⟨other, w, leadsToo, putsToo⟩ := assign?_cases d r right b
  · simp only [call_eq _ right, fails g isOf, fails _ first]
    rfl
  -- Both orders are two updates of different slots.
  have slots : place ≠ other := by
    rintro rfl
    exact apart (leads.trans leadsToo.symm)
  have left_eq : ∀ h : Group, h.IsOf d r →
      h.call (a.call left) = { h with cells := h.cells.set left.toList v } := by
    intro h isOf
    rw [call_eq, puts h isOf]
    rfl
  have right_eq : ∀ h : Group, h.IsOf d r →
      h.call (b.call right) = { h with cells := h.cells.set right.toList w } := by
    intro h isOf
    rw [call_eq, putsToo h isOf]
    rfl
  have whole := second.call (a.call left)
  have wholeToo := first.call (b.call right)
  rw [left_eq _ second, right_eq _ isOf] at whole ⊢
  rw [right_eq _ first, left_eq _ isOf] at wholeToo ⊢
  have fits := (left_eq g isOf ▸ first).fits
  have fitsToo := (right_eq g isOf ▸ second).fits
  have cells := whole.fits.eq_of_at? consistent wholeToo.fits fun slot => by
    rw [fits.at?_set leadsToo, isOf.fits.at?_set leads, fitsToo.at?_set leads,
      isOf.fits.at?_set leadsToo]
    split_ifs with here there
    · exact absurd (there.symm.trans here) slots
    · rfl
    · rfl
    · rfl
  exact congrArg (Group.mk g.header) cells

/-- Whether an assignment fails is not changed by any call before it. -/
theorem assign?_eq_error_iff (left : g.IsOf d r) (right : h.IsOf d r) {path : String}
    {a : Argument} {e : GroupError} :
    g.assign? path a = .error e ↔ h.assign? path a = .error e := by
  obtain ⟨fault, fails⟩ | ⟨slot, v, -, puts⟩ := assign?_cases d r path a
  · rw [fails g left, fails h right]
  · rw [puts g left, puts h right]
    simp

end IsOf

/-! ## Nested groups -/

/-- The nested group at a place, which is given by the positions of the fields on the way. -/
def inside? (g : Group) : (place : List Nat) → Option Group
  | [] => some g
  | k :: place => (g.cells.innerGroups[k]?).join.bind fun inner => inner.inside? place

end Group

/-- The nested groups of the fields before and after `v` was put somewhere: the same, or one of them
    had `v` put somewhere inside it. -/
inductive OneTouched (v : Value) : List (Option Group) → List (Option Group) → Prop where
  | none (groups : List (Option Group)) : OneTouched v groups groups
  | first (header : Header) (inner : Cells) (path : List Char) (rest : List (Option Group)) :
      OneTouched v (some ⟨header, inner⟩ :: rest) (some ⟨header, inner.set path v⟩ :: rest)
  | later (entry : Option Group) {before after : List (Option Group)}
      (touched : OneTouched v before after) : OneTouched v (entry :: before) (entry :: after)

namespace OneTouched

variable {v : Value} {before after : List (Option Group)}

theorem same_or_same (touched : OneTouched v before after) {k n : Nat} (apart : k ≠ n) :
    after[k]? = before[k]? ∨ after[n]? = before[n]? := by
  induction touched generalizing k n with
  | none groups => exact .inl rfl
  | first header inner path rest =>
    cases k with
    | zero =>
      cases n with
      | zero => contradiction
      | succ n => exact .inr rfl
    | succ k => exact .inl rfl
  | later entry touched ih =>
    cases k with
    | zero => exact .inl rfl
    | succ k =>
      cases n with
      | zero => exact .inr rfl
      | succ n => exact ih (by omega)

theorem same_or_inside (touched : OneTouched v before after) (k : Nat) :
    after[k]? = before[k]? ∨
      ∃ header inner path, before[k]? = some (some ⟨header, inner⟩) ∧
        after[k]? = some (some ⟨header, inner.set path v⟩) := by
  induction touched generalizing k with
  | none groups => exact .inl rfl
  | first header inner path rest =>
    cases k with
    | zero => exact .inr ⟨header, inner, path, rfl, rfl⟩
    | succ k => exact .inl rfl
  | later entry touched ih =>
    cases k with
    | zero => exact .inl rfl
    | succ k => exact ih k

end OneTouched

theorem Cells.oneTouched_set (cells : Cells) (path : List Char) (v : Value) :
    OneTouched v cells.innerGroups (cells.set path v).innerGroups := by
  induction cells with
  | nil => exact .none _
  | scalar name kind value rest ih =>
    simp only [Cells.set]
    split_ifs
    · exact .none _
    · exact .none _
    · exact .later _ ih
  | array name kind values rest ih =>
    simp only [Cells.set]
    split_ifs
    · split <;> exact .none _
    · exact .later _ ih
  | nested name header inner rest innerIh ih =>
    simp only [Cells.set]
    split_ifs
    · split
      · exact .first header inner _ _
      · exact .none _
    · exact .later _ ih

namespace Group

/-- Of two nested groups neither of which is inside the other, only one can change. -/
theorem inside?_set {left right : List Nat} (apart : ¬ left <+: right ∧ ¬ right <+: left)
    (g : Group) (path : List Char) (v : Value) :
    ({ g with cells := g.cells.set path v } : Group).inside? left = g.inside? left ∨
      ({ g with cells := g.cells.set path v } : Group).inside? right = g.inside? right := by
  induction left generalizing right g path with
  | nil => exact absurd List.nil_prefix apart.1
  | cons k left ih =>
    cases right with
    | nil => exact absurd List.nil_prefix apart.2
    | cons n right =>
      have touched := g.cells.oneTouched_set path v
      by_cases same : k = n
      · -- Both places lead into the same field, where they go on without meeting.
        subst same
        rw [List.prefix_cons_inj, List.prefix_cons_inj] at apart
        obtain kept | ⟨header, inner, rest, before, after⟩ := touched.same_or_inside k
        · exact .inl (by simp only [inside?, kept])
        · simp only [inside?, before, after, Option.join_some, Option.bind_some]
          exact ih apart ⟨header, inner⟩ rest
      · rcases touched.same_or_same same with kept | kept
        · exact .inl (by simp only [inside?, kept])
        · exact .inr (by simp only [inside?, kept])

end Group

/-! ## Whole assignments -/

/-- An assignment changes one entry of the listed values, or it fails and changes nothing. So those
    that lead to different entries can be made in either order and fail or succeed on their own, and
    of two nested groups neither of which is inside the other, one stays as it was. -/
theorem assignments_change_one_entry {d : Device} (valid : d.validate = .ok ()) {i : Nat}
    {r : Register} (own : d.registers[i]? = some r) {g : Group} (reachable : d.Reachable i g)
    (path : String) (a : Argument) :
    (∀ e, g.assign? path a = .error e → g.call (a.call path) = g) ∧
    (d.position? i path = none → g.assign? path a = .error (.unknownField r.name path)) ∧
    (∀ k, d.position? i path = some k → ∃ old, g.get? path = .ok old ∧
      g.values[k]?.map Prod.snd = some old ∧
      (∀ e, a.convert path old.kind = .error e → g.assign? path a = .error e) ∧
      ∀ v, a.convert path old.kind = .ok v → ∃ h, g.assign? path a = .ok h ∧
        g.call (a.call path) = h ∧ h.get? path = .ok v ∧ g.Replaces h k v) ∧
    (∀ other b, d.position? i path ≠ d.position? i other →
      (g.call (a.call path)).call (b.call other) = (g.call (b.call other)).call (a.call path) ∧
      ∀ e, (g.call (a.call path)).assign? other b = .error e ↔ g.assign? other b = .error e) ∧
    ∀ left right : List Nat, ¬ left <+: right ∧ ¬ right <+: left →
      (g.call (a.call path)).inside? left = g.inside? left ∨
        (g.call (a.call path)).inside? right = g.inside? right := by
  have consistent := Device.Consistent.of_validate valid
  have isOf := reachable.isOf consistent own
  refine ⟨?_, ?_, ?_, ?_, ?_⟩
  · intro e failed
    rw [Group.call_eq, failed]
    rfl
  · intro nowhere
    exact Group.assign?_of_absent
      (isOf.get?_of_nowhere (isOf.slot?_eq_none consistent own nowhere))
  · intro k somewhere
    obtain ⟨slot, leads⟩ := Device.exists_slot? own somewhere
    obtain ⟨n, name, old, position, entry, found⟩ := isOf.exists_entry consistent own leads
    cases somewhere.symm.trans position
    refine ⟨old, found, ?_, fun e => Group.assign?_of_refused found, ?_⟩
    · rw [Group.values, Cells.getElem?_values entry]
      rfl
    · intro v converted
      have fitting := Argument.isOf_convert converted
      have after := isOf.set found fitting
      have assigned := Group.assign?_of_converted found converted
      refine ⟨_, assigned, by rw [Group.call_eq, assigned]; rfl, ?_,
        isOf.replaces_set consistent own leads entry after fitting.kind⟩
      rw [Group.get?_eq_ok_iff, after.fits.get?_eq, leads, Option.bind_some,
        isOf.fits.at?_set leads, if_pos rfl]
  · intro other b apart
    refine ⟨isOf.call_comm consistent ?_ a b, ?_⟩
    · intro same
      simp only [Device.position?, Device.fieldsOf_of_own own, same] at apart
      contradiction
    · exact fun e => (isOf.call _).assign?_eq_error_iff isOf
  · intro left right apart
    obtain ⟨e, fails⟩ | ⟨slot, v, -, puts⟩ := Group.assign?_cases d r path a
    · rw [Group.call_eq, fails g isOf]
      exact .inl rfl
    · rw [Group.call_eq, puts g isOf]
      exact Group.inside?_set apart g path.toList v

/-- A device with a register that holds another one twice. -/
def twins : Device where
  name := "twins"
  registers :=
    [{ name := "status", id := 1, direction := .readWrite,
       fields := [{ name := "flags", kind := .uint8 },
                  { name := "level", kind := .int16, count := 2 }] },
     { name := "pair", id := 2, direction := .readWrite,
       fields := [{ name := "left", register := some 0 }, { name := "right", register := some 0 }] }]

theorem position?_twins : twins.position? 1 "right.level[+1]" = some 5 := by
  have level : twins.slot? (twins.fieldsOf 0) "level[+1]".toList = some (.after (.element 1)) := by
    change twins.slot? [_, _] _ = _
    rw [Device.slot?_of_ne (by decide), Device.slot?_of_scalar (by decide) rfl]
    rfl
  have rest : (Path.split "right.level[+1]".toList).2 = '.' :: "level[+1]".toList := by decide
  have leads : twins.slot? (twins.fieldsOf 1) "right.level[+1]".toList =
      some (.after (.inside (.after (.element 1)))) := by
    change twins.slot? [_, _] _ = _
    rw [Device.slot?_of_ne (by decide), Device.slot?_of_register (by decide) rfl, rest]
    simp only [level, Option.map_some]
  rw [Device.position?, leads]
  rfl

theorem assignment_to_twins :
    twins.validate = .ok () ∧
      ∃ h, ((twins.newGroup 1).run [.setNat "left.flags" 7]).assign? "right.level[+1]" (.int (-2)) =
          .ok h ∧
        ((twins.newGroup 1).run [.setNat "left.flags" 7]).Replaces h 5 ⟨.int16, 0xfffe⟩ ∧
        h.inside? [0] = ((twins.newGroup 1).run [.setNat "left.flags" 7]).inside? [0] := by
  have valid : twins.validate = .ok () := rfl
  obtain ⟨-, -, changes, -, nested⟩ :=
    assignments_change_one_entry valid (i := 1) rfl ⟨[.setNat "left.flags" 7], rfl⟩
      "right.level[+1]" (.int (-2))
  obtain ⟨old, found, -, -, replaced⟩ := changes 5 position?_twins
  cases found
  obtain ⟨h, assigned, after, -, replaces⟩ := replaced ⟨.int16, 0xfffe⟩ rfl
  refine ⟨valid, h, assigned, replaces, ?_⟩
  rw [← after]
  exact (nested [0] [1] (by decide)).resolve_right (by decide)

end RegisterMap
