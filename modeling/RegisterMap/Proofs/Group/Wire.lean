import RegisterMap.Proofs.Group.Layout

/-! # Writing and reading cells

Both walks re-check direction and capacity at every nested register, on the part of the buffer that
is left. On `Ready` cells, which is what validation makes of all groups, none of these checks
fails: with room for the whole register, `put` writes exactly the bytes of the values
(`Fits.put_eq_written`), and `get` does not fail (`Fits.get_failure`). What `get` reads is described
for every run that succeeds, ready or not (`Fits.exists_get_eq`). -/

namespace RegisterMap

/-! ## Writing -/

/-- The outcome of writing `bytes` to the front of a buffer. -/
def Transfer.written {ε : Type} (bytes buffer : Bytes) : Transfer ε Bytes :=
  ⟨bytes.length, bytes ++ buffer.drop bytes.length, none⟩

theorem Transfer.written_andThen {ε : Type} {first rest buffer : Bytes}
    {next : Bytes → Transfer ε Bytes}
    (after : next (buffer.drop first.length) = written rest (buffer.drop first.length)) :
    (written first buffer).andThen next = written (first ++ rest) buffer := by
  simp [andThen, written, after, List.drop_drop]

theorem putValues_eq_written {values : List Value} {buffer : Bytes}
    (scalars : ∀ v ∈ values, v.kind.isScalar = true)
    (enough : (values.flatMap Value.bytes).length ≤ buffer.length) :
    putValues values buffer = .written (values.flatMap Value.bytes) buffer := by
  induction values generalizing buffer with
  | nil => simp [putValues, Transfer.written]
  | cons v values ih =>
    obtain ⟨scalar, scalars⟩ := List.forall_mem_cons.1 scalars
    simp only [List.flatMap_cons, List.length_append, Value.length_bytes] at enough
    have first : (v.put buffer).mapError GroupError.codec = .written v.bytes buffer := by
      rw [Value.put_eq scalar (by omega)]
      simp [Transfer.mapError, Transfer.written]
    rw [putValues, first, List.flatMap_cons]
    apply Transfer.written_andThen
    apply ih scalars
    simp only [List.length_drop, Value.length_bytes]
    omega

namespace Cells

/-- Every value is a scalar, and nested registers take part in the side, at every depth. -/
def Ready (side : Side) : Cells → Prop
  | nil => True
  | scalar _ kind _ rest => kind.isScalar = true ∧ rest.Ready side
  | array _ kind _ rest => kind.isScalar = true ∧ rest.Ready side
  | nested _ header inner rest =>
    header.direction.includes side = true ∧ inner.Ready side ∧ rest.Ready side

/-- In a consistent device, the direction of a register is passed on to all registers inside it. -/
theorem Fits.ready {d : Device} (consistent : d.Consistent) {side : Side} {fs : List Field}
    {cells : Cells} (fits : Fits d fs cells) {r : Register} (member : r ∈ d.registers)
    (included : r.direction.includes side = true) (part : fs ⊆ r.fields) : cells.Ready side := by
  induction fits generalizing r with
  | nil => trivial
  | scalar held _ _ _ ih =>
    obtain ⟨within, part⟩ := List.cons_subset.1 part
    have rules := (consistent.registers r member).scalars _ within held
    exact ⟨(Kind.isScalar_iff _).2 rules.kind, ih member included part⟩
  | array held _ _ _ _ ih =>
    obtain ⟨within, part⟩ := List.cons_subset.1 part
    have rules := (consistent.registers r member).scalars _ within held
    exact ⟨(Kind.isScalar_iff _).2 rules.kind, ih member included part⟩
  | nested held own _ _ innerReady ih =>
    obtain ⟨within, part⟩ := List.cons_subset.1 part
    obtain ⟨-, -, inner, ownAlso, covered⟩ :=
      (consistent.registers r member).registers _ within _ held
    rw [own] at ownAlso
    cases ownAlso
    -- The inner register takes over as the outer one of its own fields.
    have innerIncluded := covered side included
    exact ⟨innerIncluded, innerReady (List.mem_of_getElem? own) innerIncluded
      (List.Subset.refl _), ih member included part⟩

theorem refusal?_eq_none {h : Header} {size : Nat} {op : Op} {buffer : Bytes}
    (allowed : h.direction.allows op = true) (enough : size ≤ buffer.length) :
    h.refusal? size op buffer = none := by
  rw [Header.refusal?, if_pos allowed, capacityError?_eq, if_neg (by omega)]
  rfl

/-- Ready cells are written completely, and nothing behind them is touched. -/
theorem Fits.put_eq_written {d : Device} {side : Side} {fs : List Field} {cells : Cells}
    (fits : Fits d fs cells) (ready : cells.Ready side) {buffer : Bytes}
    (enough : cells.size ≤ buffer.length) :
    cells.put side buffer = .written cells.bytes buffer := by
  induction fits generalizing buffer with
  | nil => simp [put, Transfer.written]
  | @scalar f fs value rest _ _ isOf _ ih =>
    obtain ⟨scalar, ready⟩ := ready
    simp only [size] at enough
    have first : putValues [value] buffer = .written ([value].flatMap Value.bytes) buffer :=
      putValues_eq_written (by simp [isOf.kind, scalar]) (by simp [isOf.kind]; omega)
    rw [put, first, bytes_scalar, List.flatMap_singleton]
    apply Transfer.written_andThen
    apply ih ready
    simp only [List.length_drop, Value.length_bytes, isOf.kind]
    omega
  | @array f fs values rest _ _ _ isOf _ ih =>
    obtain ⟨scalar, ready⟩ := ready
    simp only [size] at enough
    have length := length_flatMap_bytes fun v member => (isOf v member).kind
    rw [put, putValues_eq_written (fun v member => by rw [(isOf v member).kind, scalar]) (by omega),
      bytes_array]
    apply Transfer.written_andThen
    apply ih ready
    simp only [List.length_drop, length]
    omega
  | @nested f fs j r inner rest _ _ inside _ innerIh ih =>
    obtain ⟨included, innerReady, ready⟩ := ready
    simp only [size] at enough
    -- The check of the nested register passes, on what is left of the buffer.
    have passed : r.header.refusal? inner.size (.serialize side) buffer = none :=
      refusal?_eq_none included (by omega)
    have whole : (Transfer.written inner.bytes buffer : Transfer GroupError Bytes).asPart =
        .written inner.bytes buffer := rfl
    rw [put, passed, innerIh innerReady (by omega)]
    simp only [whole, bytes_nested]
    apply Transfer.written_andThen
    apply ih ready
    simp only [List.length_drop, inside.length_bytes]
    omega

/-! ## Reading -/

theorem take_append_take {buffer first rest : Bytes} {n m : Nat} (left : first = buffer.take n)
    (right : rest = (buffer.drop n).take m) : first ++ rest = buffer.take (n + m) := by
  rw [left, right, List.take_add]

theorem exists_getValues_eq {kind : Kind} {count : Nat} {buffer : Bytes}
    (success : (getValues kind count buffer).failure = none) :
    ∃ values, getValues kind count buffer = ⟨count * kind.size, values, none⟩ ∧
      count * kind.size ≤ buffer.length ∧ values.length = count ∧
      (∀ v ∈ values, v.IsOf kind) ∧
      values.flatMap Value.bytes = buffer.take (count * kind.size) := by
  induction count generalizing buffer with
  | zero => exact ⟨[], by simp [getValues]⟩
  | succ count ih =>
    unfold getValues at success ⊢
    split at success
    · cases success
    · next v n read =>
      obtain ⟨rfl, enough, isOf, bytes⟩ := Value.of_get? read
      obtain ⟨values, rest, inside, length, isOfRest, bytesRest⟩ := ih success
      have total : kind.size + count * kind.size = (count + 1) * kind.size := by ring
      rw [List.length_drop] at inside
      refine ⟨v :: values, ?_, by omega, by simp [length], ?_, ?_⟩
      · simp [rest, total]
      · exact List.forall_mem_cons.2 ⟨isOf, isOfRest⟩
      · rw [List.flatMap_cons, ← total]
        exact take_append_take bytes bytesRest

/-- A reading that succeeded used up the size of the cells, and left cells that hold the same fields
    and have the bytes that were read. -/
theorem Fits.exists_get_eq {d : Device} {side : Side} {fs : List Field} {cells : Cells}
    (fits : Fits d fs cells) {buffer : Bytes} (success : (cells.get side buffer).failure = none) :
    ∃ read, cells.get side buffer = ⟨cells.size, read, none⟩ ∧ cells.size ≤ buffer.length ∧
      Fits d fs read ∧ read.bytes = buffer.take cells.size := by
  induction fits generalizing buffer with
  | nil => exact ⟨.nil, by simp [get, size, Fits.nil]⟩
  | scalar held single _ _ ih =>
    unfold get at success ⊢
    split at success
    · cases success
    · next v n read =>
      obtain ⟨rfl, enough, isOf, bytes⟩ := Value.of_get? read
      obtain ⟨after, rest, inside, fits, bytesRest⟩ := ih success
      rw [List.length_drop] at inside
      refine ⟨_, by simp [rest, size], by simp only [size]; omega,
        .scalar held single isOf fits, ?_⟩
      exact take_append_take bytes bytesRest
  | array held several length _ _ ih =>
    unfold get at success ⊢
    dsimp only at success ⊢
    split at success
    · cases success
    · next first =>
      obtain ⟨values, read, enough, same, isOf, bytes⟩ := exists_getValues_eq first
      simp only [read] at success ⊢
      obtain ⟨after, rest, inside, fits, bytesRest⟩ := ih success
      rw [List.length_drop] at inside
      refine ⟨_, by simp [rest, size], by simp only [size]; omega,
        .array held several (same.trans length) isOf fits, ?_⟩
      rw [bytes_array]
      exact take_append_take bytes bytesRest
  | nested held own _ _ innerIh ih =>
    unfold get at success ⊢
    split at success
    · cases success
    · next passed =>
      dsimp only at success ⊢
      split at success
      · cases success
      · next first =>
        obtain ⟨inner, read, enough, innerFits, bytes⟩ := innerIh first
        simp only [read] at success ⊢
        obtain ⟨after, rest, inside, fits, bytesRest⟩ := ih success
        rw [List.length_drop] at inside
        refine ⟨_, by simp [rest, size], by simp only [size]; omega,
          .nested held own innerFits fits, ?_⟩
        rw [bytes_nested]
        exact take_append_take bytes bytesRest

theorem getValues_failure {kind : Kind} (scalar : kind.isScalar = true) {count : Nat}
    {buffer : Bytes} (enough : count * kind.size ≤ buffer.length) :
    (getValues kind count buffer).failure = none := by
  induction count generalizing buffer with
  | zero => rfl
  | succ count ih =>
    have total : (count + 1) * kind.size = kind.size + count * kind.size := by ring
    rw [getValues, Value.get?_eq scalar (by omega)]
    apply ih
    rw [List.length_drop]
    omega

/-- Ready cells are read without a failure from a buffer that is long enough. -/
theorem Fits.get_failure {d : Device} {side : Side} {fs : List Field} {cells : Cells}
    (fits : Fits d fs cells) (ready : cells.Ready side) {buffer : Bytes}
    (enough : cells.size ≤ buffer.length) : (cells.get side buffer).failure = none := by
  induction fits generalizing buffer with
  | nil => rfl
  | scalar _ _ _ _ ih =>
    obtain ⟨scalar, ready⟩ := ready
    simp only [size] at enough
    rw [get, Value.get?_eq scalar (by omega)]
    apply ih ready
    rw [List.length_drop]
    omega
  | @array f fs values rest _ _ _ _ _ ih =>
    obtain ⟨scalar, ready⟩ := ready
    simp only [size] at enough
    obtain ⟨read, first, -⟩ := exists_getValues_eq
      (getValues_failure scalar (show values.length * f.kind.size ≤ buffer.length by omega))
    rw [get, first]
    apply ih ready
    simp only [List.length_drop]
    omega
  | @nested f fs j r inner rest _ _ inside _ innerIh ih =>
    obtain ⟨included, innerReady, ready⟩ := ready
    simp only [size] at enough
    have passed : r.header.refusal? inner.size (.deserialize side) buffer = none :=
      refusal?_eq_none included (by omega)
    have success : (inner.get side buffer).failure = none := innerIh innerReady (by omega)
    obtain ⟨read, first, -⟩ := inside.exists_get_eq success
    rw [get, passed, first]
    apply ih ready
    simp only [List.length_drop]
    omega

end Cells

/-! ## Groups -/

namespace Group

/-- Whatever makes a reading fail, the group is as it was. -/
theorem deserialize_result_of_failure {g : Group} {side : Side} {buffer : Bytes} {e : GroupError}
    (failed : (g.deserialize side buffer).failure = some e) :
    (g.deserialize side buffer).result = g := by
  unfold deserialize at failed ⊢
  split
  · rfl
  · dsimp only
    split
    · rfl
    · simp_all

namespace IsOf

variable {d : Device} {r : Register} {g : Group}

theorem ready (isOf : g.IsOf d r) (consistent : d.Consistent) (member : r ∈ d.registers)
    {side : Side} (included : r.direction.includes side = true) : g.cells.Ready side :=
  isOf.fits.ready consistent member included (List.Subset.refl _)

/-- The outcome of serializing a group of a consistent device. -/
theorem serialize_eq (isOf : g.IsOf d r) (consistent : d.Consistent) {i : Nat}
    (own : d.registers[i]? = some r) (side : Side) (buffer : Bytes) :
    g.serialize side buffer =
      if r.direction.includes side = true then
        if buffer.length < d.registerSize i then
          ⟨0, buffer, some (.codec (.bufferCapacity (d.registerSize i) buffer.length))⟩
        else
          .written g.cells.bytes buffer
      else
        ⟨0, buffer, some (.directionMismatch r.name (.serialize side))⟩ := by
  have member := List.mem_of_getElem? own
  have size := isOf.size_eq consistent own
  have allows : r.header.direction.allows (.serialize side) = r.direction.includes side := rfl
  rw [serialize, refusal?, Header.refusal?, isOf.header, size, capacityError?_eq, allows]
  split_ifs with included short
  · rfl
  · exact isOf.fits.put_eq_written (isOf.ready consistent member included)
      (size.trans_le (Nat.not_lt.1 short))
  · rfl

theorem deserialize_of_excluded (isOf : g.IsOf d r) {side : Side} {buffer : Bytes}
    (excluded : ¬ r.direction.includes side = true) :
    g.deserialize side buffer = ⟨0, g, some (.directionMismatch r.name (.deserialize side))⟩ := by
  have refused : g.refusal? (.deserialize side) buffer =
      some (.directionMismatch r.name (.deserialize side)) := by
    rw [refusal?, isOf.header]
    exact if_neg excluded
  rw [deserialize, refused]

theorem deserialize_of_short (isOf : g.IsOf d r) {side : Side} {buffer : Bytes}
    (included : r.direction.includes side = true) (short : buffer.length < g.size) :
    g.deserialize side buffer =
      ⟨0, g, some (.codec (.bufferCapacity g.size buffer.length))⟩ := by
  have refused : g.refusal? (.deserialize side) buffer =
      some (.codec (.bufferCapacity g.size buffer.length)) := by
    rw [refusal?, isOf.header, Header.refusal?, capacityError?_eq, if_pos short]
    exact if_pos included
  rw [deserialize, refused]

/-- A reading that succeeds passed the check in front of it and gives a group of the register with
    exactly the bytes that were read. -/
theorem exists_deserialize_eq (isOf : g.IsOf d r) {side : Side} {buffer : Bytes}
    (success : (g.deserialize side buffer).failure = none) :
    r.direction.includes side = true ∧ g.size ≤ buffer.length ∧
      ∃ read : Group, g.deserialize side buffer = ⟨g.size, read, none⟩ ∧ read.IsOf d r ∧
        read.cells.bytes = buffer.take g.size := by
  unfold deserialize at success ⊢
  split at success
  · cases success
  · next passed =>
    have allowed : r.direction.includes side = true := by
      rw [refusal?, Header.refusal?, isOf.header] at passed
      split at passed
      · next allowed => exact allowed
      · cases passed
    dsimp only at success
    split at success
    · cases success
    · next read =>
      obtain ⟨cells, filled, enough, fits, bytes⟩ := isOf.fits.exists_get_eq read
      refine ⟨allowed, enough, { g with cells }, ?_, ⟨isOf.header, fits⟩, bytes⟩
      simp [filled, Group.size]

theorem deserialize_failure (isOf : g.IsOf d r) (consistent : d.Consistent)
    (member : r ∈ d.registers) {side : Side} (included : r.direction.includes side = true)
    {buffer : Bytes} (enough : g.size ≤ buffer.length) :
    (g.deserialize side buffer).failure = none := by
  have allowed : g.header.direction.allows (.deserialize side) = true := by
    rw [isOf.header]
    exact included
  have read := isOf.fits.get_failure (isOf.ready consistent member included) enough
  rw [deserialize, refusal?, Cells.refusal?_eq_none allowed enough]
  simp [read]

end IsOf

end Group

end RegisterMap
