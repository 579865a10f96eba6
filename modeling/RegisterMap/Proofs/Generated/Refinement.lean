import RegisterMap.Proofs.Generated.Naming
import RegisterMap.Proofs.Group.WireFormat

/-! # Generated methods do what groups do

A generated method is a list of steps with the sizes and types of the register written into it,
while a group walks its cells. On the struct of a group both have the same outcome
(`Accepted.refines`). The steps of a method run at a running offset over a struct of which the front
part is done; `putSteps_eq` and `getSteps_eq` generalize over that part, and methods of nested types
enter as a hypothesis about `call`, which the induction over nesting supplies. -/

namespace RegisterMap

open Generated

namespace Generated

/-- What a method leaves behind that writes as `t` does. -/
def CallResult.ofWrite (r : Record) (t : Transfer GroupError Bytes) : CallResult :=
  ⟨t.count, t.result, r, t.failure⟩

/-- What a method leaves behind that reads as `t` does. -/
def CallResult.ofRead (buffer : Bytes) (t : Transfer GroupError Group) : CallResult :=
  ⟨t.count, buffer, t.result.cells.record, t.failure⟩

/-- The step of a method for a field. -/
def stepOf (d : Device) (f : Field) : Step :=
  ⟨memberName f.name, shapeOf d f⟩

/-! ## Steps -/

section

variable {d : Device} {call : String → Record → Bytes → CallResult} {front : Record}

/-- The name of the first field is new, and the other names are new behind it. -/
theorem names_split {f : Field} {fs : List Field} {front : Record}
    (distinct : (front.names ++ (f :: fs).map fun f => memberName f.name).Nodup) (next : Record)
    (single : next.names = [memberName f.name]) :
    memberName f.name ∉ front.names ∧
      ((front.append next).names ++ fs.map fun f => memberName f.name).Nodup := by
  constructor
  · intro known
    exact (List.nodup_append.1 distinct).2.2 _ known _ (by simp) rfl
  · simpa [Record.names_append, single] using distinct

theorem put_scalar {f : Field} {rest : Record} (held : f.register = none) (single : f.count = 0)
    (scalar : f.kind.isScalar = true) {v : Value} (isOf : v.IsOf f.kind)
    (new : memberName f.name ∉ front.names) {buffer : Bytes}
    (enough : f.kind.size ≤ buffer.length) :
    (stepOf d f).put call (front.append (.word (memberName f.name) f.kind v.number rest)) buffer =
      .written v.bytes buffer := by
  have one : ((coding f.kind).put buffer v.number).mapError GroupError.codec =
      .written v.bytes buffer := by
    rw [IntType.put_number scalar isOf enough]
    rfl
  rcases shapeOf_scalar (d := d) held single with shape | shape <;>
    simp only [stepOf, shape, Step.put, Step.put.one, Record.word?_append new, one]

theorem put_array {f : Field} {rest : Record} (held : f.register = none) (several : 0 < f.count)
    (scalar : f.kind.isScalar = true) {vs : List Value} (isOf : ∀ v ∈ vs, v.IsOf f.kind)
    (new : memberName f.name ∉ front.names) {buffer : Bytes}
    (enough : (vs.flatMap Value.bytes).length ≤ buffer.length) :
    (stepOf d f).put call
        (front.append (.words (memberName f.name) f.kind (vs.map Value.number) rest)) buffer =
      .written (vs.flatMap Value.bytes) buffer := by
  rcases shapeOf_array (d := d) held several with shape | shape
  · simp only [stepOf, shape, Step.put, Record.words?_append new,
      IntType.putSlice_numbers scalar isOf enough]
    rfl
  · simp only [stepOf, shape, Step.put, Record.words?_append new,
      IntType.putEach_numbers scalar isOf enough]
    rfl

theorem put_nested {f : Field} {j : Nat} {r : Register} {rest inner : Record}
    (held : f.register = some j) (own : d.registers[j]? = some r)
    (new : memberName f.name ∉ front.names) {bytes buffer : Bytes}
    (called : call (typeName r.name) inner buffer = .ofWrite inner (.written bytes buffer)) :
    (stepOf d f).put call
        (front.append (.nested (memberName f.name) (typeName r.name) inner rest)) buffer =
      .written bytes buffer := by
  simp only [stepOf, shapeOf_nested held own, Step.put, Record.inner?_append new, called]
  rfl

/-- Steps over the rest of a struct write the bytes of the rest. -/
theorem putSteps_eq {fs : List Field} {cells : Cells} (fits : Cells.Fits d fs cells)
    (scalars : ∀ f ∈ fs, f.register = none → f.kind.isScalar = true)
    (nested : ∀ f ∈ fs, ∀ j r inner buffer, f.register = some j → d.registers[j]? = some r →
      Cells.Fits d r.fields inner → inner.bytes.length ≤ buffer.length →
        call (typeName r.name) inner.record buffer =
          .ofWrite inner.record (.written inner.bytes buffer))
    (distinct : (front.names ++ fs.map fun f => memberName f.name).Nodup) {buffer : Bytes}
    (enough : cells.bytes.length ≤ buffer.length) :
    putSteps call (front.append cells.record) (fs.map (stepOf d)) buffer =
      .written cells.bytes buffer := by
  induction fits generalizing front buffer with
  | nil => simp [putSteps, Transfer.written]
  | @scalar f fs v rest held single isOf _ ih =>
    obtain ⟨scalar, scalars⟩ := List.forall_mem_cons.1 scalars
    obtain ⟨new, distinct⟩ :=
      names_split distinct (.word (memberName f.name) f.kind v.number .nil) rfl
    simp only [Cells.bytes_scalar, List.length_append, v.length_bytes, isOf.kind] at enough
    rw [Cells.bytes_scalar, List.map_cons, putSteps, Cells.record,
      put_scalar held single (scalar held) isOf new (by omega)]
    apply Transfer.written_andThen
    -- The first member goes over to the part that is done.
    rw [Record.append_word]
    apply ih scalars (fun g within => nested g (List.mem_cons_of_mem _ within)) distinct
    rw [List.length_drop, v.length_bytes, isOf.kind]
    omega
  | @array f fs vs rest held several _ isOf _ ih =>
    obtain ⟨scalar, scalars⟩ := List.forall_mem_cons.1 scalars
    obtain ⟨new, distinct⟩ :=
      names_split distinct (.words (memberName f.name) f.kind (vs.map Value.number) .nil) rfl
    simp only [Cells.bytes_array, List.length_append] at enough
    rw [Cells.bytes_array, List.map_cons, putSteps, Cells.record,
      put_array held several (scalar held) isOf new (by omega)]
    apply Transfer.written_andThen
    rw [Record.append_words]
    apply ih scalars (fun g within => nested g (List.mem_cons_of_mem _ within)) distinct
    rw [List.length_drop]
    omega
  | @nested f fs j r inner rest held own inside _ _ ih =>
    obtain ⟨-, scalars⟩ := List.forall_mem_cons.1 scalars
    obtain ⟨new, distinct⟩ := names_split distinct
      (.nested (memberName f.name) (typeName r.name) inner.record .nil) rfl
    simp only [Cells.bytes_nested, List.length_append] at enough
    have called := nested f (by simp) j r inner buffer held own inside (by omega)
    rw [Cells.bytes_nested, List.map_cons, putSteps, Cells.record, r.header_name,
      put_nested held own new called]
    apply Transfer.written_andThen
    rw [Record.append_nested]
    apply ih scalars (fun g within => nested g (List.mem_cons_of_mem _ within)) distinct
    rw [List.length_drop]
    omega

theorem get_scalar {f : Field} {rest : Record} (held : f.register = none) (single : f.count = 0)
    (scalar : f.kind.isScalar = true) {v : Value} (isOf : v.IsOf f.kind)
    (new : memberName f.name ∉ front.names) {buffer : Bytes} (start : v.bytes <+: buffer)
    (old : Int) :
    (stepOf d f).get call (front.append (.word (memberName f.name) f.kind old rest)) buffer =
      ⟨v.bytes.length, front.append (.word (memberName f.name) f.kind v.number rest), none⟩ := by
  have width : v.bytes.length = f.kind.size := by rw [v.length_bytes, isOf.kind]
  rcases shapeOf_scalar (d := d) held single with shape | shape <;>
    simp only [stepOf, shape, Step.get, Step.get.one, Record.word?_append new,
      IntType.get_number scalar isOf start, Record.setWord_append new, width, Option.map_none]

theorem get_array {f : Field} {rest : Record} (held : f.register = none) (several : 0 < f.count)
    (scalar : f.kind.isScalar = true) {vs : List Value} (isOf : ∀ v ∈ vs, v.IsOf f.kind)
    (new : memberName f.name ∉ front.names) {buffer : Bytes}
    (start : vs.flatMap Value.bytes <+: buffer) {olds : List Int}
    (length : olds.length = vs.length) :
    (stepOf d f).get call (front.append (.words (memberName f.name) f.kind olds rest)) buffer =
      ⟨(vs.flatMap Value.bytes).length,
        front.append (.words (memberName f.name) f.kind (vs.map Value.number) rest), none⟩ := by
  rcases shapeOf_array (d := d) held several with shape | shape
  · simp only [stepOf, shape, Step.get, Record.words?_append new, Record.setWords_append new,
      IntType.getSlice_numbers scalar isOf start length, Option.map_none]
  · simp only [stepOf, shape, Step.get, Record.words?_append new, Record.setWords_append new,
      IntType.getEach_numbers scalar isOf start length, Option.map_none]

theorem get_nested {f : Field} {j : Nat} {r : Register} {rest old inner : Record}
    (held : f.register = some j) (own : d.registers[j]? = some r)
    (new : memberName f.name ∉ front.names) {n : Nat} {buffer : Bytes}
    (called : call (typeName r.name) old buffer = ⟨n, buffer, inner, none⟩) :
    (stepOf d f).get call
        (front.append (.nested (memberName f.name) (typeName r.name) old rest)) buffer =
      ⟨n, front.append (.nested (memberName f.name) (typeName r.name) inner rest), none⟩ := by
  simp only [stepOf, shapeOf_nested held own, Step.get, Record.inner?_append new, called,
    Record.setInner_append new]
  rfl

theorem getSteps_cons {r next last : Record} {s : Step} {ss : List Step} {buffer : Bytes}
    {n m : Nat} (first : s.get call r buffer = ⟨n, next, none⟩)
    (rest : getSteps call next ss (buffer.drop n) = ⟨m, last, none⟩) :
    getSteps call r (s :: ss) buffer = ⟨n + m, last, none⟩ := by
  simp only [getSteps, first, rest]

/-- Behind the first of two parts a buffer goes on with the second. -/
theorem prefix_split {first second buffer : Bytes} (start : first ++ second <+: buffer) :
    first <+: buffer ∧ second <+: buffer.drop first.length := by
  have behind := start.drop first.length
  rw [List.drop_left] at behind
  exact ⟨(List.prefix_append first second).trans start, behind⟩

/-- Steps over the rest of a struct read what the buffer starts with. -/
theorem getSteps_eq {fs : List Field} {cells read : Cells} (fits : Cells.Fits d fs cells)
    (fitsRead : Cells.Fits d fs read)
    (scalars : ∀ f ∈ fs, f.register = none → f.kind.isScalar = true)
    (nested : ∀ f ∈ fs, ∀ j r inner innerRead buffer, f.register = some j →
      d.registers[j]? = some r → Cells.Fits d r.fields inner → Cells.Fits d r.fields innerRead →
      innerRead.bytes <+: buffer →
        call (typeName r.name) inner.record buffer =
          ⟨innerRead.bytes.length, buffer, innerRead.record, none⟩)
    (distinct : (front.names ++ fs.map fun f => memberName f.name).Nodup) {buffer : Bytes}
    (start : read.bytes <+: buffer) :
    getSteps call (front.append cells.record) (fs.map (stepOf d)) buffer =
      ⟨read.bytes.length, front.append read.record, none⟩ := by
  -- The struct that is overwritten has the same fields, so its cells are taken apart along.
  induction fitsRead generalizing front buffer cells with
  | nil =>
    cases fits
    rfl
  | @scalar f fs v rest held single isOf _ ih =>
    cases fits with
    | @scalar _ _ old oldRest _ _ isOfOld fits =>
      obtain ⟨scalar, scalars⟩ := List.forall_mem_cons.1 scalars
      obtain ⟨new, distinct⟩ :=
        names_split distinct (.word (memberName f.name) f.kind v.number .nil) rfl
      rw [Cells.bytes_scalar] at start ⊢
      obtain ⟨first, behind⟩ := prefix_split start
      rw [List.length_append, List.map_cons]
      refine getSteps_cons (get_scalar held single (scalar held) isOf new first _) ?_
      rw [Record.append_word, Cells.record, Record.append_word front rest.record]
      exact ih fits scalars (fun g within => nested g (List.mem_cons_of_mem _ within)) distinct
        behind
    | array _ several => omega
    | nested heldToo => simp [held] at heldToo
  | @array f fs vs rest held several length isOf _ ih =>
    cases fits with
    | scalar _ single => omega
    | @array _ _ olds oldRest _ _ lengthOld isOfOld fits =>
      obtain ⟨scalar, scalars⟩ := List.forall_mem_cons.1 scalars
      obtain ⟨new, distinct⟩ :=
        names_split distinct (.words (memberName f.name) f.kind (vs.map Value.number) .nil) rfl
      rw [Cells.bytes_array] at start ⊢
      obtain ⟨first, behind⟩ := prefix_split start
      rw [List.length_append, List.map_cons]
      have lengths : (olds.map Value.number).length = vs.length := by
        rw [List.length_map, lengthOld, length]
      refine getSteps_cons (get_array held several (scalar held) isOf new first lengths) ?_
      rw [Record.append_words, Cells.record, Record.append_words front rest.record]
      exact ih fits scalars (fun g within => nested g (List.mem_cons_of_mem _ within)) distinct
        behind
    | nested heldToo => simp [held] at heldToo
  | @nested f fs j r inner rest held own inside _ _ ih =>
    cases fits with
    | scalar heldToo => simp [held] at heldToo
    | array heldToo => simp [held] at heldToo
    | @nested _ _ _ _ old oldRest heldToo ownToo insideOld fits =>
      rw [held] at heldToo
      cases heldToo
      rw [own] at ownToo
      cases ownToo
      obtain ⟨-, scalars⟩ := List.forall_mem_cons.1 scalars
      obtain ⟨new, distinct⟩ := names_split distinct
        (.nested (memberName f.name) (typeName r.name) inner.record .nil) rfl
      rw [Cells.bytes_nested] at start ⊢
      obtain ⟨first, behind⟩ := prefix_split start
      rw [List.length_append, List.map_cons]
      have called := nested f (by simp) j r old inner _ held own insideOld inside first
      refine getSteps_cons (get_nested held own new called) ?_
      rw [Record.append_nested, Cells.record, r.header_name,
        Record.append_nested front inner.record rest.record]
      exact ih fits scalars (fun g within => nested g (List.mem_cons_of_mem _ within)) distinct
        behind

end

/-! ## Methods -/

theorem guardError?_eq (size : Nat) (buffer : Bytes) :
    guardError? (if size = 0 then none else some size) buffer =
      if buffer.length < size then some (.bufferCapacity size buffer.length) else none := by
  split_ifs with empty short short
  · omega
  · rfl
  · rw [guardError?, capacityError?_eq, if_pos short]
  · rw [guardError?, capacityError?_eq, if_neg short]

theorem body_of_allowed {d : Device} {r : Register} {size : Nat} {op : Op}
    (allowed : r.direction.allows op = true) :
    (methodOf d r size op).body =
      .run (if size = 0 then none else some size) (r.fields.map (stepOf d)) := by
  rw [methodOf, if_pos allowed]
  rfl

theorem body_of_rejected {d : Device} {r : Register} {size : Nat} {op : Op}
    (rejected : r.direction.allows op = false) :
    (methodOf d r size op).body = .reject r.name op := by
  rw [methodOf, if_neg (by simp [rejected])]

section

variable {call : String → Record → Bytes → CallResult} {side : Side} {r : Record} {buffer : Bytes}
  {guard : Option Nat} {steps : List Step}

theorem run?_serialize :
    (Body.run guard steps).run? call (.serialize side) r buffer =
      match guardError? guard buffer with
      | some e => ⟨0, buffer, r, some (.codec e)⟩
      | none => .ofWrite r (putSteps call r steps buffer) := rfl

theorem run?_deserialize :
    (Body.run guard steps).run? call (.deserialize side) r buffer =
      match guardError? guard buffer with
      | some e => ⟨0, buffer, r, some (.codec e)⟩
      | none =>
        match (getSteps call r steps buffer).failure with
        | some e => ⟨(getSteps call r steps buffer).count, buffer, r, some e⟩
        | none => ⟨(getSteps call r steps buffer).count, buffer,
            (getSteps call r steps buffer).result, none⟩ := rfl

end

/-- The methods of the type of a register, run with calls nested less than `fuel` deep, do what
    groups of the register do. -/
def Refines (d : Device) (p : Package) (fuel i : Nat) : Prop :=
  ∀ r, d.registers[i]? = some r → ∀ g : Group, g.IsOf d r → ∀ side buffer,
    p.callWithin (.serialize side) fuel (typeName r.name) g.cells.record buffer =
        .ofWrite g.cells.record (g.serialize side buffer) ∧
      p.callWithin (.deserialize side) fuel (typeName r.name) g.cells.record buffer =
        .ofRead buffer (g.deserialize side buffer)

namespace Accepted

variable {d : Device} {p : Package} {fuel i : Nat} {r : Register}

theorem callWithin_succ (accepted : Accepted d p) (own : d.registers[i]? = some r) {op : Op}
    (known : op ∈ operations) (record : Record) (buffer : Bytes) :
    p.callWithin op (fuel + 1) (typeName r.name) record buffer =
      (methodOf d r (d.registerSize i) op).body.run? (p.callWithin op fuel) op record buffer := by
  rw [Package.callWithin, accepted.type?_eq own, Option.bind_some, method?_typeOf d i r known]

/-- A register inside another one takes part in its sides, so its method passes both checks. -/
theorem inner_included (accepted : Accepted d p) (own : d.registers[i]? = some r) {side : Side}
    (included : r.direction.includes side = true) {f : Field} (within : f ∈ r.fields) {j : Nat}
    {inner : Register} (held : f.register = some j) (ownInner : d.registers[j]? = some inner) :
    inner.direction.includes side = true := by
  have rules := accepted.consistent.registers r (List.mem_of_getElem? own)
  obtain ⟨-, -, other, ownToo, covered⟩ := rules.registers f within j held
  rw [ownInner] at ownToo
  cases ownToo
  exact covered side included

theorem scalars (accepted : Accepted d p) (member : r ∈ d.registers) :
    ∀ f ∈ r.fields, f.register = none → f.kind.isScalar = true := fun f within held =>
  (Kind.isScalar_iff _).2 ((accepted.consistent.registers r member).scalars f within held).kind

theorem serialize_step (accepted : Accepted d p) (own : d.registers[i]? = some r)
    (nested : ∀ f ∈ r.fields, ∀ j, f.register = some j → Refines d p fuel j) {g : Group}
    (isOf : g.IsOf d r) (side : Side) (buffer : Bytes) :
    p.callWithin (.serialize side) (fuel + 1) (typeName r.name) g.cells.record buffer =
      .ofWrite g.cells.record (g.serialize side buffer) := by
  have consistent := accepted.consistent
  have member := List.mem_of_getElem? own
  have distinct : (Record.nil.names ++ r.fields.map fun f => memberName f.name).Nodup :=
    accepted.members r member
  have allows : r.direction.allows (.serialize side) = r.direction.includes side := rfl
  rw [accepted.callWithin_succ own (by cases side <;> decide), isOf.serialize_eq consistent own]
  by_cases included : r.direction.includes side = true
  · rw [if_pos included, body_of_allowed (allows.trans included), run?_serialize, guardError?_eq]
    split_ifs with short
    · rfl
    · have enough : g.cells.bytes.length ≤ buffer.length := by
        rw [isOf.fits.length_bytes]
        exact (isOf.size_eq consistent own).trans_le (Nat.not_lt.1 short)
      have steps : putSteps (p.callWithin (.serialize side) fuel)
          (Record.nil.append g.cells.record) (r.fields.map (stepOf d)) buffer =
            .written g.cells.bytes buffer := by
        refine putSteps_eq isOf.fits (accepted.scalars member) ?_ distinct enough
        -- Past both checks, the methods of nested types write their part of the buffer.
        intro f within j inner cells rest held ownInner fits roomy
        have innerIncluded := accepted.inner_included own included within held ownInner
        have isOfInner : Group.IsOf d inner ⟨inner.header, cells⟩ := ⟨rfl, fits⟩
        have size : cells.bytes.length = d.registerSize j :=
          fits.length_bytes.trans (isOfInner.size_eq consistent ownInner)
        rw [(nested f within j held inner ownInner _ isOfInner side rest).1,
          isOfInner.serialize_eq consistent ownInner, if_pos innerIncluded, if_neg (by omega)]
      exact congrArg (CallResult.ofWrite g.cells.record) steps
  · rw [if_neg included, body_of_rejected (allows.trans (Bool.eq_false_of_not_eq_true included))]
    rfl

theorem deserialize_step (accepted : Accepted d p) (own : d.registers[i]? = some r)
    (nested : ∀ f ∈ r.fields, ∀ j, f.register = some j → Refines d p fuel j) {g : Group}
    (isOf : g.IsOf d r) (side : Side) (buffer : Bytes) :
    p.callWithin (.deserialize side) (fuel + 1) (typeName r.name) g.cells.record buffer =
      .ofRead buffer (g.deserialize side buffer) := by
  have consistent := accepted.consistent
  have member := List.mem_of_getElem? own
  have size := isOf.size_eq consistent own
  have distinct : (Record.nil.names ++ r.fields.map fun f => memberName f.name).Nodup :=
    accepted.members r member
  have allows : r.direction.allows (.deserialize side) = r.direction.includes side := rfl
  rw [accepted.callWithin_succ own (by cases side <;> decide)]
  by_cases included : r.direction.includes side = true
  · rw [body_of_allowed (allows.trans included), run?_deserialize, guardError?_eq]
    split_ifs with short
    · rw [isOf.deserialize_of_short included (size ▸ short), size]
      rfl
    · have success := isOf.deserialize_failure consistent member included
        (size.trans_le (Nat.not_lt.1 short))
      obtain ⟨-, -, read, outcome, isOfRead, bytes⟩ := isOf.exists_deserialize_eq success
      have start : read.cells.bytes <+: buffer := bytes ▸ List.take_prefix _ _
      have steps : getSteps (p.callWithin (.deserialize side) fuel)
          (Record.nil.append g.cells.record) (r.fields.map (stepOf d)) buffer =
            ⟨read.cells.bytes.length, Record.nil.append read.cells.record, none⟩ := by
        refine getSteps_eq isOf.fits isOfRead.fits (accepted.scalars member) ?_ distinct start
        -- A nested struct is read by its own method, which refines with less fuel.
        intro f within j inner cells innerRead rest held ownInner fits fitsRead front
        have innerIncluded := accepted.inner_included own included within held ownInner
        have isOfInner : Group.IsOf d inner ⟨inner.header, cells⟩ := ⟨rfl, fits⟩
        have holder : Group.IsOf d inner ⟨inner.header, innerRead⟩ := ⟨rfl, fitsRead⟩
        have length : innerRead.bytes.length = d.registerSize j :=
          fitsRead.length_bytes.trans (holder.size_eq consistent ownInner)
        rw [(nested f within j held inner ownInner _ isOfInner side rest).2,
          isOfInner.deserialize_eq consistent ownInner innerIncluded holder front, length]
        rfl
      have length : read.cells.bytes.length = g.size := by
        rw [isOfRead.fits.length_bytes, size]
        exact isOfRead.size_eq consistent own
      simp only [Record.append] at steps
      simp only [steps, outcome, length, CallResult.ofRead]
  · rw [body_of_rejected (allows.trans (Bool.eq_false_of_not_eq_true included)),
      isOf.deserialize_of_excluded included]
    rfl

theorem refines_step (accepted : Accepted d p) (own : d.registers[i]? = some r)
    (nested : ∀ f ∈ r.fields, ∀ j, f.register = some j → Refines d p fuel j) :
    Refines d p (fuel + 1) i := by
  intro s ownToo g isOf side buffer
  rw [own] at ownToo
  cases ownToo
  exact ⟨accepted.serialize_step own nested isOf side buffer,
    accepted.deserialize_step own nested isOf side buffer⟩

/-- On the struct of a group, a method has the outcome of the operation on the group. -/
theorem refines (accepted : Accepted d p) (own : d.registers[i]? = some r) :
    Refines d p p.types.length i :=
  accepted.consistent.nesting_induction_of_le
    (fun _ _ _ own nested => accepted.refines_step own nested) accepted.length_types.ge own

end Accepted

/-! ## Types of registers -/

/-- Any contents of a register can be reached: a group takes them over from their bytes. -/
theorem reachable_of_fits {d : Device} (consistent : d.Consistent) {i : Nat} {r : Register}
    (own : d.registers[i]? = some r) {cells : Cells} (fits : Cells.Fits d r.fields cells) :
    d.Reachable i ⟨r.header, cells⟩ := by
  have proper := (consistent.registers r (List.mem_of_getElem? own)).direction
  obtain ⟨side, included⟩ : ∃ side, r.direction.includes side = true := by
    simp only [List.mem_cons, List.not_mem_nil, or_false] at proper
    rcases proper with direction | direction | direction
    · exact ⟨.read, by rw [direction]; rfl⟩
    · exact ⟨.write, by rw [direction]; rfl⟩
    · exact ⟨.read, by rw [direction]; rfl⟩
  have holder : Group.IsOf d r ⟨r.header, cells⟩ := ⟨rfl, fits⟩
  have taken := (consistent.isOf_newGroup own).deserialize_eq consistent own included holder
    (List.prefix_refl _)
  exact ⟨[.deserialize side cells.bytes], (congrArg Transfer.result taken).symm⟩

/-- The type `t` of a package implements the register at `i`: its structs are those with the values
    of a group, and each method leaves behind what the operation on that group does. -/
structure TypeDef.Implements (t : TypeDef) (p : Package) (d : Device) (i : Nat) (r : Register) :
    Prop where
  id : t.id = r.id
  size : t.size = d.registerSize i
  structs : ∀ record : Record, record.Inhabits p t.members ↔
    ∃ g, d.Reachable i g ∧ g.cells.record = record
  values : ∀ g, d.Reachable i g →
    g.cells.record.values.map Prod.snd = g.values.map fun e => (e.2.kind, e.2.number)
  serialize : ∀ g, d.Reachable i g → ∀ side buffer,
    p.call t.name (.serialize side) g.cells.record buffer =
      ⟨(g.serialize side buffer).count, (g.serialize side buffer).result, g.cells.record,
        (g.serialize side buffer).failure⟩
  deserialize : ∀ g, d.Reachable i g → ∀ side buffer,
    p.call t.name (.deserialize side) g.cells.record buffer =
      ⟨(g.deserialize side buffer).count, buffer, (g.deserialize side buffer).result.cells.record,
        (g.deserialize side buffer).failure⟩

theorem Accepted.implements {d : Device} {p : Package} (accepted : Accepted d p) {i : Nat}
    {r : Register} (own : d.registers[i]? = some r) :
    (typeOf d i r).Implements p d i r := by
  have consistent := accepted.consistent
  have member := List.mem_of_getElem? own
  have types := fun j (s : Register) (ownS : d.registers[j]? = some s) => accepted.type?_eq ownS
  have refines := accepted.refines own r own
  refine ⟨rfl, rfl, ?_, ?_, ?_, ?_⟩
  · intro record
    constructor
    · intro inhabits
      obtain ⟨cells, fits, rfl⟩ :=
        inhabits.exists_fits consistent types member (List.Subset.refl _) rfl
      exact ⟨_, reachable_of_fits consistent own fits, rfl⟩
    · rintro ⟨g, reachable, rfl⟩
      exact (reachable.isOf consistent own).fits.inhabits types (fun s => accepted.scalars) member
        (List.Subset.refl _)
  · intro g reachable
    exact (reachable.isOf consistent own).fits.values_record
  · intro g reachable side buffer
    exact (refines g (reachable.isOf consistent own) side buffer).1
  · intro g reachable side buffer
    exact (refines g (reachable.isOf consistent own) side buffer).2

/-- In a package that is generated, every register has a type, which implements it. -/
theorem generate_implements_registers {d : Device} {package : String} {p : Package}
    (generated : generate d package = .ok p) {i : Nat} {r : Register}
    (own : d.registers[i]? = some r) :
    ∃ t, p.type? (typeName r.name) = some t ∧ t.Implements p d i r :=
  have accepted := Accepted.of_generate generated
  ⟨_, accepted.type?_eq own, accepted.implements own⟩

theorem generate_probe :
    ∃ p, generate probe "probe" = .ok p ∧
      ∃ t, p.type? "Frame" = some t ∧
        p.call t.name (.serialize .write) ((probe.newGroup 1).run probeCalls).cells.record
            (List.replicate 9 0xaa) =
          ⟨7, [0x12, 0x34, 0, 0, 0, 0xff, 0xfe, 0xaa, 0xaa],
            ((probe.newGroup 1).run probeCalls).cells.record, none⟩ := by
  have accepts : (generate probe "probe").toOption.isSome = true := by decide +kernel
  obtain ⟨p, generated⟩ := exists_ok_of_isSome accepts
  obtain ⟨t, found, implements⟩ := generate_implements_registers generated (i := 1) rfl
  exact ⟨p, generated, t, found, implements.serialize _ ⟨probeCalls, rfl⟩ .write _⟩

end Generated

end RegisterMap
