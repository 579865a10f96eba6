import RegisterMap.Device.Validation
import RegisterMap.Proofs.Device.Containment

/-! # Validation accepts exactly the consistent devices

`Device.Consistent` says what a consistent device is, without an order of checks and without a
search. Each check of `Device.validate` gets one lemma that reads its success as the rule it
decides; the lemmas are equivalences, so nothing consistent is rejected either. -/

namespace RegisterMap

/-! ## Success of checks -/

theorem bind_eq_ok_iff {ε α β : Type} {x : Except ε α} {f : α → Except ε β} {b : β} :
    (x >>= f) = .ok b ↔ ∃ a, x = .ok a ∧ f a = .ok b := by
  cases x with
  | error e => simp [bind, Except.bind]
  | ok a => simp [bind, Except.bind]

theorem andThen_eq_ok_iff {ε β : Type} {x : Except ε Unit} {y : Except ε β} {b : β} :
    (x >>= fun _ => y) = .ok b ↔ x = .ok () ∧ y = .ok b := by
  rw [bind_eq_ok_iff]
  exact ⟨fun ⟨_, first, second⟩ => ⟨first, second⟩, fun ⟨first, second⟩ => ⟨(), first, second⟩⟩

theorem exists_ok_of_isSome {ε α : Type} {x : Except ε α} (some : x.toOption.isSome = true) :
    ∃ a, x = .ok a := by
  cases x with
  | error e => cases some
  | ok a => exact ⟨a, rfl⟩

theorem exists_ok_of_map {ε α β : Type} {x : Except ε α} {f : α → β} {b : β}
    (shown : x.toOption.map f = some b) : ∃ a, x = .ok a ∧ f a = b := by
  cases x with
  | error e => cases shown
  | ok a => exact ⟨a, rfl, Option.some.inj shown⟩

theorem toOption_eq_some_iff {ε α : Type} {x : Except ε α} {a : α} :
    x.toOption = some a ↔ x = .ok a := by
  cases x <;> simp [Except.toOption]

theorem exists_ok_of_bind {ε α β : Type} {x : Except ε α} {f : α → Option β} {b : β}
    (shown : x.toOption.bind f = some b) : ∃ a, x = .ok a ∧ f a = some b := by
  cases x with
  | error e => cases shown
  | ok a => exact ⟨a, rfl, shown⟩

/-- The names are pairwise distinct, and none of them was seen before. -/
def Fresh {α : Type} (seen names : List α) : Prop :=
  names.Nodup ∧ ∀ name ∈ names, name ∉ seen

theorem fresh_nil {α : Type} (seen : List α) : Fresh seen [] := by
  simp [Fresh]

theorem fresh_of_nil_iff {α : Type} (names : List α) : Fresh [] names ↔ names.Nodup := by
  simp [Fresh]

/-- One step of a check that goes through names and remembers those it has seen. -/
theorem fresh_cons_iff {α : Type} (seen names : List α) (name : α) :
    Fresh seen (name :: names) ↔ name ∉ seen ∧ Fresh (name :: seen) names := by
  simp only [Fresh, List.nodup_cons, List.forall_mem_cons]
  constructor
  · rintro ⟨⟨distinct, rest⟩, new, fresh⟩
    refine ⟨new, rest, ?_⟩
    intro other member known
    rcases List.mem_cons.1 known with rfl | known
    · exact distinct member
    · exact fresh other member known
  · rintro ⟨new, rest, fresh⟩
    refine ⟨⟨fun member => fresh name member (by simp), rest⟩, new, ?_⟩
    intro other member known
    exact fresh other member (List.mem_cons_of_mem _ known)

theorem fresh_reverse_iff {α : Type} (seen names : List α) :
    (Fresh [] seen ∧ Fresh (seen.reverse ++ []) names) ↔ (seen ++ names).Nodup := by
  simp only [Fresh, List.append_nil, List.mem_reverse, List.nodup_append]
  constructor
  · rintro ⟨⟨distinctSeen, -⟩, distinct, apart⟩
    refine ⟨distinctSeen, distinct, ?_⟩
    rintro name old _ new rfl
    exact apart name new old
  · rintro ⟨distinctSeen, distinct, apart⟩
    exact ⟨⟨distinctSeen, by simp⟩, distinct, fun name new old => apart name old name new rfl⟩

theorem Kind.isScalar_iff (k : Kind) : k.isScalar = true ↔ k ∈ Kind.scalars := by
  cases k <;> simp [Kind.isScalar, Kind.size, Kind.scalars]

namespace Direction

theorem isProper_iff (d : Direction) :
    d.isProper = true ↔ d ∈ [readOnly, writeOnly, readWrite] := by
  obtain ⟨read, write, surplus⟩ := d
  cases read <;> cases write <;> simp [isProper, readOnly, writeOnly, readWrite]

/-- For a direction without surplus, covering it means to include each of its sides. -/
theorem covers_iff {d other : Direction} (proper : other.isProper = true) :
    d.covers other = true ↔ ∀ side, other.includes side = true → d.includes side = true := by
  have plain : other.surplus = 0 := by
    simp only [isProper, Bool.and_eq_true, beq_iff_eq] at proper
    exact proper.1
  simp only [covers, plain, Nat.and_zero, beq_self_eq_true, Bool.and_true, Bool.and_eq_true,
    Bool.or_eq_true, Bool.not_eq_true']
  constructor
  · rintro ⟨read, write⟩ side included
    cases side with
    | read => exact read.resolve_right (by simpa [includes] using included)
    | write => exact write.resolve_right (by simpa [includes] using included)
  · intro included
    have read := included .read
    have write := included .write
    simp only [includes] at read write
    constructor
    · cases h : other.read <;> simp_all
    · cases h : other.write <;> simp_all

end Direction

namespace Device

/-! ## Consistent devices -/

/-- The rules for a field that holds scalars. -/
structure ScalarField (f : Field) : Prop where
  kind : f.kind ∈ Kind.scalars
  count : 0 ≤ f.count
  bits : f.bits ≠ [] → f.count = 0 ∧ f.kind.isUnsigned = true
  ranges : ∀ b ∈ f.bits, 0 ≤ b.first ∧ b.first ≤ b.last ∧ b.last < f.kind.bits

/-- The rules for a field of `outer` that holds the register at `j`, which has to be one of the
    device's own. -/
structure RegisterField (d : Device) (outer : Register) (f : Field) (j : Nat) : Prop where
  count : f.count = 0
  bits : f.bits = []
  own : ∃ inner, d.registers[j]? = some inner ∧
    ∀ side, outer.direction.includes side = true → inner.direction.includes side = true

/-- The access of a field stays within a one-sided register. -/
structure AccessWithin (outer : Register) (f : Field) : Prop where
  readOnly : outer.direction = .readOnly → f.access.includes .write = false
  writeOnly : outer.direction = .writeOnly → f.access.includes .read = false

/-- The rules for one register of a device. -/
structure ConsistentRegister (d : Device) (r : Register) : Prop where
  direction : r.direction ∈ [Direction.readOnly, .writeOnly, .readWrite]
  names : (r.fields.map Field.name ++ r.constants.map Constant.name).Nodup
  scalars : ∀ f ∈ r.fields, f.register = none → ScalarField f
  registers : ∀ f ∈ r.fields, ∀ j, f.register = some j → d.RegisterField r f j
  access : ∀ f ∈ r.fields, AccessWithin r f

/-- The rules for a device. -/
structure Consistent (d : Device) : Prop where
  ids : (d.registers.map Register.id).Nodup
  names : (d.registers.map Register.name).Nodup
  registers : ∀ r ∈ d.registers, d.ConsistentRegister r
  acyclic : ∀ i < d.registers.length, ¬ Relation.TransGen d.Holds i i

/-! ## Fields -/

theorem refuseIf_eq_ok_iff {condition : Bool} {register : String} {fault : DefinitionFault} :
    refuseIf condition register fault = .ok () ↔ condition = false := by
  cases condition <;> simp [refuseIf]

theorem checkScalarType_eq_ok_iff (r : Register) (f : Field) :
    checkScalarType r f = .ok () ↔
      f.kind ∈ Kind.scalars ∧ 0 ≤ f.count ∧ (f.bits ≠ [] → f.count ≤ 0) := by
  simp only [checkScalarType, andThen_eq_ok_iff, refuseIf_eq_ok_iff, Bool.not_eq_false',
    Kind.isScalar_iff, decide_eq_false_iff_not, Int.not_lt, Bool.and_eq_false_imp,
    decide_eq_true_eq, List.isEmpty_iff]
  refine and_congr_right fun _ => and_congr_right fun _ => ?_
  constructor
  · intro rule ranges
    by_contra positive
    exact ranges (rule (by omega))
  · intro rule positive
    by_contra ranges
    have := rule ranges
    omega

theorem checkBitRanges_eq_ok_iff (r : Register) (f : Field) (bs : List BitRange) :
    checkBitRanges r f bs = .ok () ↔
      ∀ b ∈ bs, 0 ≤ b.first ∧ b.first ≤ b.last ∧ b.last < f.kind.bits := by
  induction bs with
  | nil => simp [checkBitRanges]
  | cons b bs ih =>
    simp only [checkBitRanges, checkBitRange, andThen_eq_ok_iff, refuseIf_eq_ok_iff,
      decide_eq_false_iff_not, Int.not_lt, Int.not_le, ih, List.forall_mem_cons]

theorem checkBits_eq_ok_iff (r : Register) (f : Field) :
    checkBits r f = .ok () ↔ (f.bits ≠ [] → f.kind.isUnsigned = true) ∧
      ∀ b ∈ f.bits, 0 ≤ b.first ∧ b.first ≤ b.last ∧ b.last < f.kind.bits := by
  simp [checkBits, andThen_eq_ok_iff, refuseIf_eq_ok_iff, checkBitRanges_eq_ok_iff]

theorem checkAccess_eq_ok_iff (r : Register) (f : Field) :
    checkAccess r f = .ok () ↔ AccessWithin r f := by
  simp only [checkAccess, andThen_eq_ok_iff, refuseIf_eq_ok_iff, Bool.and_eq_false_imp,
    decide_eq_true_eq]
  exact ⟨fun ⟨readOnly, writeOnly⟩ => ⟨readOnly, writeOnly⟩,
    fun within => ⟨within.readOnly, within.writeOnly⟩⟩

theorem checkRegisterType_eq_ok_iff (d : Device) (i : Nat) (r : Register) (f : Field) (j : Nat) :
    d.checkRegisterType i r f j = .ok () ↔
      f.count = 0 ∧ f.bits = [] ∧ ¬ Relation.ReflTransGen d.Holds j i ∧
        ∀ inner, d.table[j]? = some inner → inner.direction.covers r.direction = true := by
  simp only [checkRegisterType, andThen_eq_ok_iff, refuseIf_eq_ok_iff, bne_eq_false_iff_eq,
    Bool.not_eq_false', List.isEmpty_iff, ← contains_iff, Bool.not_eq_true]
  cases d.table[j]? with
  | none => simp
  | some inner => simp [refuseIf_eq_ok_iff]

/-- What `checkFields` demands of one field, the names apart. -/
structure FieldWithin (d : Device) (i : Nat) (r : Register) (f : Field) : Prop where
  scalar : f.register = none → ScalarField f
  register : ∀ j, f.register = some j →
    f.count = 0 ∧ f.bits = [] ∧ ¬ Relation.ReflTransGen d.Holds j i ∧
      ∀ inner, d.table[j]? = some inner → inner.direction.covers r.direction = true
  access : AccessWithin r f

theorem fieldWithin_iff (d : Device) (i : Nat) (r : Register) (f : Field) :
    d.FieldWithin i r f ↔
      d.checkType i r f = .ok () ∧ checkAccess r f = .ok () ∧ checkBits r f = .ok () := by
  rw [checkAccess_eq_ok_iff, checkBits_eq_ok_iff, checkType]
  cases held : f.register with
  | none =>
    rw [checkScalarType_eq_ok_iff]
    constructor
    · rintro ⟨scalar, -, access⟩
      obtain ⟨kind, count, bits, ranges⟩ := scalar held
      exact ⟨⟨kind, count, fun some => (bits some).1.le⟩, access, fun some => (bits some).2, ranges⟩
    · -- Bit ranges forbid a positive count in one check and a negative one in another.
      rintro ⟨⟨kind, count, single⟩, access, unsigned, ranges⟩
      refine ⟨fun _ => ⟨kind, count, fun some => ⟨?_, unsigned some⟩, ranges⟩, ?_, access⟩
      · exact le_antisymm (single some) count
      · simp [held]
  | some j =>
    rw [checkRegisterType_eq_ok_iff]
    constructor
    · rintro ⟨-, register, access⟩
      obtain ⟨count, bits, rest⟩ := register j held
      exact ⟨⟨count, bits, rest⟩, access, by simp [bits], by simp [bits]⟩
    · rintro ⟨rules, access, -⟩
      refine ⟨by simp [held], ?_, access⟩
      intro k held'
      rw [held] at held'
      cases held'
      exact rules

theorem checkFields_eq_ok_iff (d : Device) (i : Nat) (r : Register) (names all : List String)
    (fs : List Field) :
    d.checkFields i r names fs = .ok all ↔
      (∀ f ∈ fs, d.FieldWithin i r f) ∧ Fresh names (fs.map Field.name) ∧
        all = (fs.map Field.name).reverse ++ names := by
  induction fs generalizing names with
  | nil => simp [checkFields, fresh_nil, eq_comm]
  | cons f fs ih =>
    simp only [checkFields, andThen_eq_ok_iff, refuseIf_eq_ok_iff, ih, List.contains_eq_mem,
      decide_eq_false_iff_not, List.forall_mem_cons, fieldWithin_iff, List.map_cons,
      fresh_cons_iff, List.reverse_cons, List.append_assoc, List.cons_append, List.nil_append]
    tauto

theorem checkConstants_eq_ok_iff (r : Register) (names : List String) (cs : List Constant) :
    checkConstants r names cs = .ok () ↔ Fresh names (cs.map Constant.name) := by
  induction cs generalizing names with
  | nil => simp [checkConstants, fresh_nil]
  | cons c cs ih =>
    simp only [checkConstants, andThen_eq_ok_iff, refuseIf_eq_ok_iff, ih, List.contains_eq_mem,
      decide_eq_false_iff_not, List.map_cons, fresh_cons_iff]

/-! ## Registers -/

/-- What a register has to satisfy when it is judged alone. -/
theorem checkRegister_eq_ok_iff (d : Device) (i : Nat) (r : Register) :
    d.checkRegister i r = .ok () ↔
      r.direction.isProper = true ∧ (∀ f ∈ r.fields, d.FieldWithin i r f) ∧
        (r.fields.map Field.name ++ r.constants.map Constant.name).Nodup := by
  rw [checkRegister, andThen_eq_ok_iff, refuseIf_eq_ok_iff, bind_eq_ok_iff, Bool.not_eq_false']
  refine and_congr_right fun _ => ?_
  simp only [checkFields_eq_ok_iff, checkConstants_eq_ok_iff, ← fresh_reverse_iff]
  constructor
  · rintro ⟨names, ⟨fields, distinct, rfl⟩, constants⟩
    exact ⟨fields, distinct, constants⟩
  · rintro ⟨fields, distinct, constants⟩
    exact ⟨_, ⟨fields, distinct, rfl⟩, constants⟩

theorem checkOwnership_eq_ok_iff (d : Device) (r : Register) (fs : List Field) :
    d.checkOwnership r fs = .ok () ↔
      ∀ f ∈ fs, ∀ j, f.register = some j → d.find? (d.nameOf j) = some j := by
  induction fs with
  | nil => simp [checkOwnership]
  | cons f fs ih =>
    rw [checkOwnership, List.forall_mem_cons, ← ih]
    cases f.register with
    | none => simp [andThen_eq_ok_iff]
    | some j => simp [andThen_eq_ok_iff, refuseIf_eq_ok_iff]

theorem forall_getElem?_cons_iff {α : Type} (p : Nat → α → Prop) (x : α) (xs : List α) (i : Nat) :
    (∀ k y, (x :: xs)[k]? = some y → p (i + k) y) ↔
      p i x ∧ ∀ k y, xs[k]? = some y → p (i + 1 + k) y := by
  constructor
  · intro all
    refine ⟨all 0 x rfl, fun k y at' => ?_⟩
    have := all (k + 1) y (by simpa using at')
    rwa [show i + (k + 1) = i + 1 + k by omega] at this
  · rintro ⟨first, rest⟩ k y at'
    cases k with
    | zero =>
      cases at'
      exact first
    | succ k =>
      rw [show i + (k + 1) = i + 1 + k by omega]
      exact rest k y (by simpa using at')

theorem checkRegisters_eq_ok_iff (d : Device) (i : Nat) (earlier : List (UInt8 × String))
    (rs : List Register) :
    d.checkRegisters i earlier rs = .ok () ↔
      Fresh (earlier.map Prod.fst) (rs.map Register.id) ∧
        Fresh (earlier.map Prod.snd) (rs.map Register.name) ∧
          ∀ k r, rs[k]? = some r →
            d.checkRegister (i + k) r = .ok () ∧ d.checkOwnership r r.fields = .ok () := by
  induction rs generalizing i earlier with
  | nil => simp [checkRegisters, fresh_nil]
  | cons r rs ih =>
    -- Numbers are looked up in a table and names searched for, but both ask whether they are new.
    have newId : earlier.lookup r.id = none ↔ r.id ∉ earlier.map Prod.fst := by
      simp only [List.lookup_eq_none_iff, List.mem_map, not_exists, not_and, bne_iff_ne]
      exact ⟨fun new e member same => new e member same.symm,
        fun new e member same => new e member same.symm⟩
    have newName : (earlier.any fun e => e.2 == r.name) = false ↔
        r.name ∉ earlier.map Prod.snd := by
      simp only [List.any_eq_false, beq_iff_eq, List.mem_map, not_exists, not_and]
    rw [checkRegisters, List.map_cons, List.map_cons, fresh_cons_iff, fresh_cons_iff, ← newId,
      ← newName, forall_getElem?_cons_iff fun k r =>
        d.checkRegister k r = .ok () ∧ d.checkOwnership r r.fields = .ok ()]
    cases known : earlier.lookup r.id with
    | some other => simp [bind, Except.bind]
    | none =>
      simp only [andThen_eq_ok_iff, refuseIf_eq_ok_iff, ih, List.map_cons]
      tauto

/-! ## Devices -/

theorem table_of_own {d : Device} {i : Nat} {r : Register} (own : d.registers[i]? = some r) :
    d.table[i]? = some r := by
  obtain ⟨inside, rfl⟩ := List.getElem?_eq_some_iff.1 own
  rw [table, List.getElem?_append_left inside, List.getElem?_eq_getElem inside]

theorem fieldsOf_of_own {d : Device} {i : Nat} {r : Register} (own : d.registers[i]? = some r) :
    d.fieldsOf i = r.fields := by
  simp [fieldsOf, table_of_own own]

theorem holds_iff_of_own {d : Device} {i j : Nat} {r : Register}
    (own : d.registers[i]? = some r) :
    d.Holds i j ↔ ∃ f ∈ r.fields, f.register = some j := by
  simp [Holds, holds, fieldsOf_of_own own]

/-- An index that a name is found at is one of the device's own registers. -/
theorem own_of_find? {d : Device} {name : String} {j : Nat} (found : d.find? name = some j) :
    ∃ r, d.registers[j]? = some r ∧ r.name = name := by
  obtain ⟨inside, same, -⟩ := List.findIdx?_eq_some_iff_getElem.1 found
  exact ⟨d.registers[j], List.getElem?_eq_getElem inside, by simpa using same⟩

/-- With distinct names, looking up the name of a register finds the register itself. -/
theorem find?_of_own {d : Device} (names : (d.registers.map Register.name).Nodup) {j : Nat}
    {r : Register} (own : d.registers[j]? = some r) : d.find? r.name = some j := by
  obtain ⟨inside, rfl⟩ := List.getElem?_eq_some_iff.1 own
  refine List.findIdx?_eq_some_iff_getElem.2 ⟨inside, by simp, ?_⟩
  -- An earlier register of that name would be the register itself.
  intro k earlier same
  have injective := List.nodup_iff_injective_getElem.1 names
  have equal : (⟨k, by simp; omega⟩ : Fin (d.registers.map Register.name).length) =
      ⟨j, by simpa using inside⟩ := by
    apply injective
    simpa using same
  simp only [Fin.mk.injEq] at equal
  omega

/-- With distinct names, a name belongs to one register. -/
theorem eq_of_same_name {d : Device} (names : (d.registers.map Register.name).Nodup) {i j : Nat}
    {r s : Register} (own : d.registers[i]? = some r) (other : d.registers[j]? = some s)
    (same : s.name = r.name) : j = i ∧ s = r := by
  have index := find?_of_own names other
  rw [same, find?_of_own names own] at index
  cases index
  rw [own] at other
  cases other
  exact ⟨rfl, rfl⟩

theorem FieldWithin.consistent {d : Device} {i j : Nat} {r : Register} {f : Field}
    (proper : r.direction.isProper = true) (within : d.FieldWithin i r f)
    (held : f.register = some j) (found : d.find? (d.nameOf j) = some j) :
    d.RegisterField r f j := by
  obtain ⟨count, bits, -, direction⟩ := within.register j held
  obtain ⟨inner, own, -⟩ := own_of_find? found
  refine ⟨count, bits, inner, own, ?_⟩
  exact (Direction.covers_iff proper).1 (direction inner (table_of_own own))

theorem Consistent.of_validate {d : Device} (valid : d.validate = .ok ()) : d.Consistent := by
  rw [validate, checkRegisters_eq_ok_iff] at valid
  obtain ⟨ids, names, each⟩ := valid
  simp only [Nat.zero_add, checkRegister_eq_ok_iff, checkOwnership_eq_ok_iff] at each
  refine ⟨(fresh_of_nil_iff _).1 ids, (fresh_of_nil_iff _).1 names, ?_, ?_⟩
  · intro r member
    obtain ⟨i, own⟩ := List.getElem?_of_mem member
    obtain ⟨⟨proper, fields, distinct⟩, ownership⟩ := each i r own
    refine ⟨(Direction.isProper_iff _).1 proper, distinct, ?_, ?_, ?_⟩
    · exact fun f within => (fields f within).scalar
    · exact fun f within j held => (fields f within).consistent proper held
        (ownership f within j held)
    · exact fun f within => (fields f within).access
  · intro i inside cycle
    have own : d.registers[i]? = some d.registers[i] := List.getElem?_eq_getElem inside
    -- The first step of a cycle is a field of the register that was checked against it.
    obtain ⟨j, first, back⟩ := Relation.TransGen.head'_iff.1 cycle
    obtain ⟨f, within, held⟩ := (holds_iff_of_own own).1 first
    obtain ⟨⟨-, fields, -⟩, -⟩ := each i _ own
    obtain ⟨-, -, outward, -⟩ := (fields f within).register j held
    exact outward back

theorem Consistent.validate_eq_ok {d : Device} (consistent : d.Consistent) :
    d.validate = .ok () := by
  rw [validate, checkRegisters_eq_ok_iff]
  refine ⟨(fresh_of_nil_iff _).2 consistent.ids, (fresh_of_nil_iff _).2 consistent.names, ?_⟩
  intro i r own
  rw [Nat.zero_add, checkRegister_eq_ok_iff, checkOwnership_eq_ok_iff]
  have rules := consistent.registers r (List.mem_of_getElem? own)
  have proper := (Direction.isProper_iff _).2 rules.direction
  refine ⟨⟨proper, ?_, rules.names⟩, ?_⟩
  · intro f within
    refine ⟨rules.scalars f within, ?_, rules.access f within⟩
    intro j held
    obtain ⟨count, bits, inner, ownInner, included⟩ := rules.registers f within j held
    refine ⟨count, bits, ?_, ?_⟩
    · -- A way back would close a cycle through this field.
      intro back
      have inside := (List.getElem?_eq_some_iff.1 own).1
      apply consistent.acyclic i inside
      exact Relation.TransGen.head' ((holds_iff_of_own own).2 ⟨f, within, held⟩) back
    · intro other atIndex
      rw [table_of_own ownInner] at atIndex
      cases atIndex
      exact (Direction.covers_iff proper).2 included
  · intro f within j held
    obtain ⟨-, -, inner, ownInner, -⟩ := rules.registers f within j held
    have name : d.nameOf j = inner.name := by simp [nameOf, table_of_own ownInner]
    rw [name]
    exact find?_of_own consistent.names ownInner

/-- Validation ends on every device, since each containment search it starts is a finished walk,
    and it accepts exactly the consistent devices. -/
theorem validate_accepts_exactly_consistent (d : Device) :
    (∀ i j, ∃ marks, Explores d i [j] [] (d.contains j i) marks) ∧
      (d.validate = .ok () ↔ d.Consistent) :=
  ⟨fun i j => d.explores_contains j i, Consistent.of_validate, Consistent.validate_eq_ok⟩

end Device

end RegisterMap
