import RegisterMap.Generated.Build
import RegisterMap.Proofs.Generated.Coding

/-! # Structs and groups

`Record.Inhabits p members r` says that `r` is a struct with these members: every number lies in
the range of its type, arrays have their length, and nested structs inhabit the type of the package
that is named there. `Cells.record` is the struct with the values of a group. For the register of a
consistent device these are the same structs: those of its groups inhabit its members
(`Fits.inhabits`), and there are no others (`Record.Inhabits.exists_fits`). -/

namespace RegisterMap

open Generated (coding Record Package Member Shape memberName typeName memberOf shapeOf typeOf)

namespace Generated.Record

/-! ## Members by position

Methods find members by name. On a struct that is split at a member whose name does not occur before
it, access by name is access at that place. -/

def append : Record → Record → Record
  | nil, s => s
  | word name k i rest, s => word name k i (rest.append s)
  | words name k is rest, s => words name k is (rest.append s)
  | nested name t inner rest, s => nested name t inner (rest.append s)

def names : Record → List String
  | nil => []
  | word name _ _ rest => name :: rest.names
  | words name _ _ rest => name :: rest.names
  | nested name _ _ rest => name :: rest.names

theorem append_assoc (front middle back : Record) :
    (front.append middle).append back = front.append (middle.append back) := by
  induction front with
  | nil => rfl
  | word name k i rest ih => simp only [append, ih]
  | words name k is rest ih => simp only [append, ih]
  | nested name t inner rest _ ih => simp only [append, ih]

theorem append_word (front rest : Record) (name : String) (k : Kind) (i : Int) :
    front.append (word name k i rest) = (front.append (word name k i nil)).append rest :=
  (append_assoc front (word name k i nil) rest).symm

theorem append_words (front rest : Record) (name : String) (k : Kind) (is : List Int) :
    front.append (words name k is rest) = (front.append (words name k is nil)).append rest :=
  (append_assoc front (words name k is nil) rest).symm

theorem append_nested (front inner rest : Record) (name t : String) :
    front.append (nested name t inner rest) =
      (front.append (nested name t inner nil)).append rest :=
  (append_assoc front (nested name t inner nil) rest).symm

theorem names_append (front back : Record) :
    (front.append back).names = front.names ++ back.names := by
  induction front with
  | nil => rfl
  | word name k i rest ih => simp only [append, names, ih, List.cons_append]
  | words name k is rest ih => simp only [append, names, ih, List.cons_append]
  | nested name t inner rest _ ih => simp only [append, names, ih, List.cons_append]

section

variable {front back : Record} {n t : String} {k : Kind} {i j : Int} {is js : List Int}
  {inner other : Record}

theorem word?_append (new : n ∉ front.names) :
    (front.append (word n k i back)).word? n = some i := by
  induction front with
  | nil => simp [append, word?]
  | word name _ _ rest ih | words name _ _ rest ih | nested name _ _ rest _ ih =>
    obtain ⟨apart, new⟩ := List.ne_and_not_mem_of_not_mem_cons new
    simp only [append, word?, if_neg apart.symm, ih new]

theorem words?_append (new : n ∉ front.names) :
    (front.append (words n k is back)).words? n = some is := by
  induction front with
  | nil => simp [append, words?]
  | word name _ _ rest ih | words name _ _ rest ih | nested name _ _ rest _ ih =>
    obtain ⟨apart, new⟩ := List.ne_and_not_mem_of_not_mem_cons new
    simp only [append, words?, if_neg apart.symm, ih new]

theorem inner?_append (new : n ∉ front.names) :
    (front.append (nested n t inner back)).inner? n = some inner := by
  induction front with
  | nil => simp [append, inner?]
  | word name _ _ rest ih | words name _ _ rest ih | nested name _ _ rest _ ih =>
    obtain ⟨apart, new⟩ := List.ne_and_not_mem_of_not_mem_cons new
    simp only [append, inner?, if_neg apart.symm, ih new]

theorem setWord_append (new : n ∉ front.names) :
    (front.append (word n k i back)).setWord n j = front.append (word n k j back) := by
  induction front with
  | nil => simp [append, setWord]
  | word name _ _ rest ih | words name _ _ rest ih | nested name _ _ rest _ ih =>
    obtain ⟨apart, new⟩ := List.ne_and_not_mem_of_not_mem_cons new
    simp only [append, setWord, if_neg apart.symm, ih new]

theorem setWords_append (new : n ∉ front.names) :
    (front.append (words n k is back)).setWords n js = front.append (words n k js back) := by
  induction front with
  | nil => simp [append, setWords]
  | word name _ _ rest ih | words name _ _ rest ih | nested name _ _ rest _ ih =>
    obtain ⟨apart, new⟩ := List.ne_and_not_mem_of_not_mem_cons new
    simp only [append, setWords, if_neg apart.symm, ih new]

theorem setInner_append (new : n ∉ front.names) :
    (front.append (nested n t inner back)).setInner n other =
      front.append (nested n t other back) := by
  induction front with
  | nil => simp [append, setInner]
  | word name _ _ rest ih | words name _ _ rest ih | nested name _ _ rest _ ih =>
    obtain ⟨apart, new⟩ := List.ne_and_not_mem_of_not_mem_cons new
    simp only [append, setInner, if_neg apart.symm, ih new]

end

/-! ## Contents of a struct -/

/-- The record is a struct with these members. -/
inductive Inhabits (p : Package) : List Member → Record → Prop where
  | nil : Inhabits p [] .nil
  | word {m : Member} {ms : List Member} {k : Kind} {i : Int} {rest : Record}
      (shape : m.shape = .word k ∨ m.shape = .float k) (represented : (coding k).Represents i)
      (others : Inhabits p ms rest) : Inhabits p (m :: ms) (.word m.name k i rest)
  | words {m : Member} {ms : List Member} {k : Kind} {is : List Int} {rest : Record}
      (shape : m.shape = .words k is.length ∨ m.shape = .floats k is.length)
      (represented : ∀ i ∈ is, (coding k).Represents i) (others : Inhabits p ms rest) :
      Inhabits p (m :: ms) (.words m.name k is rest)
  | nested {m : Member} {ms : List Member} {t : TypeDef} {inner rest : Record}
      (shape : m.shape = .nested t.name) (known : p.type? t.name = some t)
      (inside : Inhabits p t.members inner) (others : Inhabits p ms rest) :
      Inhabits p (m :: ms) (.nested m.name t.name inner rest)

end Generated.Record

/-- The struct with the values of the cells. -/
def Cells.record : Cells → Record
  | nil => .nil
  | scalar name kind value rest => .word (memberName name) kind value.number rest.record
  | array name kind values rest =>
    .words (memberName name) kind (values.map Value.number) rest.record
  | nested name header inner rest =>
    .nested (memberName name) (typeName header.name) inner.record rest.record

theorem Register.header_name (r : Register) : r.header.name = r.name := rfl

/-! ## Shapes of fields -/

section

variable {d : Device} {f : Field}

theorem shapeOf_scalar (held : f.register = none) (single : f.count = 0) :
    shapeOf d f = .word f.kind ∨ shapeOf d f = .float f.kind := by
  simp only [shapeOf, held, single, lt_irrefl, if_false]
  split_ifs <;> simp

theorem shapeOf_array (held : f.register = none) (several : 0 < f.count) :
    shapeOf d f = .words f.kind f.count.toNat ∨ shapeOf d f = .floats f.kind f.count.toNat := by
  simp only [shapeOf, held, several, if_true]
  split_ifs <;> simp

theorem shapeOf_nested {j : Nat} {r : Register} (held : f.register = some j)
    (own : d.registers[j]? = some r) : shapeOf d f = .nested (typeName r.name) := by
  simp only [shapeOf, held, Device.nameOf, Device.table_of_own own]

theorem of_shapeOf_word {k : Kind} (shape : shapeOf d f = .word k ∨ shapeOf d f = .float k)
    (count : f.register = none → 0 ≤ f.count) :
    f.register = none ∧ f.count = 0 ∧ f.kind = k := by
  unfold shapeOf at shape
  cases held : f.register with
  | some j => simp [held] at shape
  | none =>
    simp only [held] at shape
    split_ifs at shape with several float <;> simp only [Shape.word.injEq,
      Shape.float.injEq, or_false, false_or] at shape
    all_goals exact ⟨rfl, le_antisymm (not_lt.1 several) (count held), shape⟩

theorem of_shapeOf_words {k : Kind} {n : Nat}
    (shape : shapeOf d f = .words k n ∨ shapeOf d f = .floats k n) :
    f.register = none ∧ 0 < f.count ∧ f.kind = k ∧ f.count.toNat = n := by
  unfold shapeOf at shape
  cases held : f.register with
  | some j => simp [held] at shape
  | none =>
    simp only [held] at shape
    split_ifs at shape with several float <;> simp only [Shape.words.injEq,
      Shape.floats.injEq, or_false, false_or] at shape
    all_goals exact ⟨rfl, several, shape⟩

theorem of_shapeOf_nested {t : String} (shape : shapeOf d f = .nested t) :
    ∃ j, f.register = some j := by
  unfold shapeOf at shape
  cases held : f.register with
  | some j => exact ⟨j, rfl⟩
  | none =>
    simp only [held] at shape
    split_ifs at shape

end

/-! ## Groups as structs -/

namespace Cells.Fits

variable {d : Device} {fs : List Field} {cells : Cells}

theorem map_zipIdx {α β : Type} (f : α → β) (xs : List α) :
    xs.zipIdx.map (fun e => f e.1) = xs.map f := by
  calc xs.zipIdx.map (fun e => f e.1) = (xs.zipIdx.map Prod.fst).map f := by
        rw [List.map_map]
        rfl
    _ = xs.map f := by rw [List.zipIdx_map_fst]

/-- The struct shows the values of the group, in the same order. -/
theorem values_record (fits : Fits d fs cells) :
    cells.record.values.map Prod.snd =
      cells.values.map fun e => (e.2.kind, e.2.number) := by
  induction fits with
  | nil => rfl
  | scalar _ _ isOf _ ih => simp [record, Record.values, Cells.values, ih, isOf.kind]
  | @array f _ values _ _ _ _ isOf _ ih =>
    have kinds : values.map (fun v => (f.kind, v.number)) =
        values.map fun v => (v.kind, v.number) := by
      apply List.map_congr_left
      intro v member
      rw [(isOf v member).kind]
    simp only [record, Record.values, Cells.values, List.map_append, List.map_map, ih,
      Function.comp_def, map_zipIdx fun v : Value => (v.kind, v.number),
      map_zipIdx fun i : Int => (f.kind, i), kinds]
  | nested _ _ _ _ innerIh ih =>
    simp only [record, Record.values, Cells.values, List.map_append, List.map_map, ih,
      Function.comp_def] at innerIh ⊢
    rw [innerIh]

/-- The struct of a group inhabits the members of its register. -/
theorem inhabits (fits : Fits d fs cells) {p : Package}
    (types : ∀ j r, d.registers[j]? = some r → p.type? (typeName r.name) = some (typeOf d j r))
    (scalars : ∀ r ∈ d.registers, ∀ f ∈ r.fields, f.register = none → f.kind.isScalar = true)
    {r : Register} (member : r ∈ d.registers) (part : fs ⊆ r.fields) :
    cells.record.Inhabits p (fs.map (memberOf d)) := by
  induction fits generalizing r with
  | nil => exact .nil
  | @scalar f _ _ _ held single isOf _ ih =>
    obtain ⟨within, part⟩ := List.cons_subset.1 part
    have scalar := scalars r member f within held
    refine .word (m := memberOf d f) (shapeOf_scalar held single) ?_ (ih member part)
    exact isOf.represents_number scalar
  | @array f _ values _ held several length isOf _ ih =>
    obtain ⟨within, part⟩ := List.cons_subset.1 part
    have scalar := scalars r member f within held
    refine .words (m := memberOf d f) ?_ ?_ (ih member part)
    · rw [List.length_map, length]
      exact shapeOf_array held several
    · intro i inside
      obtain ⟨v, element, rfl⟩ := List.mem_map.1 inside
      exact (isOf v element).represents_number scalar
  | @nested f _ j inner _ _ held own _ _ innerIh ih =>
    obtain ⟨within, part⟩ := List.cons_subset.1 part
    exact .nested (m := memberOf d f) (t := typeOf d j inner) (shapeOf_nested held own)
      (types j inner own) (innerIh (List.mem_of_getElem? own) (List.Subset.refl _))
      (ih member part)

end Cells.Fits

/-- Numbers of the type of a kind are the numbers of values. -/
theorem exists_values {k : Kind} (scalar : k.isScalar = true) {is : List Int}
    (represented : ∀ i ∈ is, (coding k).Represents i) :
    ∃ vs : List Value, (∀ v ∈ vs, v.IsOf k) ∧ vs.map Value.number = is := by
  induction is with
  | nil => exact ⟨[], by simp⟩
  | cons i is ih =>
    obtain ⟨first, rest⟩ := List.forall_mem_cons.1 represented
    obtain ⟨v, isOf, number⟩ := Value.exists_isOf_number scalar first
    obtain ⟨vs, isOfs, numbers⟩ := ih rest
    exact ⟨v :: vs, List.forall_mem_cons.2 ⟨isOf, isOfs⟩, by rw [List.map_cons, number, numbers]⟩

/-- A struct with the members of a register is the struct of a group of it. -/
theorem Generated.Record.Inhabits.exists_fits {d : Device} (consistent : d.Consistent) {p : Package}
    (types : ∀ j r, d.registers[j]? = some r → p.type? (typeName r.name) = some (typeOf d j r))
    {members : List Member} {record : Record} (inhabits : record.Inhabits p members)
    {r : Register} (member : r ∈ d.registers) {fs : List Field} (part : fs ⊆ r.fields)
    (fields : members = fs.map (memberOf d)) :
    ∃ cells, Cells.Fits d fs cells ∧ cells.record = record := by
  induction inhabits generalizing r fs with
  | nil =>
    rw [eq_comm, List.map_eq_nil_iff] at fields
    subst fields
    exact ⟨.nil, .nil, rfl⟩
  | word shape represented _ ih =>
    obtain ⟨f, fs, rfl, rfl, rfl⟩ := List.map_eq_cons_iff.1 fields.symm
    obtain ⟨within, part⟩ := List.cons_subset.1 part
    have scalars := (consistent.registers r member).scalars f within
    obtain ⟨held, single, rfl⟩ := of_shapeOf_word shape fun held => (scalars held).count
    obtain ⟨v, isOf, rfl⟩ :=
      Value.exists_isOf_number ((Kind.isScalar_iff _).2 (scalars held).kind) represented
    obtain ⟨rest, fits, rfl⟩ := ih member part rfl
    exact ⟨_, .scalar held single isOf fits, rfl⟩
  | words shape represented _ ih =>
    obtain ⟨f, fs, rfl, rfl, rfl⟩ := List.map_eq_cons_iff.1 fields.symm
    obtain ⟨within, part⟩ := List.cons_subset.1 part
    obtain ⟨held, several, rfl, length⟩ := of_shapeOf_words shape
    have scalar := (consistent.registers r member).scalars f within held
    obtain ⟨vs, isOf, rfl⟩ := exists_values ((Kind.isScalar_iff _).2 scalar.kind) represented
    obtain ⟨rest, fits, rfl⟩ := ih member part rfl
    exact ⟨_, .array held several (by simpa using length.symm) isOf fits, rfl⟩
  | nested shape known _ _ innerIh ih =>
    obtain ⟨f, fs, rfl, rfl, rfl⟩ := List.map_eq_cons_iff.1 fields.symm
    obtain ⟨within, part⟩ := List.cons_subset.1 part
    obtain ⟨j, held⟩ := of_shapeOf_nested shape
    obtain ⟨-, -, inner, own, -⟩ := (consistent.registers r member).registers f within j held
    -- The type that is named is the one generated for the register that is held.
    have named := (shapeOf_nested held own).symm.trans shape
    rw [Shape.nested.injEq] at named
    rw [← named, types j inner own, Option.some.injEq] at known
    subst known
    obtain ⟨cells, inside, rfl⟩ := innerIh (List.mem_of_getElem? own) (List.Subset.refl _) rfl
    obtain ⟨rest, fits, rfl⟩ := ih member part rfl
    exact ⟨_, .nested held own inside fits, rfl⟩

end RegisterMap
