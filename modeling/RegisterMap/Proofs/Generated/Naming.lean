import RegisterMap.Proofs.Generated.Record

/-! # Names of a generated package

The generator enters every identifier into a scope and stops at the first one that is there
already. So in an accepted package the names of the types differ, and so do the names of the members
of each struct. This is what makes access by name unambiguous: a register finds its own type
(`Accepted.type?_eq`), and a type its own methods. -/

namespace RegisterMap.Generated

theorem Names.add_eq_ok_iff {names all : Names} {name what : String} :
    names.add name what = .ok all ↔ name ∉ names.map Prod.fst ∧ all = (name, what) :: names := by
  have new : names.lookup name = none ↔ name ∉ names.map Prod.fst := by
    simp only [List.lookup_eq_none_iff, List.mem_map, not_exists, not_and, bne_iff_ne]
    exact ⟨fun new e member same => new e member same.symm,
      fun new e member same => new e member same.symm⟩
  unfold Names.add
  rw [← new]
  cases names.lookup name with
  | some earlier => simp
  | none => simp [eq_comm]

/-- The identifiers of a scope. -/
def Names.all (names : Names) : List String :=
  names.map Prod.fst

section

variable {d : Device} {r : Register} {type : String} {scope next : Names}

theorem addMasks_subset {f : Field} {m : Member} {bs : List BitRange}
    (success : addMasks r f type m scope bs = .ok next) : scope.all ⊆ next.all := by
  induction bs generalizing scope with
  | nil =>
    cases success
    exact List.Subset.refl _
  | cons b bs ih =>
    simp only [addMasks, bind_eq_ok_iff, Names.add_eq_ok_iff] at success
    obtain ⟨-, -, between, ⟨-, rfl⟩, rest⟩ := success
    exact List.Subset.trans (List.subset_cons_self _ _) (ih rest)

theorem addConstants_subset {cs : List Constant}
    (success : addConstants r type scope cs = .ok next) : scope.all ⊆ next.all := by
  induction cs generalizing scope with
  | nil =>
    cases success
    exact List.Subset.refl _
  | cons c cs ih =>
    simp only [addConstants, bind_eq_ok_iff, Names.add_eq_ok_iff] at success
    obtain ⟨-, -, between, ⟨-, rfl⟩, rest⟩ := success
    exact List.Subset.trans (List.subset_cons_self _ _) (ih rest)

theorem of_addFields {members : Names} {fs : List Field}
    (success : addFields d r type scope members fs = .ok next) :
    scope.all ⊆ next.all ∧ Fresh members.all (fs.map fun f => memberName f.name) := by
  induction fs generalizing scope members with
  | nil =>
    cases success
    exact ⟨List.Subset.refl _, fresh_nil _⟩
  | cons f fs ih =>
    simp only [addFields, bind_eq_ok_iff, Names.add_eq_ok_iff] at success
    obtain ⟨-, -, more, ⟨new, rfl⟩, between, masks, rest⟩ := success
    obtain ⟨subset, fresh⟩ := ih rest
    rw [List.map_cons, fresh_cons_iff]
    exact ⟨List.Subset.trans (addMasks_subset masks) subset, new, fresh⟩

/-- A register enters the name of its type, and its members have distinct names. -/
theorem of_addRegister (success : addRegister d scope r = .ok next) :
    typeName r.name ∉ scope.all ∧ typeName r.name ∈ next.all ∧ scope.all ⊆ next.all ∧
      (r.fields.map fun f => memberName f.name).Nodup := by
  simp only [addRegister, bind_eq_ok_iff, Names.add_eq_ok_iff] at success
  obtain ⟨-, -, named, ⟨new, rfl⟩, numbered, ⟨-, rfl⟩, between, fields, constants⟩ := success
  obtain ⟨first, fresh⟩ := of_addFields fields
  have rest := List.Subset.trans first (addConstants_subset constants)
  refine ⟨new, rest (by simp [Names.all]), ?_, fresh.1⟩
  exact fun name member => rest (List.mem_cons_of_mem _ (List.mem_cons_of_mem _ member))

theorem of_addRegisters {rs : List Register} (success : addRegisters d scope rs = .ok next) :
    Fresh scope.all (rs.map fun r => typeName r.name) ∧
      ∀ r ∈ rs, (r.fields.map fun f => memberName f.name).Nodup := by
  induction rs generalizing scope with
  | nil => exact ⟨fresh_nil _, by simp⟩
  | cons r rs ih =>
    simp only [addRegisters, bind_eq_ok_iff] at success
    obtain ⟨between, first, rest⟩ := success
    obtain ⟨new, entered, subset, members⟩ := of_addRegister first
    obtain ⟨fresh, others⟩ := ih rest
    refine ⟨(fresh_cons_iff _ _ _).2 ⟨new, fresh.1, ?_⟩, List.forall_mem_cons.2 ⟨members, others⟩⟩
    -- What comes later was new to a scope that holds this name and all earlier ones.
    intro name member known
    apply fresh.2 name member
    rcases List.mem_cons.1 known with rfl | known
    · exact entered
    · exact subset known

end

/-! ## Accepted packages -/

/-- What the generator has made sure of when it returns a package. -/
structure Accepted (d : Device) (p : Package) : Prop where
  consistent : d.Consistent
  types : p.types = typesFrom d 0 d.registers
  names : (d.registers.map fun r => typeName r.name).Nodup
  members : ∀ r ∈ d.registers, (r.fields.map fun f => memberName f.name).Nodup

theorem Accepted.of_generate {d : Device} {package : String} {p : Package}
    (generated : generate d package = .ok p) : Accepted d p := by
  unfold generate at generated
  dsimp only at generated
  split at generated
  · cases generated
  · cases valid : d.validate with
    | error e =>
      rw [valid] at generated
      cases generated
    | ok nothing =>
      rw [valid] at generated
      obtain ⟨scope, entered, generated⟩ := bind_eq_ok_iff.1 generated
      split at generated
      · cases generated
      · cases generated
        obtain ⟨fresh, members⟩ := of_addRegisters entered
        exact ⟨.of_validate valid, rfl, fresh.1, members⟩

theorem typesFrom_getElem? (d : Device) (i k : Nat) (rs : List Register) :
    (typesFrom d i rs)[k]? = rs[k]?.map (typeOf d (i + k)) := by
  induction rs generalizing i k with
  | nil => rfl
  | cons r rs ih =>
    cases k with
    | zero => rfl
    | succ k =>
      rw [typesFrom, List.getElem?_cons_succ, ih, List.getElem?_cons_succ]
      congr 2
      omega

theorem find?_of_nodup {α : Type} {key : α → String} {xs : List α} (distinct : (xs.map key).Nodup)
    {x : α} (member : x ∈ xs) : xs.find? (fun y => key y == key x) = some x := by
  induction xs with
  | nil => cases member
  | cons y ys ih =>
    rw [List.map_cons, List.nodup_cons] at distinct
    rcases List.mem_cons.1 member with rfl | member
    · simp
    · have apart : key y ≠ key x := fun same => distinct.1 (same ▸ List.mem_map_of_mem member)
      rw [List.find?_cons_of_neg (by simpa using apart)]
      exact ih distinct.2 member

namespace Accepted

variable {d : Device} {p : Package} {i : Nat} {r : Register}

theorem length_types (accepted : Accepted d p) : p.types.length = d.registers.length := by
  have same : ∀ i rs, (typesFrom d i rs).length = rs.length := by
    intro i rs
    induction rs generalizing i with
    | nil => rfl
    | cons r rs ih => simp only [typesFrom, List.length_cons, ih]
  rw [accepted.types, same]

theorem mem_types (accepted : Accepted d p) (own : d.registers[i]? = some r) :
    typeOf d i r ∈ p.types := by
  apply List.mem_of_getElem? (i := i)
  rw [accepted.types, typesFrom_getElem?, own, Nat.zero_add]
  rfl

theorem exists_typeOf (accepted : Accepted d p) {t : TypeDef} (member : t ∈ p.types) :
    ∃ i r, d.registers[i]? = some r ∧ t = typeOf d i r := by
  obtain ⟨i, place⟩ := List.getElem?_of_mem member
  rw [accepted.types, typesFrom_getElem?, Nat.zero_add, Option.map_eq_some_iff] at place
  obtain ⟨r, own, rfl⟩ := place
  exact ⟨i, r, own, rfl⟩

/-- A register finds its own type under the name of the type. -/
theorem type?_eq (accepted : Accepted d p) (own : d.registers[i]? = some r) :
    p.type? (typeName r.name) = some (typeOf d i r) := by
  have names : p.types.map TypeDef.name = d.registers.map fun r => typeName r.name := by
    apply List.ext_getElem?
    intro k
    rw [accepted.types, List.getElem?_map, List.getElem?_map, typesFrom_getElem?]
    cases d.registers[k]? with
    | none => rfl
    | some r => rfl
  exact find?_of_nodup (names ▸ accepted.names) (accepted.mem_types own)

end Accepted

theorem method?_typeOf (d : Device) (i : Nat) (r : Register) {op : Op} (known : op ∈ operations) :
    (typeOf d i r).method? op = some (methodOf d r (d.registerSize i) op) := by
  have same : ∀ other, (methodOf d r (d.registerSize i) other).op = other := by
    intro other
    unfold methodOf
    split <;> rfl
  simp only [operations, List.mem_cons, List.not_mem_nil, or_false] at known
  unfold TypeDef.method? typeOf operations
  rcases known with rfl | rfl | rfl | rfl <;> simp [same]

end RegisterMap.Generated
