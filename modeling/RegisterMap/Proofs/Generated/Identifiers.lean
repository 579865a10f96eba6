import RegisterMap.Proofs.Generated.Naming
import RegisterMap.Proofs.Group.WireFormat

/-! # Identifiers of a generated package

The generator goes through the names of a device one by one, but whether it fails does not depend
on their order: it reports a name exactly if some name does not become an exported identifier, or
if two identifiers of one scope are equal. `Enters` says this for every part of the walk; parts are
put together by `Enters.guard` and `Enters.andThen`. What the generator hands out is therefore free
of clashes, in the package and in each of its structs. -/

namespace RegisterMap.Generated

/-! ## Names and scopes -/

/-- The text is an exported identifier. -/
def IsName (s : String) : Prop :=
  isIdentifier s = true ∧ isExported s = true

/-- The error reports a name. -/
inductive GenerateError.IsNaming : GenerateError → Prop where
  | invalidName (name what : String) : IsNaming (.invalidName name what)
  | nameClash (name what : String) : IsNaming (.nameClash name what)

/-- The names of the members that the fields of a register become. -/
def memberNames (r : Register) : List String :=
  r.fields.map fun f => memberName f.name

/-- All names of a register as they are converted. -/
def convertedNames (r : Register) : List String :=
  typeName r.name :: memberNames r ++ r.fields.flatMap (fun f => f.bits.map fun b => memberName b.name)
    ++ r.constants.map fun c => memberName c.name

/-- The identifiers of the masks of a field. -/
def maskNames (type : String) (f : Field) : List String :=
  f.bits.map fun b => type ++ memberName f.name ++ memberName b.name ++ "Mask"

/-- The identifiers of the constants of a register. -/
def constantNames (type : String) (cs : List Constant) : List String :=
  cs.map fun c => type ++ memberName c.name

/-- What a register declares in the package: its type, its number, its constants and its masks. -/
def identifiers (r : Register) : List String :=
  [typeName r.name, typeName r.name ++ "ID"] ++ constantNames (typeName r.name) r.constants ++
    r.fields.flatMap (maskNames (typeName r.name))

/-- What a type of a package declares in the package. -/
def TypeDef.identifiers (t : TypeDef) : List String :=
  [t.name, t.name ++ "ID"] ++ t.constants.map ConstantDef.name ++ t.masks.map ConstantDef.name

/-- The fields and methods of the struct of a type. -/
def TypeDef.scope (t : TypeDef) : List String :=
  t.members.map Member.name ++ "ID" :: "Size" :: t.methods.map fun m => methodName m.op

/-! ## Entering names -/

theorem checkName_eq_ok_iff {name what : String} :
    checkName name what = .ok () ↔ IsName name := by
  unfold checkName IsName
  rw [← Bool.and_eq_true]
  split <;> simp [*]

theorem checkName_eq_error {name what : String} {e : GenerateError}
    (failed : checkName name what = .error e) : e.IsNaming ∧ ¬ IsName name := by
  refine ⟨?_, fun named => ?_⟩
  · unfold checkName at failed
    split at failed
    · cases failed
    · cases failed
      exact .invalidName _ _
  · rw [checkName_eq_ok_iff.2 named] at failed
    cases failed

theorem Names.add_eq_error {names : Names} {name what : String} {e : GenerateError}
    (failed : names.add name what = .error e) : e.IsNaming ∧ name ∈ names.all := by
  refine ⟨?_, not_not.1 fun new => ?_⟩
  · unfold Names.add at failed
    split at failed
    · cases failed
      exact .nameClash _ _
    · cases failed
  · rw [Names.add_eq_ok_iff.2 ⟨new, rfl⟩] at failed
    cases failed

/-- If everything that was seen is the old names and the first ones, the others are fresh after
    the first ones exactly if all of them together are. -/
theorem fresh_append_iff {seen all first rest : List String}
    (grown : ∀ name, name ∈ all ↔ name ∈ seen ∨ name ∈ first) :
    Fresh seen (first ++ rest) ↔ Fresh seen first ∧ Fresh all rest := by
  simp only [Fresh, List.nodup_append, List.forall_mem_append, grown, not_or]
  constructor
  · rintro ⟨⟨left, right, apart⟩, newLeft, newRight⟩
    exact ⟨⟨left, newLeft⟩, right, fun name member =>
      ⟨newRight name member, fun earlier => apart name earlier name member rfl⟩⟩
  · rintro ⟨⟨left, newLeft⟩, right, new⟩
    refine ⟨⟨left, right, ?_⟩, newLeft, fun name member => (new name member).1⟩
    rintro name earlier _ member rfl
    exact (new name member).2 earlier

/-- The result of entering names into a scope: it succeeds if the rules hold and the names are new,
    and the scope then holds these names as well; else it is an error that reports a name. -/
structure Enters (scope : Names) (rules : Prop) (names : List String)
    (result : Except GenerateError Names) : Prop where
  success : ∀ next, result = .ok next →
    (rules ∧ Fresh scope.all names) ∧ ∀ name, name ∈ next.all ↔ name ∈ scope.all ∨ name ∈ names
  failure : ∀ e, result = .error e → e.IsNaming ∧ ¬ (rules ∧ Fresh scope.all names)

namespace Enters

variable {scope : Names} {rules : Prop} {names : List String}
  {result : Except GenerateError Names}

theorem nothing : Enters scope True [] (.ok scope) where
  success next same := by
    cases same
    simp [fresh_nil]
  failure e failed := by cases failed

theorem add (scope : Names) (name what : String) :
    Enters scope True [name] (scope.add name what) where
  success next added := by
    obtain ⟨new, rfl⟩ := Names.add_eq_ok_iff.1 added
    refine ⟨⟨trivial, by simp, by simpa [Names.all] using new⟩, fun other => ?_⟩
    simp [Names.all, or_comm]
  failure e failed := by
    obtain ⟨naming, known⟩ := Names.add_eq_error failed
    refine ⟨naming, ?_⟩
    rintro ⟨-, -, new⟩
    exact new name (by simp) known

/-- Neither the way the rules are put nor the order of the names matters. -/
theorem congr {rules' : Prop} {names' : List String} (entered : Enters scope rules names result)
    (same : rules' ↔ rules) (order : names'.Perm names) : Enters scope rules' names' result := by
  have fresh : Fresh scope.all names' ↔ Fresh scope.all names := by
    simp only [Fresh, order.nodup_iff, order.mem_iff]
  obtain ⟨success, failure⟩ := entered
  refine ⟨fun next made => ?_, fun e failed => ?_⟩
  · simpa only [same, fresh, order.mem_iff] using success next made
  · simpa only [same, fresh] using failure e failed

/-- A check before names are entered. -/
theorem guard {α : Type} {check : Except GenerateError α} {passes : Prop}
    {next : α → Except GenerateError Names}
    (passed : ∀ a, check = .ok a → passes ∧ Enters scope rules names (next a))
    (failed : ∀ e, check = .error e → e.IsNaming ∧ ¬ passes) :
    Enters scope (passes ∧ rules) names (check >>= next) := by
  cases check with
  | error e =>
    refine ⟨nofun, fun e made => ?_⟩
    cases made
    obtain ⟨naming, not⟩ := failed e rfl
    exact ⟨naming, fun ⟨⟨passes, _⟩, _⟩ => not passes⟩
  | ok a =>
    obtain ⟨passes, rest⟩ := passed a rfl
    exact rest.congr (and_iff_right passes) (.refl _)

theorem named {name what : String} {next : Unit → Except GenerateError Names}
    (rest : IsName name → Enters scope rules names (next ())) :
    Enters scope (IsName name ∧ rules) names (checkName name what >>= next) := by
  refine guard (fun _ passed => ?_) fun _ => checkName_eq_error
  have named := checkName_eq_ok_iff.1 passed
  exact ⟨named, rest named⟩

/-- More names after the first ones, in the scope that these leave. -/
theorem andThen {more : Prop} {others : List String} {next : Names → Except GenerateError Names}
    (first : Enters scope rules names result)
    (rest : ∀ between, Enters between more others (next between)) :
    Enters scope (rules ∧ more) (names ++ others) (result >>= next) := by
  cases result with
  | error e =>
    refine ⟨nofun, fun e made => ?_⟩
    cases made
    obtain ⟨naming, not⟩ := first.failure e rfl
    exact ⟨naming, fun ⟨⟨held, _⟩, fresh⟩ =>
      not ⟨held, (fresh_append_iff (fun _ => List.mem_append)).1 fresh |>.1⟩⟩
  | ok between =>
    obtain ⟨⟨held, fresh⟩, grown⟩ := first.success between rfl
    have split : Fresh scope.all (names ++ others) ↔
        Fresh scope.all names ∧ Fresh between.all others := fresh_append_iff grown
    refine ⟨fun final made => ?_, fun e failed => ?_⟩
    · obtain ⟨⟨heldRest, freshRest⟩, grownRest⟩ := (rest between).success final made
      refine ⟨⟨⟨held, heldRest⟩, split.2 ⟨fresh, freshRest⟩⟩, fun name => ?_⟩
      rw [grownRest, grown, List.mem_append, or_assoc]
    · obtain ⟨naming, not⟩ := (rest between).failure e failed
      exact ⟨naming, fun ⟨⟨_, heldRest⟩, all⟩ => not ⟨heldRest, (split.1 all).2⟩⟩

end Enters

/-! ## The walk through a device -/

/-- Every name of a register becomes an exported identifier, and its members are distinct from each
    other and from the names in `seen`. -/
structure WellNamed (seen : List String) (fs : List Field) : Prop where
  fields : ∀ f ∈ fs, IsName (memberName f.name)
  bits : ∀ f ∈ fs, ∀ b ∈ f.bits, IsName (memberName b.name)
  members : Fresh seen (fs.map fun f => memberName f.name)

section

variable {d : Device} {r : Register} {type : String}

theorem addMasks_enters (f : Field) (m : Member) (name : m.name = memberName f.name)
    (scope : Names) (bs : List BitRange) :
    Enters scope (∀ b ∈ bs, IsName (memberName b.name))
      (bs.map fun b => type ++ memberName f.name ++ memberName b.name ++ "Mask")
      (addMasks r f type m scope bs) := by
  induction bs generalizing scope with
  | nil => exact Enters.nothing.congr (by simp) (.refl _)
  | cons b bs ih =>
    refine (Enters.named fun _ => (Enters.add scope _ _).andThen ih).congr ?_ ?_
    · simp
    · simp [maskOf, name]

theorem addConstants_enters (scope : Names) (cs : List Constant) :
    Enters scope (∀ c ∈ cs, IsName (memberName c.name)) (constantNames type cs)
      (addConstants r type scope cs) := by
  induction cs generalizing scope with
  | nil => exact Enters.nothing.congr (by simp) (.refl _)
  | cons c cs ih =>
    refine (Enters.named fun _ => (Enters.add scope _ _).andThen ih).congr ?_ ?_
    · simp
    · simp [constantNames, constantOf]

theorem addFields_enters (scope members : Names) (fs : List Field) :
    Enters scope (WellNamed members.all fs) (fs.flatMap (maskNames type))
      (addFields d r type scope members fs) := by
  induction fs generalizing scope members with
  | nil =>
    refine Enters.nothing.congr (iff_of_true ?_ trivial) (.refl _)
    exact ⟨by simp, by simp, fresh_nil _⟩
  | cons f fs ih =>
    have entered : Enters scope
        (IsName (memberName f.name) ∧ memberName f.name ∉ members.all ∧
          (∀ b ∈ f.bits, IsName (memberName b.name)) ∧
            WellNamed (memberName f.name :: members.all) fs)
        (maskNames type f ++ fs.flatMap (maskNames type))
        (addFields d r type scope members (f :: fs)) := by
      refine Enters.named fun _ => Enters.guard (fun more added => ?_) fun e failed => ?_
      · obtain ⟨new, rfl⟩ := Names.add_eq_ok_iff.1 added
        exact ⟨new, (addMasks_enters f _ rfl scope f.bits).andThen fun between =>
          ih between ((memberName f.name, _) :: members)⟩
      · obtain ⟨naming, known⟩ := Names.add_eq_error failed
        exact ⟨naming, not_not.2 known⟩
    refine entered.congr ⟨?_, ?_⟩ (.refl _)
    · rintro ⟨named, bits, fresh⟩
      obtain ⟨new, rest⟩ := (fresh_cons_iff _ _ _).1 fresh
      obtain ⟨field, fields⟩ := List.forall_mem_cons.1 named
      obtain ⟨masks, others⟩ := List.forall_mem_cons.1 bits
      exact ⟨field, new, masks, fields, others, rest⟩
    · rintro ⟨field, new, masks, fields, others, rest⟩
      exact ⟨List.forall_mem_cons.2 ⟨field, fields⟩, List.forall_mem_cons.2 ⟨masks, others⟩,
        (fresh_cons_iff _ _ _).2 ⟨new, rest⟩⟩

/-- The rules for the names of one register. -/
structure RegisterNamed (r : Register) : Prop where
  type : IsName (typeName r.name)
  fields : WellNamed methodNames r.fields
  constants : ∀ c ∈ r.constants, IsName (memberName c.name)

theorem addRegister_enters (scope : Names) (r : Register) :
    Enters scope (RegisterNamed r) (identifiers r) (addRegister d scope r) := by
  have methods : Names.all methodScope = methodNames := by
    rw [Names.all, methodScope, List.map_map]
    exact List.map_id _
  refine (Enters.named fun _ => (Enters.add scope _ _).andThen fun _ =>
    (Enters.add _ _ _).andThen fun _ => (addFields_enters _ _ _).andThen fun _ =>
      addConstants_enters _ _).congr ?_ ?_
  · rw [methods]
    constructor
    · rintro ⟨type, fields, constants⟩
      exact ⟨type, trivial, trivial, fields, constants⟩
    · rintro ⟨type, -, -, fields, constants⟩
      exact ⟨type, fields, constants⟩
  · -- The masks are entered before the constants.
    refine .cons _ (.cons _ ?_)
    exact List.perm_append_comm

theorem addRegisters_enters (scope : Names) (rs : List Register) :
    Enters scope (∀ r ∈ rs, RegisterNamed r) (rs.flatMap identifiers)
      (addRegisters d scope rs) := by
  induction rs generalizing scope with
  | nil => exact Enters.nothing.congr (by simp) (.refl _)
  | cons r rs ih =>
    refine ((addRegister_enters scope r).andThen ih).congr ?_ ?_
    · simp
    · simp

end

/-! ## What is declared -/

/-- The characters an identifier goes on with. -/
def isNamePart (c : Char) : Bool :=
  Text.isLetter c || c == '_' || Text.isDecimalDigit c

theorem IsName.parts {s : String} (name : IsName s) : ∀ c ∈ s.toList, isNamePart c = true := by
  have identifier := name.1
  unfold isIdentifier at identifier
  cases chars : s.toList with
  | nil => simp
  | cons c cs =>
    rw [chars] at identifier
    simp only [Bool.and_eq_true, List.all_eq_true] at identifier
    refine List.forall_mem_cons.2 ⟨?_, identifier.1.2⟩
    rw [isNamePart, identifier.1.1, Bool.true_or]

/-- The reserved words start with lower-case letters. -/
theorem not_mem_keywords {s : String} (exported : isExported s = true) : s ∉ keywords := by
  intro keyword
  have hidden : ∀ k ∈ keywords, isExported k = false := by decide +kernel
  rw [hidden s keyword] at exported
  cases exported

theorem IsName.append {s t : String} (name : IsName s)
    (parts : ∀ c ∈ t.toList, isNamePart c = true) : IsName (s ++ t) := by
  obtain ⟨identifier, exported⟩ := name
  have exportedBoth : isExported (s ++ t) = true := by
    unfold isExported at exported ⊢
    rw [String.toList_append]
    cases chars : s.toList with
    | nil => simp [chars] at exported
    | cons c cs => simpa [chars] using exported
  refine ⟨?_, exportedBoth⟩
  have new := not_mem_keywords exportedBoth
  unfold isIdentifier at identifier ⊢
  rw [String.toList_append]
  cases chars : s.toList with
  | nil => simp [chars] at identifier
  | cons c cs =>
    rw [chars] at identifier
    simp only [Bool.and_eq_true, List.all_eq_true] at identifier
    simp only [List.cons_append, Bool.and_eq_true, List.all_eq_true, List.forall_mem_append,
      Bool.not_eq_true', List.contains_eq_mem, decide_eq_false_iff_not]
    exact ⟨⟨identifier.1.1, identifier.1.2, parts⟩, new⟩

theorem RegisterNamed.identifiers {r : Register} (named : RegisterNamed r) :
    ∀ name ∈ identifiers r, IsName name := by
  have mask : ∀ c ∈ "Mask".toList, isNamePart c = true := List.all_eq_true.1 (by decide +kernel)
  have number : ∀ c ∈ "ID".toList, isNamePart c = true := List.all_eq_true.1 (by decide +kernel)
  simp only [Generated.identifiers, List.forall_mem_append, List.forall_mem_cons, constantNames,
    maskNames, List.forall_mem_map, List.forall_mem_flatMap]
  refine ⟨⟨⟨named.type, named.type.append number, by simp⟩, ?_⟩, ?_⟩
  · exact fun c member => named.type.append (named.constants c member).parts
  · intro f member b inside
    exact ((named.type.append (named.fields.fields f member).parts).append
      (named.fields.bits f member b inside).parts).append mask

theorem identifiers_typeOf (d : Device) (i : Nat) (r : Register) :
    (typeOf d i r).identifiers = identifiers r := by
  simp only [TypeDef.identifiers, typeOf, identifiers, constantNames, List.map_map,
    List.map_flatMap]
  rfl

theorem scope_typeOf (d : Device) (i : Nat) (r : Register) :
    (typeOf d i r).scope = memberNames r ++ methodNames := by
  have op : ∀ op, (methodOf d r (d.registerSize i) op).op = op := by
    intro op
    unfold methodOf
    split <;> rfl
  simp only [TypeDef.scope, typeOf, memberNames, methodNames, List.map_map, Function.comp_def, op]
  rfl

theorem flatMap_typesFrom (d : Device) (i : Nat) (rs : List Register) :
    (typesFrom d i rs).flatMap TypeDef.identifiers = rs.flatMap identifiers := by
  induction rs generalizing i with
  | nil => rfl
  | cons r rs ih => rw [typesFrom, List.flatMap_cons, List.flatMap_cons, identifiers_typeOf, ih]

theorem registerNamed_iff (r : Register) :
    RegisterNamed r ↔ (∀ name ∈ convertedNames r, IsName name) ∧ (memberNames r).Nodup ∧
      ∀ name ∈ memberNames r, name ∉ methodNames := by
  simp only [convertedNames, List.cons_append, List.forall_mem_cons, List.forall_mem_append,
    memberNames, List.forall_mem_map, List.forall_mem_flatMap]
  constructor
  · rintro ⟨type, ⟨fields, bits, distinct, apart⟩, constants⟩
    exact ⟨⟨type, ⟨fields, bits⟩, constants⟩, distinct, fun f member =>
      apart _ (List.mem_map_of_mem member)⟩
  · rintro ⟨⟨type, ⟨fields, bits⟩, constants⟩, distinct, apart⟩
    exact ⟨type, ⟨fields, bits, distinct, List.forall_mem_map.2 apart⟩, constants⟩

/-! ## Packages -/

section

variable {d : Device} {package : String} {p : Package}

theorem generate_eq (valid : d.validate = .ok ()) (identifier : isIdentifier package = true) :
    generate d package = addRegisters d [] d.registers >>= fun _ =>
      if documentationFits d then
        .ok { name := package, doc := d.doc, types := typesFrom d 0 d.registers }
      else .error .unformattable := by
  unfold generate
  simp only [identifier, valid]
  cases documentationFits d <;> rfl

theorem generate_naming_iff (valid : d.validate = .ok ())
    (identifier : isIdentifier package = true) :
    (∃ e, generate d package = .error e ∧ e.IsNaming) ↔
      ¬ ((∀ r ∈ d.registers, RegisterNamed r) ∧ (d.registers.flatMap identifiers).Nodup) := by
  have entered := addRegisters_enters (d := d) [] d.registers
  have empty : Names.all [] = [] := rfl
  rw [generate_eq valid identifier, ← fresh_of_nil_iff, ← empty]
  cases made : addRegisters d [] d.registers with
  | error e =>
    obtain ⟨naming, not⟩ := entered.failure e made
    exact iff_of_true ⟨e, rfl, naming⟩ not
  | ok scope =>
    refine iff_of_false ?_ (not_not.2 (entered.success scope made).1)
    rintro ⟨e, failed, naming⟩
    change (if documentationFits d then _ else _) = _ at failed
    split at failed
    · cases failed
    · cases failed
      cases naming

theorem valid_of_generate (generated : generate d package = .ok p) :
    d.validate = .ok () ∧ isIdentifier package = true := by
  unfold generate at generated
  cases identifier : isIdentifier package with
  | false =>
    rw [identifier] at generated
    cases generated
  | true =>
    cases valid : d.validate with
    | ok nothing => exact ⟨rfl, rfl⟩
    | error e =>
      rw [identifier, valid] at generated
      cases generated

/-- The names of a device that a package was generated for keep all rules. -/
theorem named_of_generate (generated : generate d package = .ok p) :
    (∀ r ∈ d.registers, RegisterNamed r) ∧ (d.registers.flatMap identifiers).Nodup := by
  obtain ⟨valid, identifier⟩ := valid_of_generate generated
  by_contra broken
  obtain ⟨e, failed, -⟩ := (generate_naming_iff valid identifier).2 broken
  rw [generated] at failed
  cases failed

/-- The type of a nested field is one of the package. -/
theorem Accepted.nested_declared (accepted : Accepted d p) {r : Register} (own : r ∈ d.registers)
    {f : Field} (within : f ∈ r.fields) {type : String} (nested : shapeOf d f = .nested type) :
    type ∈ p.types.map TypeDef.name := by
  obtain ⟨j, held⟩ := of_shapeOf_nested nested
  obtain ⟨-, -, inner, ownInner, -⟩ :=
    (accepted.consistent.registers r own).registers f within j held
  have same := (shapeOf_nested held ownInner).symm.trans nested
  cases same
  exact List.mem_map_of_mem (f := TypeDef.name) (accepted.mem_types ownInner)

/-- Generating fails because of a name exactly if a name of a register, a field, a bit range or a
    constant does not become an exported identifier, two identifiers of the package are equal, or a
    field has the name of another field or of a method. So in a generated package all identifiers
    are exported ones, those of the package are distinct, and so are the fields and methods of each
    struct; the types of all nested fields are declared. -/
theorem generate_reports_clashes (valid : d.validate = .ok ())
    (identifier : isIdentifier package = true) :
    ((∃ e, generate d package = .error e ∧ e.IsNaming) ↔
      (∃ r ∈ d.registers, ∃ name ∈ convertedNames r, ¬ IsName name) ∨
      ¬ (d.registers.flatMap identifiers).Nodup ∨
      (∃ r ∈ d.registers, ¬ (memberNames r).Nodup) ∨
      ∃ r ∈ d.registers, ∃ name ∈ memberNames r, name ∈ methodNames) ∧
    ∀ p, generate d package = .ok p →
      (p.types.flatMap TypeDef.identifiers).Nodup ∧
      (∀ name ∈ p.types.flatMap TypeDef.identifiers, IsName name) ∧
      ∀ t ∈ p.types, t.scope.Nodup ∧ (∀ name ∈ t.scope, IsName name) ∧
        ∀ m ∈ t.members, ∀ type, m.shape = .nested type → type ∈ p.types.map TypeDef.name := by
  refine ⟨?_, fun p generated => ?_⟩
  · rw [generate_naming_iff valid identifier]
    simp only [registerNamed_iff]
    constructor
    · intro broken
      by_contra! kept
      obtain ⟨names, distinct, members, apart⟩ := kept
      exact broken ⟨fun r member => ⟨names r member, members r member, apart r member⟩, distinct⟩
    · rintro (⟨r, member, name, converted, bad⟩ | clash | ⟨r, member, clash⟩ |
        ⟨r, member, name, converted, method⟩) ⟨named, distinct⟩
      · exact bad ((named r member).1 name converted)
      · exact clash distinct
      · exact clash (named r member).2.1
      · exact (named r member).2.2 name converted method
  · obtain ⟨named, distinct⟩ := named_of_generate generated
    have accepted := Accepted.of_generate generated
    rw [accepted.types, flatMap_typesFrom, List.forall_mem_flatMap]
    refine ⟨distinct, fun r member => (named r member).identifiers, fun t member => ?_⟩
    rw [← accepted.types] at member ⊢
    obtain ⟨i, r, own, rfl⟩ := accepted.exists_typeOf member
    have ownMember := List.mem_of_getElem? own
    obtain ⟨names, members, apart⟩ := (registerNamed_iff r).1 (named r ownMember)
    rw [scope_typeOf]
    refine ⟨?_, ?_, ?_⟩
    · have methods : methodNames.Nodup := by decide +kernel
      refine List.nodup_append.2 ⟨members, methods, ?_⟩
      rintro name member _ method rfl
      exact apart name member method
    · have methods : ∀ name ∈ methodNames, isIdentifier name = true ∧ isExported name = true := by
        decide +kernel
      refine List.forall_mem_append.2 ⟨fun name member => names name ?_, methods⟩
      exact List.mem_append_left _ (List.mem_append_left _ (List.mem_cons_of_mem _ member))
    · simp only [typeOf, List.forall_mem_map]
      exact fun f within type nested => accepted.nested_declared ownMember within nested

end

/-- A constant whose identifier is the one of the register's number. -/
def clashing : Device where
  name := "lab"
  registers :=
    [{ name := "a", id := 1, direction := .readWrite,
       fields := [{ name := "size_of", kind := .uint8, access := .readWrite }],
       constants := [⟨"iD", ⟨.uint8, 7⟩, []⟩] }]

theorem clashing_reported :
    (clashing.validate = .ok () ∧ isIdentifier "lab" = true) ∧
      (∃ e, generate clashing "lab" = .error e ∧ e.IsNaming) ∧
      (∃ p, generate probe "probe" = .ok p ∧ (p.types.flatMap TypeDef.identifiers).Nodup) := by
  have valid : clashing.validate = .ok () := by decide +kernel
  have identifier : isIdentifier "lab" = true := by decide +kernel
  have twice : ¬ (clashing.registers.flatMap identifiers).Nodup := by decide +kernel
  refine ⟨⟨valid, identifier⟩, ?_, ?_⟩
  · exact (generate_reports_clashes valid identifier).1.2 (.inr (.inl twice))
  · have accepts : (generate probe "probe").toOption.isSome = true := by decide +kernel
    obtain ⟨p, generated⟩ := exists_ok_of_isSome accepts
    obtain ⟨valid, identifier⟩ := valid_of_generate generated
    exact ⟨p, generated, ((generate_reports_clashes valid identifier).2 p generated).1⟩

end RegisterMap.Generated
