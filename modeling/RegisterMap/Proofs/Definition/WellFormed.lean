import RegisterMap.Definition.Elaboration
import RegisterMap.Proofs.Definition.Printing
import RegisterMap.Proofs.Numeral.Literal

/-! # Well-formed definitions

The rules a definition has to obey are stated on its syntax tree alone: `Document.WellFormed`. What
device such a tree stands for is `Document.Describes`, declaration by declaration and in source
order; documentation apart, it leaves nothing open. Neither of them mentions an order of checks.

Numbers of a tree are texts. `denoted` gives the number such a text stands for, and the reader of
literals agrees with it on all number tokens (`IsToken.readUnsigned_eq`). -/

namespace RegisterMap.Definition

/-! ## Numbers -/

/-- The number a number token denotes: in the base of its mark, or else in base ten. -/
def denoted (text : String) : Nat :=
  match text.toList with
  | '0' :: mark :: digits =>
    match baseMarks.lookup mark with
    | some base => Numeral.numberOf base digits
    | none => Numeral.numberOf 10 ('0' :: mark :: digits)
  | digits => Numeral.numberOf 10 digits

theorem isDigit_of_isDigitOf {base : Nat} {c : Char} (digit : isDigitOf base c = true) :
    Numeral.IsDigit base c := by
  unfold isDigitOf at digit
  split at digit
  · next d value => exact ⟨d, by simpa using digit, value⟩
  · cases digit

theorem lookup_of_mem_baseMarks {mark : Char} {base : Nat} (marked : (mark, base) ∈ baseMarks) :
    baseMarks.lookup mark = some base := by
  simp only [baseMarks, List.mem_cons, Prod.mk.injEq, List.not_mem_nil, or_false] at marked
  rcases marked with ⟨rfl, rfl⟩ | ⟨rfl, rfl⟩ | ⟨rfl, rfl⟩ | ⟨rfl, rfl⟩ | ⟨rfl, rfl⟩ | ⟨rfl, rfl⟩ <;>
    rfl

theorem lookup_of_decimal {c : Char} (digit : Numeral.IsDigit 10 c) :
    baseMarks.lookup c = none := by
  have range := digit.decimal_range
  rw [List.lookup_eq_none_iff]
  intro e member
  simp only [baseMarks, List.mem_cons, List.not_mem_nil, or_false] at member
  rcases member with rfl | rfl | rfl | rfl | rfl | rfl <;>
    · rw [bne_iff_ne]
      rintro rfl
      revert range
      decide

/-- The base that a token announces, with its digits, which spell the number it denotes. -/
theorem IsToken.exists_announced {cs : List Char} (token : IsToken .number cs) :
    ∃ base digits, 0 < base ∧
      (if Numeral.hasBaseMark cs then Numeral.announcedBase cs else (10, cs)) = (base, digits) ∧
      (∀ c ∈ digits, Numeral.IsDigit base c) ∧
      denoted (String.ofList cs) = Numeral.numberOf base digits := by
  cases token with
  | @based mark base digits marked nonempty proper =>
    refine ⟨base, digits, ?_, ?_, fun c member => isDigit_of_isDigitOf (proper c member), ?_⟩
    · simp only [baseMarks, List.mem_cons, Prod.mk.injEq, List.not_mem_nil, or_false] at marked
      omega
    · obtain ⟨c, cs, rfl⟩ := List.exists_cons_of_ne_nil nonempty
      simp only [baseMarks, List.mem_cons, Prod.mk.injEq, List.not_mem_nil, or_false] at marked
      rcases marked with ⟨rfl, rfl⟩ | ⟨rfl, rfl⟩ | ⟨rfl, rfl⟩ | ⟨rfl, rfl⟩ | ⟨rfl, rfl⟩ |
        ⟨rfl, rfl⟩ <;> rfl
    · simp [denoted, lookup_of_mem_baseMarks marked]
  | decimal nonempty proper =>
    have digits : ∀ c ∈ cs, Numeral.IsDigit 10 c :=
      fun c member => isDigit_of_isDigitOf (proper c member)
    refine ⟨10, cs, by omega, ?_, digits, ?_⟩
    · rw [Numeral.hasBaseMark_decimal digits]
      rfl
    · rw [denoted, String.toList_ofList]
      split
      · next mark rest =>
        -- Behind a leading zero stands a digit, so no base is announced.
        rw [lookup_of_decimal (digits mark (by simp))]
      · rfl

/-- The reader gives the number a token denotes, if it has room for it. -/
theorem IsToken.readUnsigned_eq {text : String} (token : IsToken .number text.toList) {width : Nat}
    (wide : 0 < width) (narrow : width ≤ 64) :
    Numeral.readUnsigned text.toList width = .within width (denoted text) := by
  obtain ⟨base, digits, positive, announced, proper, number⟩ := token.exists_announced
  rw [String.ofList_toList] at number
  rw [number]
  exact Numeral.readUnsigned_eq token.ne_nil wide narrow positive announced proper

/-! ## Declarations of a tree -/

/-- The text names one of the scalar kinds. -/
def NamesKind (text : String) (kind : Kind) : Prop :=
  kind ∈ Kind.scalars ∧ kind.name = text

/-- A bit range without a last bit ends with its first one. -/
def BitDecl.range (b : BitDecl) : BitRange :=
  ⟨b.name, denoted b.first, denoted (b.last.getD b.first)⟩

/-- The fields that items of a body declare. -/
def fieldsOf (items : List BodyItem) : List FieldDecl :=
  items.filterMap fun
    | .field f => some f
    | _ => none

/-- The constants that items of a body declare. -/
def constantsOf (items : List BodyItem) : List ConstantDecl :=
  items.filterMap fun
    | .constant c => some c
    | _ => none

/-- The registers that items of a document declare. -/
def registersOf (items : List TopItem) : List RegisterDecl :=
  items.filterMap fun
    | .register r => some r
    | .comment _ => none

/-- The direction of a declared register: both sides unless the declaration names one. -/
def RegisterDecl.direction (r : RegisterDecl) : Direction :=
  declaredDirection r.access

/-- The access of a declared field: that of its register unless the declaration names a side. -/
def FieldDecl.accessIn (f : FieldDecl) (outer : RegisterDecl) : Direction :=
  match f.access with
  | some side => side.direction
  | none => outer.direction

/-! ## Rules -/

/-- The rules for a field of `outer`, given the registers declared before `outer`. -/
structure FieldDecl.WellFormed (earlier : List RegisterDecl) (outer : RegisterDecl)
    (f : FieldDecl) : Prop where
  /-- The type is a kind, or else a register declared before that takes part in all sides. -/
  type : (∃ kind, NamesKind f.type kind) ∨
    ∃ inner ∈ earlier, inner.name = f.type ∧
      ∀ side, outer.direction.includes side = true → inner.direction.includes side = true
  size : ∀ size, f.size = some size → (∃ kind, NamesKind f.type kind) ∧
    ∃ text, size = .number text ∧ 1 ≤ denoted text ∧ denoted text ≤ 65535
  bits : f.bits ≠ [] → f.size = none ∧
    ∃ kind, NamesKind f.type kind ∧ kind.isUnsigned = true ∧
      ∀ b ∈ f.bits, denoted b.first ≤ denoted (b.last.getD b.first) ∧
        denoted (b.last.getD b.first) < kind.bits
  access : (outer.access = some .read → f.access ≠ some .write) ∧
    (outer.access = some .write → f.access ≠ some .read)

/-- The rules for a constant: its type is a kind that accepts its text. -/
def ConstantDecl.WellFormed (c : ConstantDecl) : Prop :=
  ∃ kind value, NamesKind c.type kind ∧ Value.parse? kind c.value = .ok value

structure RegisterDecl.WellFormed (earlier : List RegisterDecl) (r : RegisterDecl) : Prop where
  number : denoted r.number ≤ 255
  fields : ∀ f ∈ fieldsOf r.items, f.WellFormed earlier r
  constants : ∀ c ∈ constantsOf r.items, c.WellFormed
  names : ((fieldsOf r.items).map FieldDecl.name ++
    (constantsOf r.items).map ConstantDecl.name).Nodup

structure Document.WellFormed (doc : Document) : Prop where
  numbers : ((registersOf doc.items).map fun r => denoted r.number).Nodup
  names : ((registersOf doc.items).map RegisterDecl.name).Nodup
  registers : ∀ (i : Nat) (r : RegisterDecl), (registersOf doc.items)[i]? = some r →
    r.WellFormed ((registersOf doc.items).take i)

/-! ## Meaning -/

/-- The field that a declaration in `outer` stands for. -/
structure FieldDecl.Describes (earlier : List RegisterDecl) (outer : RegisterDecl)
    (decl : FieldDecl) (f : Field) : Prop where
  name : f.name = decl.name
  access : f.access = decl.accessIn outer
  count : f.count = (decl.size.elim 0 fun size => denoted size.text : Nat)
  bits : f.bits = decl.bits.map BitDecl.range
  scalar : ∀ kind, NamesKind decl.type kind → f.register = none ∧ f.kind = kind
  register : (¬ ∃ kind, NamesKind decl.type kind) → f.kind = Kind.none ∧
    ∃ j inner, f.register = some j ∧ earlier[j]? = some inner ∧ inner.name = decl.type

/-- The constant that a declaration stands for. -/
structure ConstantDecl.Describes (decl : ConstantDecl) (c : Constant) : Prop where
  name : c.name = decl.name
  kind : NamesKind decl.type c.value.kind
  value : Value.parse? c.value.kind decl.value = .ok c.value

structure RegisterDecl.Describes (earlier : List RegisterDecl) (decl : RegisterDecl)
    (r : Register) : Prop where
  name : r.name = decl.name
  id : r.id.toNat = denoted decl.number
  direction : r.direction = decl.direction
  fields : List.Forall₂ (FieldDecl.Describes earlier decl) (fieldsOf decl.items) r.fields
  constants : List.Forall₂ ConstantDecl.Describes (constantsOf decl.items) r.constants

/-- The registers stand for the declarations, one for one and in order. -/
structure Elaborated (decls : List RegisterDecl) (registers : List Register) : Prop where
  length : registers.length = decls.length
  each : ∀ (i : Nat) (decl : RegisterDecl) (r : Register), decls[i]? = some decl →
    registers[i]? = some r → decl.Describes (decls.take i) r

structure Document.Describes (doc : Document) (d : Device) : Prop where
  name : d.name = doc.name
  own : d.foreign = []
  registers : Elaborated (registersOf doc.items) d.registers

end RegisterMap.Definition
