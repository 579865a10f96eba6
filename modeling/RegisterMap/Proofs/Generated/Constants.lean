import RegisterMap.Proofs.Definition.Loading
import RegisterMap.Proofs.Generated.Naming
import RegisterMap.Proofs.Value.Constant

/-! # Constants of a generated package

A constant of a package is declared with a type and a literal, so its pattern is that of an exact
constant that is converted to the type. Constants of a definition are numbers written with digits,
hence finite, and masks are within the field they belong to. Both come back as they were defined,
except for one: a negative zero is printed as `-0`, and that is zero. -/

namespace RegisterMap

/-! ## Constants of a definition -/

namespace Definition

theorem IsToken.exists_digit {cs : List Char} (token : IsToken .number cs) :
    ∃ c rest, cs = c :: rest ∧ Numeral.IsDigit 10 c := by
  cases token with
  | based => exact ⟨_, _, rfl, by decide⟩
  | decimal nonempty proper =>
    obtain ⟨c, rest, rfl⟩ := List.exists_cons_of_ne_nil nonempty
    exact ⟨c, rest, rfl, isDigit_of_isDigitOf (proper c List.mem_cons_self)⟩

/-- The value of a constant is written with digits. -/
theorem ConstantDecl.readSpecial?_value {decl : ConstantDecl} (lexed : Lexed decl.lexemes) :
    Numeral.readSpecial? decl.value.toList = none := by
  have token : IsToken .number decl.magnitude.toList :=
    lexed.number (by simp [ConstantDecl.lexemes, signedLexemes])
  obtain ⟨c, rest, text, digit⟩ := token.exists_digit
  have signed : decl.value.toList = c :: rest ∨ decl.value.toList = '-' :: c :: rest := by
    rw [ConstantDecl.value]
    split_ifs
    · exact .inr (by simp [text])
    · exact .inl text
  exact (digit.readSpecial?_eq signed).2

theorem constant_of_load {source : String} {d : Device} (loaded : load source = .ok d)
    {r : Register} (own : r ∈ d.registers) {c : Constant} (declared : c ∈ r.constants) :
    c.value.kind ∈ Kind.scalars ∧ c.value.WellFormed ∧ c.value.Finite := by
  obtain ⟨doc, parsed⟩ := exists_parse_of_load loaded
  have lexed := lexed_of_parse parsed
  have elaborated :=
    (Document.of_device? lexed ((load_eq_ok_iff parsed).1 loaded).1).1.registers
  obtain ⟨i, place⟩ := List.getElem?_of_mem own
  obtain ⟨decl, declAt⟩ := elaborated.exists_decl place
  obtain ⟨constantDecl, inside, described⟩ :=
    exists_of_forall₂_right (elaborated.each i decl r declAt place).constants declared
  have lexedRegister := lexed _ (mem_registersOf.1 (List.mem_of_getElem? declAt))
  have lexedConstant := RegisterDecl.lexed_items lexedRegister _ (mem_constantsOf.1 inside)
  exact ⟨described.kind.1, (Value.isOf_parse described.value).wellFormed,
    Value.finite_of_parse? described.value (ConstantDecl.readSpecial?_value lexedConstant)⟩

end Definition

/-! ## Masks -/

/-- The bits of a mask are those of the range. -/
theorem BitRange.testBit_mask {b : BitRange} (start : 0 ≤ b.first) (ordered : b.first ≤ b.last)
    (within : b.last < 64) (i : Nat) :
    b.mask.testBit i = true ↔ b.first ≤ i ∧ (i : Int) ≤ b.last := by
  obtain ⟨a, first⟩ := Int.eq_ofNat_of_zero_le start
  obtain ⟨n, last⟩ := Int.exists_add_of_le ordered
  have width : b.last - b.first + 1 = (n + 1 : Nat) := by omega
  rw [mask, width, last, first]
  -- A range as wide as the word is apart from the others, where ones are shifted.
  simp only [Nat.pow_eq, Int.toNat_natCast]
  split_ifs with full _ place
  · rw [Nat.testBit_two_pow_sub_one, decide_eq_true_eq]
    omega
  · rw [Nat.testBit_mod_two_pow, Nat.testBit_mul_two_pow, Nat.testBit_two_pow_sub_one]
    simp only [Bool.and_eq_true, decide_eq_true_eq]
    omega
  all_goals omega

theorem BitRange.mask_lt {b : BitRange} (start : 0 ≤ b.first) (ordered : b.first ≤ b.last)
    {width : Nat} (narrow : width ≤ 64) (within : b.last < width) : b.mask < 2 ^ width := by
  apply Nat.lt_pow_two_of_testBit
  intro i beyond
  rw [← Bool.not_eq_true, testBit_mask start ordered (by omega)]
  omega

namespace Generated

/-! ## Declarations -/

/-- The pattern that the literal of a constant has in its type. -/
def ConstantDef.pattern? (c : ConstantDef) : Option Nat :=
  (Kind.ofName? c.type).bind fun k => k.readConstant? c.literal

/-- The declaration gives a constant of a register its value, unless that is a negative zero, which
    loses its sign. -/
structure ConstantDef.Denotes (type : String) (c : ConstantDef) (constant : Constant) : Prop where
  name : c.name = type ++ memberName constant.name
  type : c.type = constant.value.kind.name
  pattern : c.pattern? = some (if constant.value.isNegativeZero then 0 else constant.value.bits)

/-- The declaration is a mask of exactly the bits of a range. -/
structure ConstantDef.Masks (type : String) (c : ConstantDef) (place : Field × BitRange) :
    Prop where
  name : c.name = type ++ memberName place.1.name ++ memberName place.2.name ++ "Mask"
  type : c.type = place.1.kind.name
  pattern : ∃ mask, c.pattern? = some mask ∧
    ∀ i : Nat, mask.testBit i = true ↔ place.2.first ≤ i ∧ (i : Int) ≤ place.2.last

/-- The constants and the masks of a type are those of the register, one for one and in order. -/
structure TypeDef.Denotes (t : TypeDef) (r : Register) : Prop where
  register : t.register = r.name
  constants : List.Forall₂ (ConstantDef.Denotes t.name) t.constants r.constants
  masks : List.Forall₂ (ConstantDef.Masks t.name) t.masks
    (r.fields.flatMap fun f => f.bits.map fun b => (f, b))

theorem ofName?_name {k : Kind} (scalar : k ∈ Kind.scalars) : Kind.ofName? k.name = some k :=
  Definition.ofName?_eq_some_iff.2 ⟨scalar, rfl⟩

theorem scalar_cases {k : Kind} (scalar : k ∈ Kind.scalars) :
    k.isSigned = true ∨ k.isUnsigned = true ∨ ∃ f, k.floatFormat? = some f := by
  simp only [Kind.scalars, List.mem_cons, List.not_mem_nil, or_false] at scalar
  rcases scalar with rfl | rfl | rfl | rfl | rfl | rfl | rfl | rfl | rfl | rfl <;>
    simp [Kind.isSigned, Kind.isUnsigned, Kind.floatFormat?]

/-- The literal of a value reads as the value, but for a negative zero. -/
theorem readConstant?_literal {v : Value} (scalar : v.kind ∈ Kind.scalars)
    (wellFormed : v.WellFormed) (finite : v.Finite) :
    v.kind.readConstant? (literal v) = some (if v.isNegativeZero then 0 else v.bits) := by
  rcases scalar_cases scalar with signed | unsigned | ⟨f, format⟩
  · have integer : v.kind.IsInteger := .inl signed
    have inside := Value.signedOfBits_range integer.bits_range.1 wellFormed
    have noZero : v.isNegativeZero = false := by
      rw [Value.isNegativeZero, Value.floatFormat?_of_integer integer]
    rw [literal, signed, Bool.true_or, if_pos rfl, Value.text_of_signed signed,
      Kind.readConstant?_signedDecimal integer ((Kind.represents_iff_inWidth signed).2 inside),
      Value.signedOfBits_emod wellFormed, Int.toNat_natCast, noZero]
    rfl
  · have noZero : v.isNegativeZero = false := by
      rw [Value.isNegativeZero, Value.floatFormat?_of_integer (.inr unsigned)]
    have hexadecimal : (v.kind.isSigned || v.kind.isFloat) = false := by
      cases kind : v.kind <;> simp_all [Kind.isUnsigned, Kind.isSigned, Kind.isFloat]
    rw [literal, hexadecimal, if_neg Bool.false_ne_true,
      Kind.readConstant?_hex unsigned wellFormed, noZero]
    rfl
  · obtain ⟨notSigned, notUnsigned, float⟩ := Kind.isFloat_of_format format
    have small : v.bits < 2 ^ f.width := (Kind.bits_of_floatFormat format).1 ▸ wellFormed
    rw [literal, float, Bool.or_true, if_pos rfl, Value.text, if_neg notSigned, if_neg notUnsigned,
      format]
    dsimp only
    rw [Kind.readConstant?_render format small (finite f format), Value.isNegativeZero, format]
    simp only [beq_iff_eq]

theorem constantOf_denotes (type : String) {c : Constant} (scalar : c.value.kind ∈ Kind.scalars)
    (wellFormed : c.value.WellFormed) (finite : c.value.Finite) :
    (constantOf type c).Denotes type c := by
  refine ⟨rfl, rfl, ?_⟩
  rw [ConstantDef.pattern?, constantOf, ofName?_name scalar, Option.bind_some,
    readConstant?_literal scalar wellFormed finite]

theorem maskOf_masks (type : String) (d : Device) {f : Field} (held : f.register = none)
    (scalar : Device.ScalarField f) {b : BitRange} (inside : b ∈ f.bits) :
    (maskOf type (memberOf d f) b).Masks type (f, b) := by
  obtain ⟨single, unsigned⟩ := scalar.bits (List.ne_nil_of_mem inside)
  obtain ⟨start, ordered, within⟩ := scalar.ranges b inside
  have narrow : f.kind.bits ≤ 64 := (Kind.IsInteger.bits_range (.inr unsigned)).2
  have kind : (memberOf d f).shape.typeText = f.kind.name := by
    rw [memberOf]
    rcases shapeOf_scalar (d := d) held single with shape | shape <;> rw [shape, Shape.typeText]
  refine ⟨rfl, kind, b.mask, ?_, b.testBit_mask start ordered (by omega)⟩
  rw [ConstantDef.pattern?, maskOf, kind, ofName?_name scalar.kind, Option.bind_some,
    Kind.readConstant?_hex unsigned (b.mask_lt start ordered narrow within)]

theorem forall₂_typesFrom {d : Device} {related : TypeDef → Register → Prop} {i : Nat}
    {rs : List Register} (each : ∀ j, ∀ r ∈ rs, related (typeOf d j r) r) :
    List.Forall₂ related (typesFrom d i rs) rs := by
  induction rs generalizing i with
  | nil => exact .nil
  | cons r rs ih =>
    exact .cons (each i r List.mem_cons_self)
      (ih fun j s member => each j s (List.mem_cons_of_mem _ member))

/-- Every type of the package declares the constants and the masks of its register. -/
theorem generated_constants_denote {source : String} {d : Device} {package : String} {p : Package}
    (loaded : Definition.load source = .ok d) (generated : generate d package = .ok p) :
    List.Forall₂ TypeDef.Denotes p.types d.registers := by
  have accepted := Accepted.of_generate generated
  rw [accepted.types]
  apply forall₂_typesFrom
  intro i r own
  have consistent := accepted.consistent.registers r own
  refine ⟨rfl, ?_, ?_⟩
  · rw [typeOf, List.forall₂_map_left_iff, List.forall₂_same]
    intro c declared
    obtain ⟨scalar, wellFormed, finite⟩ := Definition.constant_of_load loaded own declared
    exact constantOf_denotes _ scalar wellFormed finite
  · have pairs : (typeOf d i r).masks =
        (r.fields.flatMap fun f => f.bits.map fun b => (f, b)).map fun place =>
          maskOf (typeName r.name) (memberOf d place.1) place.2 := by
      simp [typeOf, List.map_flatMap, Function.comp_def]
    rw [pairs, List.forall₂_map_left_iff, List.forall₂_same]
    intro place member
    obtain ⟨f, within, inside⟩ := List.mem_flatMap.1 member
    obtain ⟨b, covered, rfl⟩ := List.mem_map.1 inside
    -- Only fields of scalars have bit ranges.
    cases held : f.register with
    | none => exact maskOf_masks _ d held (consistent.scalars f within held) covered
    | some j =>
      rw [(consistent.registers f within j held).bits] at covered
      cases covered

/-- A file with a constant of each sort of kinds, the lowest and the highest number of two of them,
    and bit ranges up to the last bit. -/
def constantsFile : String :=
  "device d register R(1) \x7b const low = int8(-128); const high = uint64(0xffffffffffffffff); " ++
    "const large = float32(-16777217); x uint8 \x7b lo:0-3,hi:7 \x7d; \x7d;"

theorem constantsFile_denotes :
    ∃ d p, Definition.load constantsFile = .ok d ∧ generate d "lab" = .ok p ∧
      p.types.flatMap (fun t => (t.constants ++ t.masks).map fun c => (c.type, c.literal)) =
        [("int8", "-128"), ("uint64", "0xFFFFFFFFFFFFFFFF"), ("float32", "-1.6777216e+07"),
          ("uint8", "0xF"), ("uint8", "0x80")] ∧
      List.Forall₂ TypeDef.Denotes p.types d.registers := by
  have shown : ((Definition.load constantsFile).toOption.bind fun d =>
      (generate d "lab").toOption.map fun p =>
        p.types.flatMap fun t => (t.constants ++ t.masks).map fun c => (c.type, c.literal)) =
      some [("int8", "-128"), ("uint64", "0xFFFFFFFFFFFFFFFF"), ("float32", "-1.6777216e+07"),
        ("uint8", "0xF"), ("uint8", "0x80")] := by
    decide +kernel
  obtain ⟨d, loaded, made⟩ := exists_ok_of_bind shown
  obtain ⟨p, generated, literals⟩ := exists_ok_of_map made
  exact ⟨d, p, loaded, generated, literals, generated_constants_denote loaded generated⟩

/-- A file with a negative zero. -/
def negativeZeroFile : String :=
  "device d register R(1) \x7b const Z = float32(-0); x uint8; \x7d;"

/-- The value has its sign bit set, and the constant that is emitted for it is zero. -/
theorem negativeZero_denotes_zero :
    ∃ d p, Definition.load negativeZeroFile = .ok d ∧ generate d "lab" = .ok p ∧
      d.registers.flatMap (fun r => r.constants.map fun c => c.value) =
        [⟨.float32, 0x80000000⟩] ∧
      p.types.flatMap (fun t => t.constants.map fun c => (c.type, c.literal, c.pattern?)) =
        [("float32", "-0", some 0)] := by
  have shown : ((Definition.load negativeZeroFile).toOption.bind fun d =>
      (generate d "lab").toOption.map fun p =>
        (d.registers.flatMap fun r => r.constants.map fun c => c.value,
          p.types.flatMap fun t => t.constants.map fun c => (c.type, c.literal, c.pattern?))) =
      some ([⟨.float32, 0x80000000⟩], [("float32", "-0", some 0)]) := by
    decide +kernel
  obtain ⟨d, loaded, made⟩ := exists_ok_of_bind shown
  obtain ⟨p, generated, both⟩ := exists_ok_of_map made
  obtain ⟨values, literals⟩ := Prod.mk.inj both
  exact ⟨d, p, loaded, generated, values, literals⟩

end Generated

end RegisterMap
