import RegisterMap.Proofs.Definition.Elaboration
import RegisterMap.Proofs.Definition.Parsing

/-! # Loading accepts exactly the well-formed definitions

Registers are checked twice: each one as it is built, next to those before it, and all of them
again when the device is complete. Both checks ask for the same, since a register holds only
registers declared before it (`Elaborated.lt_of_holds`); so one equivalence between the rules of a
declaration and the check of its register serves for both (`RegisterDecl.wellFormed_iff`). -/

namespace RegisterMap.Definition

/-! ## Lists in step -/

theorem exists_of_forall₂_left {α β : Type} {related : α → β → Prop} {as : List α} {bs : List β}
    (all : List.Forall₂ related as bs) {a : α} (member : a ∈ as) : ∃ b ∈ bs, related a b := by
  induction all with
  | nil => cases member
  | cons first _ ih =>
    rcases List.mem_cons.1 member with rfl | member
    · exact ⟨_, List.mem_cons_self, first⟩
    · obtain ⟨b, inside, holds⟩ := ih member
      exact ⟨b, List.mem_cons_of_mem _ inside, holds⟩

theorem exists_of_forall₂_right {α β : Type} {related : α → β → Prop} {as : List α} {bs : List β}
    (all : List.Forall₂ related as bs) {b : β} (member : b ∈ bs) : ∃ a ∈ as, related a b :=
  exists_of_forall₂_left all.flip member

theorem map_eq_of_forall₂ {α β γ : Type} {related : α → β → Prop} {f : α → γ} {g : β → γ}
    (same : ∀ a b, related a b → g b = f a) {as : List α} {bs : List β}
    (all : List.Forall₂ related as bs) : bs.map g = as.map f := by
  induction all with
  | nil => rfl
  | cons first _ ih => rw [List.map_cons, List.map_cons, same _ _ first, ih]

/-! ## Declarations that can be read -/

theorem bits_le_of_namesKind {text : String} {kind : Kind} (named : NamesKind text kind) :
    kind.bits ≤ 64 := by
  obtain ⟨member, -⟩ := named
  cases kind <;> simp_all [Kind.bits, Kind.size, Kind.scalars]

theorem FieldDecl.WellFormed.readable {earlier : List RegisterDecl} {outer : RegisterDecl}
    {decl : FieldDecl} (wellFormed : decl.WellFormed earlier outer) :
    decl.Readable (earlier.map RegisterDecl.name) := by
  refine ⟨?_, fun size given => (wellFormed.size size given).2, ?_⟩
  · rcases wellFormed.type with named | ⟨inner, member, name, -⟩
    · exact .inl named
    · exact .inr (name ▸ List.mem_map_of_mem member)
  · intro b member
    obtain ⟨-, kind, named, -, ranges⟩ := wellFormed.bits (List.ne_nil_of_mem member)
    obtain ⟨ordered, inside⟩ := ranges b member
    have narrow := bits_le_of_namesKind named
    exact ⟨by omega, by omega⟩

theorem mem_fieldsOf {items : List BodyItem} {decl : FieldDecl} :
    decl ∈ fieldsOf items ↔ .field decl ∈ items := by
  simp only [fieldsOf, List.mem_filterMap]
  constructor
  · rintro ⟨item, member, same⟩
    cases item with
    | field f =>
      cases same
      exact member
    | comment c => cases same
    | constant c => cases same
  · exact fun member => ⟨_, member, rfl⟩

theorem mem_constantsOf {items : List BodyItem} {decl : ConstantDecl} :
    decl ∈ constantsOf items ↔ .constant decl ∈ items := by
  simp only [constantsOf, List.mem_filterMap]
  constructor
  · rintro ⟨item, member, same⟩
    cases item with
    | constant c =>
      cases same
      exact member
    | comment c => cases same
    | field f => cases same
  · exact fun member => ⟨_, member, rfl⟩

theorem mem_registersOf {items : List TopItem} {decl : RegisterDecl} :
    decl ∈ registersOf items ↔ .register decl ∈ items := by
  simp only [registersOf, List.mem_filterMap]
  constructor
  · rintro ⟨item, member, same⟩
    cases item with
    | register r =>
      cases same
      exact member
    | comment c => cases same
  · exact fun member => ⟨_, member, rfl⟩

theorem RegisterDecl.WellFormed.readable {earlier : List RegisterDecl} {decl : RegisterDecl}
    (wellFormed : decl.WellFormed earlier) : decl.Readable earlier := by
  refine ⟨wellFormed.number, ?_⟩
  intro item member
  cases item with
  | comment c => trivial
  | constant c => exact wellFormed.constants c (mem_constantsOf.2 member)
  | field f => exact (wellFormed.fields f (mem_fieldsOf.2 member)).readable

/-! ## Order of declaration -/

section

variable {decls : List RegisterDecl} {d : Device}

theorem Elaborated.exists_decl (elaborated : Elaborated decls d.registers) {i : Nat}
    {r : Register} (own : d.registers[i]? = some r) : ∃ decl, decls[i]? = some decl := by
  have inside := (List.getElem?_eq_some_iff.1 own).1
  rw [elaborated.length] at inside
  exact ⟨_, List.getElem?_eq_getElem inside⟩

theorem Elaborated.exists_register (elaborated : Elaborated decls d.registers) {i : Nat}
    {decl : RegisterDecl} (declAt : decls[i]? = some decl) : ∃ r, d.registers[i]? = some r := by
  have inside := (List.getElem?_eq_some_iff.1 declAt).1
  rw [← elaborated.length] at inside
  exact ⟨_, List.getElem?_eq_getElem inside⟩

/-- A register that a field holds is an earlier one, declared under the type of the field. -/
theorem FieldDecl.Describes.held {earlier : List RegisterDecl} {outer : RegisterDecl}
    {decl : FieldDecl} {f : Field} (described : decl.Describes earlier outer f) {j : Nat}
    (held : f.register = some j) :
    (¬ ∃ kind, NamesKind decl.type kind) ∧
      ∃ inner, earlier[j]? = some inner ∧ inner.name = decl.type := by
  have unnamed : ¬ ∃ kind, NamesKind decl.type kind := by
    rintro ⟨kind, named⟩
    have scalar := (described.scalar kind named).1
    rw [scalar] at held
    cases held
  obtain ⟨-, k, inner, heldToo, declared, name⟩ := described.register unnamed
  rw [held] at heldToo
  cases heldToo
  exact ⟨unnamed, inner, declared, name⟩

theorem Elaborated.lt_of_holds (elaborated : Elaborated decls d.registers) {i j : Nat}
    (inside : i < d.registers.length) (holds : d.Holds i j) : j < i := by
  have own := List.getElem?_eq_getElem inside
  obtain ⟨decl, declAt⟩ := elaborated.exists_decl own
  have described := elaborated.each i decl _ declAt own
  obtain ⟨f, within, held⟩ := (Device.holds_iff_of_own own).1 holds
  obtain ⟨fieldDecl, -, field⟩ := exists_of_forall₂_right described.fields within
  obtain ⟨-, inner, earlier, -⟩ := field.held held
  have bound := (List.getElem?_eq_some_iff.1 earlier).1
  rw [List.length_take] at bound
  omega

theorem Elaborated.le_of_path (elaborated : Elaborated decls d.registers) {j k : Nat}
    (inside : j < d.registers.length) (path : Relation.ReflTransGen d.Holds j k) : k ≤ j := by
  induction path with
  | refl => exact le_rfl
  | tail _ step ih =>
    have before := elaborated.lt_of_holds (lt_of_le_of_lt ih inside) step
    omega

end

/-! ## Rules and checks -/

theorem RegisterDecl.direction_eq_iff (decl : RegisterDecl) (side : Side) :
    decl.direction = side.direction ↔ decl.access = some side := by
  unfold RegisterDecl.direction declaredDirection
  rcases decl.access with _ | _ | _ <;> cases side <;> decide

theorem RegisterDecl.isProper_direction (decl : RegisterDecl) :
    decl.direction.isProper = true := by
  unfold RegisterDecl.direction declaredDirection
  rcases decl.access with _ | _ | _ <;> rfl

/-- In a one-sided register only a specifier of its own takes a field to the other side. -/
theorem FieldDecl.includes_accessIn (decl : FieldDecl) {outer : RegisterDecl} {side other : Side}
    (oneSided : outer.access = some side) (apart : side ≠ other) :
    (decl.accessIn outer).includes other = false ↔ decl.access ≠ some other := by
  unfold FieldDecl.accessIn RegisterDecl.direction declaredDirection
  rw [oneSided]
  rcases decl.access with _ | _ | _ <;> cases side <;> cases other <;> first | contradiction | decide

theorem accessWithin_iff {outer : RegisterDecl} {decl : FieldDecl} {r : Register} {f : Field}
    (direction : r.direction = outer.direction) (access : f.access = decl.accessIn outer) :
    Device.AccessWithin r f ↔
      (outer.access = some .read → decl.access ≠ some .write) ∧
        (outer.access = some .write → decl.access ≠ some .read) := by
  have readOnly : r.direction = .readOnly ↔ outer.access = some .read :=
    direction ▸ outer.direction_eq_iff .read
  have writeOnly : r.direction = .writeOnly ↔ outer.access = some .write :=
    direction ▸ outer.direction_eq_iff .write
  constructor
  · rintro ⟨left, right⟩
    rw [access] at left right
    constructor
    · intro read
      exact (decl.includes_accessIn read (by decide)).1 (left (readOnly.2 read))
    · intro write
      exact (decl.includes_accessIn write (by decide)).1 (right (writeOnly.2 write))
  · rintro ⟨left, right⟩
    constructor
    · intro read
      rw [access, decl.includes_accessIn (readOnly.1 read) (by decide)]
      exact left (readOnly.1 read)
    · intro write
      rw [access, decl.includes_accessIn (writeOnly.1 write) (by decide)]
      exact right (writeOnly.1 write)

/-- The size of a readable declaration is positive, so the field is no array only without one. -/
theorem FieldDecl.Readable.size_eq_none_iff {names : List String} {earlier : List RegisterDecl}
    {outer : RegisterDecl} {decl : FieldDecl} {f : Field} (readable : decl.Readable names)
    (described : decl.Describes earlier outer f) : decl.size = none ↔ f.count = 0 := by
  rw [described.count]
  cases given : decl.size with
  | none => simp
  | some size =>
    obtain ⟨text, rfl, positive, -⟩ := readable.size size given
    simp only [Option.elim_some, ArraySize.text, reduceCtorEq, false_iff]
    omega

/-- A field of a kind: its rules on the tree are the rules on what it stands for. -/
theorem FieldDecl.scalarField_iff {names : List String} {earlier : List RegisterDecl}
    {outer : RegisterDecl} {decl : FieldDecl} {f : Field} {kind : Kind}
    (readable : decl.Readable names) (described : decl.Describes earlier outer f)
    (named : NamesKind decl.type kind) :
    Device.ScalarField f ↔ (decl.bits ≠ [] → decl.size = none ∧ kind.isUnsigned = true ∧
      ∀ b ∈ decl.bits, denoted b.first ≤ denoted (b.last.getD b.first) ∧
        denoted (b.last.getD b.first) < kind.bits) := by
  obtain ⟨-, kind_eq⟩ := described.scalar kind named
  have empty : f.bits = [] ↔ decl.bits = [] := by simp [described.bits]
  rw [readable.size_eq_none_iff described]
  constructor
  · rintro ⟨-, -, bits, ranges⟩ some
    obtain ⟨single, unsigned⟩ := bits (mt empty.1 some)
    refine ⟨single, kind_eq ▸ unsigned, ?_⟩
    intro b member
    have inside : b.range ∈ f.bits := described.bits ▸ List.mem_map_of_mem member
    obtain ⟨-, ordered, within⟩ := ranges _ inside
    rw [kind_eq] at within
    simp only [BitDecl.range] at ordered within
    omega
  · intro rules
    refine ⟨kind_eq ▸ named.1, by rw [described.count]; omega, ?_, ?_⟩
    · intro some
      obtain ⟨single, unsigned, -⟩ := rules (mt empty.2 some)
      exact ⟨single, kind_eq ▸ unsigned⟩
    · intro range member
      rw [described.bits, List.mem_map] at member
      obtain ⟨b, inside, rfl⟩ := member
      obtain ⟨-, -, ranges⟩ := rules (List.ne_nil_of_mem inside)
      obtain ⟨ordered, within⟩ := ranges b inside
      rw [kind_eq]
      simp only [BitDecl.range]
      omega

section

variable {decls : List RegisterDecl} {d : Device} {i : Nat} {outer : RegisterDecl} {r : Register}

theorem FieldDecl.wellFormed_iff_of_kind {decl : FieldDecl} {f : Field} {kind : Kind}
    (direction : r.direction = outer.direction)
    (described : decl.Describes (decls.take i) outer f)
    (readable : decl.Readable ((decls.take i).map RegisterDecl.name))
    (named : NamesKind decl.type kind) :
    decl.WellFormed (decls.take i) outer ↔ d.FieldWithin i r f := by
  have access := accessWithin_iff direction described.access
  have register := (described.scalar kind named).1
  have scalar := FieldDecl.scalarField_iff readable described named
  constructor
  · intro wellFormed
    refine ⟨fun _ => scalar.2 ?_, by simp [register], access.2 wellFormed.access⟩
    intro some
    obtain ⟨single, other, alsoNamed, rules⟩ := wellFormed.bits some
    rw [named.unique alsoNamed]
    exact ⟨single, rules⟩
  · intro within
    refine ⟨.inl ⟨kind, named⟩, fun size given => ⟨⟨kind, named⟩, readable.size size given⟩, ?_,
      access.1 within.access⟩
    intro some
    obtain ⟨single, rules⟩ := scalar.1 (within.scalar register) some
    exact ⟨single, kind, named, rules⟩

theorem FieldDecl.wellFormed_iff_of_register (elaborated : Elaborated decls d.registers)
    (declAt : decls[i]? = some outer) (own : d.registers[i]? = some r)
    (names : ((decls.take i).map RegisterDecl.name).Nodup) {decl : FieldDecl} {f : Field}
    (described : decl.Describes (decls.take i) outer f)
    (readable : decl.Readable ((decls.take i).map RegisterDecl.name))
    (unnamed : ¬ ∃ kind, NamesKind decl.type kind) :
    decl.WellFormed (decls.take i) outer ↔ d.FieldWithin i r f := by
  have direction := (elaborated.each i outer r declAt own).direction
  have access := accessWithin_iff direction described.access
  obtain ⟨-, j, inner, register, declared, name⟩ := described.register unnamed
  -- The register that is held is declared before, and no way leads back from it.
  have before : j < i := by
    have bound := (List.getElem?_eq_some_iff.1 declared).1
    rw [List.length_take] at bound
    omega
  have inside := (List.getElem?_eq_some_iff.1 own).1
  have outward : ¬ Relation.ReflTransGen d.Holds j i := by
    intro path
    have back := elaborated.le_of_path (before.trans inside) path
    omega
  have declaredInner : decls[j]? = some inner := by
    rwa [List.getElem?_take_of_lt before] at declared
  obtain ⟨held, ownInner⟩ := elaborated.exists_register declaredInner
  have heldDirection := (elaborated.each j inner held declaredInner ownInner).direction
  have covers : held.direction.covers r.direction = true ↔
      ∀ side, outer.direction.includes side = true → inner.direction.includes side = true := by
    rw [heldDirection, direction]
    exact Direction.covers_iff outer.isProper_direction
  constructor
  · intro wellFormed
    refine ⟨by simp [register], ?_, access.2 wellFormed.access⟩
    intro k heldToo
    rw [register] at heldToo
    cases heldToo
    refine ⟨?_, ?_, outward, ?_⟩
    · rw [← readable.size_eq_none_iff described]
      cases given : decl.size with
      | none => rfl
      | some size => exact absurd (wellFormed.size size given).1 unnamed
    · rw [described.bits, List.map_eq_nil_iff]
      by_contra some
      obtain ⟨-, kind, alsoNamed, -⟩ := wellFormed.bits some
      exact unnamed ⟨kind, alsoNamed⟩
    · -- Names are distinct, so the register that the rules speak of is the one that is held.
      intro other atIndex
      rw [Device.table_of_own ownInner] at atIndex
      cases atIndex
      rw [covers]
      obtain ⟨other, member, sameName, included⟩ := wellFormed.type.resolve_left unnamed
      have same : other = inner :=
        List.inj_on_of_nodup_map names member (List.mem_of_getElem? declared)
          (sameName.trans name.symm)
      exact same ▸ included
  · intro within
    obtain ⟨count, bits, -, direction⟩ := within.register j register
    have noSize := (readable.size_eq_none_iff described).2 count
    have noBits : decl.bits = [] := by simpa [described.bits] using bits
    refine ⟨.inr ⟨inner, List.mem_of_getElem? declared, name, ?_⟩, by simp [noSize],
      by simp [noBits], access.1 within.access⟩
    exact covers.1 (direction held (Device.table_of_own ownInner))

/-- A field of the register declared at `i`: the rules for its declaration are what the check
    demands of it. The names are distinct, so that a type names one register. -/
theorem FieldDecl.wellFormed_iff (elaborated : Elaborated decls d.registers)
    (declAt : decls[i]? = some outer) (own : d.registers[i]? = some r)
    (names : ((decls.take i).map RegisterDecl.name).Nodup) {decl : FieldDecl} {f : Field}
    (described : decl.Describes (decls.take i) outer f)
    (readable : decl.Readable ((decls.take i).map RegisterDecl.name)) :
    decl.WellFormed (decls.take i) outer ↔ d.FieldWithin i r f := by
  by_cases named : ∃ kind, NamesKind decl.type kind
  · obtain ⟨kind, named⟩ := named
    exact wellFormed_iff_of_kind (elaborated.each i outer r declAt own).direction described
      readable named
  · exact wellFormed_iff_of_register elaborated declAt own names described readable named

/-- A readable declaration obeys the rules exactly if its register passes the check. -/
theorem RegisterDecl.wellFormed_iff (elaborated : Elaborated decls d.registers)
    (declAt : decls[i]? = some outer) (own : d.registers[i]? = some r)
    (names : ((decls.take i).map RegisterDecl.name).Nodup)
    (readable : outer.Readable (decls.take i)) :
    outer.WellFormed (decls.take i) ↔ d.checkRegister i r = .ok () := by
  have described := elaborated.each i outer r declAt own
  have fieldNames : r.fields.map Field.name = (fieldsOf outer.items).map FieldDecl.name :=
    map_eq_of_forall₂ (fun _ _ field => field.name) described.fields
  have constantNames :
      r.constants.map Constant.name = (constantsOf outer.items).map ConstantDecl.name :=
    map_eq_of_forall₂ (fun _ _ constant => constant.name) described.constants
  have field : ∀ (decl : FieldDecl) (f : Field), decl ∈ fieldsOf outer.items →
      decl.Describes (decls.take i) outer f →
        (decl.WellFormed (decls.take i) outer ↔ d.FieldWithin i r f) := by
    intro decl f member fieldDescribed
    exact FieldDecl.wellFormed_iff elaborated declAt own names fieldDescribed
      (readable.items _ (mem_fieldsOf.1 member))
  rw [Device.checkRegister_eq_ok_iff, fieldNames, constantNames, described.direction]
  constructor
  · intro wellFormed
    refine ⟨outer.isProper_direction, ?_, wellFormed.names⟩
    intro f within
    obtain ⟨decl, member, fieldDescribed⟩ := exists_of_forall₂_right described.fields within
    exact (field decl f member fieldDescribed).1 (wellFormed.fields decl member)
  · rintro ⟨-, fields, distinct⟩
    refine ⟨readable.number, ?_, ?_, distinct⟩
    · intro decl member
      obtain ⟨f, within, fieldDescribed⟩ := exists_of_forall₂_left described.fields member
      exact (field decl f member fieldDescribed).2 (fields f within)
    · exact fun c member => readable.items _ (mem_constantsOf.1 member)

end

/-! ## Documents -/

/-- Well-formed declarations are built one after the other. -/
theorem exists_registers? {earlier : List RegisterDecl} {built : List Register}
    {items : List TopItem} (elaborated : Elaborated earlier built)
    (lexed : ∀ item ∈ items, Lexed item.lexemes)
    (names : ((earlier ++ registersOf items).map RegisterDecl.name).Nodup)
    (wellFormed : ∀ (k : Nat) (decl : RegisterDecl), (registersOf items)[k]? = some decl →
      decl.WellFormed (earlier ++ (registersOf items).take k))
    (device : String) (declared : List String) (source : List Char) (pending : List String) :
    ∃ all, registers? source device declared built pending items = .ok all := by
  induction items generalizing earlier built pending with
  | nil => exact ⟨built, rfl⟩
  | cons item items ih =>
    obtain ⟨first, rest⟩ := List.forall_mem_cons.1 lexed
    cases item with
    | comment c => exact ih elaborated rest names wellFormed _
    | register decl =>
      have split : registersOf (.register decl :: items) = decl :: registersOf items := rfl
      rw [split] at names wellFormed
      have rules : decl.WellFormed earlier := by simpa using wellFormed 0 decl rfl
      have distinct : (earlier.map RegisterDecl.name).Nodup := by
        rw [List.map_append] at names
        exact names.of_append_left
      have checked : ∀ r, decl.Describes earlier r →
          Device.checkRegister { name := device, registers := built ++ [r] } built.length r =
            .ok () := by
        -- The new register stands last, and all earlier declarations stand in front of it.
        intro r described
        have whole := elaborated.append described
        have front : (earlier ++ [decl]).take built.length = earlier := by
          rw [elaborated.length, List.take_left]
        rw [← RegisterDecl.wellFormed_iff (d := { name := device, registers := built ++ [r] })
          whole (by rw [elaborated.length, List.getElem?_concat_length])
          List.getElem?_concat_length, front]
        · exact rules
        · rwa [front]
        · rw [front]
          exact rules.readable
      obtain ⟨r, read⟩ := rules.readable.exists_register? first ⟨built, declared⟩
        elaborated.names checked source pending
      have described := (RegisterDecl.of_register? first elaborated.names read).2
      obtain ⟨all, others⟩ := ih (elaborated.append described) rest (by simpa using names)
        (fun k other at' => by simpa using wellFormed (k + 1) other (by simpa using at')) []
      exact ⟨all, by simp only [registers?, read, others]⟩

theorem lexed_of_parse {source : String} {doc : Document} (parsed : parse source = .ok doc) :
    ∀ item ∈ doc.items, Lexed item.lexemes := by
  obtain ⟨-, written⟩ := written_of_parse parsed
  intro item member l inside
  have listed : l ∈ doc.items.flatMap TopItem.lexemes := List.mem_flatMap.2 ⟨item, member, inside⟩
  exact written.proper (by simp [Document.lexemes, listed])

theorem load_eq_ok_iff {source : String} {doc : Document} (parsed : parse source = .ok doc)
    {d : Device} :
    load source = .ok d ↔ doc.device? source.toList = .ok d ∧ d.validate = .ok () := by
  simp only [load, parsed]
  cases doc.device? source.toList with
  | error fault => simp
  | ok built =>
    cases valid : built.validate with
    | error fault =>
      simp only [Except.ok.injEq, reduceCtorEq, valid, false_iff, not_and]
      rintro rfl
      simp [valid]
    | ok nothing =>
      simp only [Except.ok.injEq, valid]
      constructor
      · rintro rfl
        exact ⟨rfl, valid⟩
      · exact fun built => built.1

theorem exists_parse_of_load {source : String} {d : Device} (loaded : load source = .ok d) :
    ∃ doc, parse source = .ok doc := by
  unfold load at loaded
  split at loaded
  · cases loaded
  · next doc parsed => exact ⟨doc, parsed⟩

theorem validate_of_load {source : String} {d : Device} (loaded : load source = .ok d) :
    d.validate = .ok () := by
  obtain ⟨doc, parsed⟩ := exists_parse_of_load loaded
  exact ((load_eq_ok_iff parsed).1 loaded).2

theorem Document.of_device? {source : List Char} {doc : Document} {d : Device}
    (lexed : ∀ item ∈ doc.items, Lexed item.lexemes) (success : doc.device? source = .ok d) :
    doc.Describes d ∧ ∀ (k : Nat) (decl : RegisterDecl), (registersOf doc.items)[k]? = some decl →
      decl.Readable ((registersOf doc.items).take k) := by
  unfold Document.device? at success
  split at success
  · cases success
  · next registers read =>
    cases success
    have start : Elaborated [] [] := ⟨rfl, by simp⟩
    obtain ⟨elaborated, readable⟩ := start.of_registers? lexed read
    exact ⟨⟨rfl, rfl, by simpa using elaborated⟩, by simpa using readable⟩

theorem Elaborated.ids {decls : List RegisterDecl} {registers : List Register}
    (elaborated : Elaborated decls registers) :
    (registers.map Register.id).Nodup ↔ (decls.map fun decl => denoted decl.number).Nodup := by
  have numbers : registers.map (fun r => r.id.toNat) = decls.map fun decl => denoted decl.number :=
    elaborated.map_eq fun _ _ _ described => described.id
  have injective : Function.Injective UInt8.toNat := fun _ _ => UInt8.toNat_inj.1
  rw [← numbers, ← List.nodup_map_iff injective, List.map_map]
  rfl

/-- The check of the whole device asks for the rules of the document. -/
theorem Document.Describes.wellFormed_iff {doc : Document} {d : Device}
    (described : doc.Describes d)
    (readable : ∀ (k : Nat) (decl : RegisterDecl), (registersOf doc.items)[k]? = some decl →
      decl.Readable ((registersOf doc.items).take k)) :
    doc.WellFormed ↔ d.validate = .ok () := by
  have elaborated := described.registers
  rw [Device.validate, Device.checkRegisters_eq_ok_iff]
  simp only [List.map_nil, fresh_of_nil_iff, Nat.zero_add, elaborated.ids, elaborated.names]
  have front : ∀ i, ((registersOf doc.items).map RegisterDecl.name).Nodup →
      (((registersOf doc.items).take i).map RegisterDecl.name).Nodup := by
    intro i names
    exact names.sublist ((List.take_sublist i _).map _)
  constructor
  · intro wellFormed
    refine ⟨wellFormed.numbers, wellFormed.names, ?_⟩
    intro i r own
    obtain ⟨decl, declAt⟩ := elaborated.exists_decl own
    constructor
    · rw [← RegisterDecl.wellFormed_iff elaborated declAt own (front i wellFormed.names)
        (readable i decl declAt)]
      exact wellFormed.registers i decl declAt
    · -- A field holds an earlier register, and distinct names lead to the registers they name.
      rw [Device.checkOwnership_eq_ok_iff]
      intro f within j held
      have inside := (List.getElem?_eq_some_iff.1 own).1
      have before := elaborated.lt_of_holds inside
        ((Device.holds_iff_of_own own).2 ⟨f, within, held⟩)
      have ownInner := List.getElem?_eq_getElem (before.trans inside)
      rw [Device.nameOf, Device.table_of_own ownInner]
      exact Device.find?_of_own (elaborated.names ▸ wellFormed.names) ownInner
  · rintro ⟨numbers, names, each⟩
    refine ⟨numbers, names, ?_⟩
    intro i decl declAt
    obtain ⟨r, own⟩ := elaborated.exists_register declAt
    rw [RegisterDecl.wellFormed_iff elaborated declAt own (front i names)
      (readable i decl declAt)]
    exact (each i r own).1

/-- Loading accepts exactly the trees that obey the rules, and gives the device they describe. -/
theorem load_accepts_exactly_wellFormed {source : String} {doc : Document}
    (parsed : parse source = .ok doc) :
    ((∃ d, load source = .ok d) ↔ doc.WellFormed) ∧
      ∀ d, load source = .ok d → doc.Describes d := by
  have lexed := lexed_of_parse parsed
  refine ⟨⟨?_, ?_⟩, ?_⟩
  · rintro ⟨d, loaded⟩
    obtain ⟨built, valid⟩ := (load_eq_ok_iff parsed).1 loaded
    obtain ⟨described, readable⟩ := Document.of_device? lexed built
    exact (described.wellFormed_iff readable).2 valid
  · intro wellFormed
    have start : Elaborated [] [] := ⟨rfl, by simp⟩
    obtain ⟨registers, read⟩ := exists_registers? start lexed wellFormed.names
      (by simpa using wellFormed.registers) doc.name doc.declared source.toList []
    have built : doc.device? source.toList =
        .ok { name := doc.name, doc := doc.doc.map commentText, registers } := by
      simp only [Document.device?, read]
    obtain ⟨described, readable⟩ := Document.of_device? lexed built
    exact ⟨_, (load_eq_ok_iff parsed).2 ⟨built, (described.wellFormed_iff readable).1 wellFormed⟩⟩
  · intro d loaded
    exact (Document.of_device? lexed ((load_eq_ok_iff parsed).1 loaded).1).1

/-- A file with a register called like a kind, numbers in three bases, a register in a field of
    another, bit ranges and constants. -/
def kindNamedFile : String :=
  "device d\nregister uint8(0x0A)\x7bx[0b11]uint8;const uint9=uint16(0x10);\x7d;" ++
    "register inner(0o7)\x7ba uint16\x7blow:0-3,top:15\x7d;\x7d;" ++
    "register outer(255):r\x7bb:r inner;c uint8;\x7d;"

theorem load_kindNamedFile :
    ∃ doc d, parse kindNamedFile = .ok doc ∧ load kindNamedFile = .ok d ∧ doc.WellFormed ∧
      doc.Describes d := by
  have accepts : (load kindNamedFile).toOption.isSome = true := by decide +kernel
  obtain ⟨d, loaded⟩ := exists_ok_of_isSome accepts
  obtain ⟨doc, parsed⟩ := exists_parse_of_load loaded
  obtain ⟨accepted, described⟩ := load_accepts_exactly_wellFormed parsed
  exact ⟨doc, d, parsed, loaded, accepted.1 ⟨d, loaded⟩, described d loaded⟩

end RegisterMap.Definition
