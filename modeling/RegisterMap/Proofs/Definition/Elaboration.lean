import RegisterMap.Proofs.Definition.WellFormed
import RegisterMap.Proofs.Device.Consistency
import RegisterMap.Proofs.Value.WellFormed

/-! # Elaboration reads declarations as they are meant

Elaboration goes through the declarations in order and stops at the first one it cannot read.
`Readable` says which ones it can: numbers that fit their words, types that are known so far, and
values of constants. What it has read describes the declaration, whatever comments stood between
(`Draft.Holds`). Whether the result is also consistent is not asked here. -/

namespace RegisterMap.Definition

/-- Every lexeme is a token of its class. -/
def Lexed (ls : List Lexeme) : Prop :=
  ∀ l ∈ ls, l.Proper

theorem Lexed.number {ls : List Lexeme} (lexed : Lexed ls) {text : String}
    (member : Lexeme.number text ∈ ls) : IsToken .number text.toList :=
  (lexed _ member).token

theorem Lexed.mono {ls more : List Lexeme} (lexed : Lexed more) (part : ls ⊆ more) : Lexed ls :=
  fun l member => lexed l (part member)

/-! ## Bit ranges and array lengths -/

/-- A number token fits a word of 16 bits, or it is too large for it. -/
theorem IsToken.readUnsigned_sixteen {text : String} (token : IsToken .number text.toList) :
    (denoted text ≤ 65535 ∧ Numeral.readUnsigned text.toList 16 = ⟨denoted text, none⟩) ∨
      (¬ denoted text ≤ 65535 ∧
        Numeral.readUnsigned text.toList 16 = ⟨65535, some .outOfRange⟩) := by
  have read : Numeral.readUnsigned text.toList 16 = .within 16 (denoted text) :=
    token.readUnsigned_eq (by decide) (by decide)
  rw [read, Numeral.Reading.within]
  split
  · next small => exact .inl ⟨by omega, rfl⟩
  · next large => exact .inr ⟨by omega, rfl⟩

theorem bitPosition?_eq_ok_iff {register field bit text : String}
    (token : IsToken .number text.toList) {n : Nat} :
    bitPosition? register field bit text = .ok n ↔ denoted text ≤ 65535 ∧ n = denoted text := by
  unfold bitPosition?
  rcases token.readUnsigned_sixteen with ⟨small, read⟩ | ⟨large, read⟩
  · simp only [read, small, Except.ok.injEq, true_and]
    exact eq_comm
  · simp [read, large]

/-- The bounds of a declared bit range fit 16 bits. -/
def BitDecl.Readable (b : BitDecl) : Prop :=
  denoted b.first ≤ 65535 ∧ denoted (b.last.getD b.first) ≤ 65535

theorem bitRange?_eq_ok_iff (register field : String) {decl : BitDecl}
    (lexed : Lexed decl.lexemes) {range : BitRange} :
    bitRange? register field decl = .ok range ↔ decl.Readable ∧ range = decl.range := by
  obtain ⟨position, name, first, last⟩ := decl
  have firstToken : IsToken .number first.toList := lexed.number (by simp [BitDecl.lexemes])
  unfold bitRange?
  rw [bind_eq_ok_iff]
  simp only [bitPosition?_eq_ok_iff firstToken, BitDecl.Readable, BitDecl.range]
  cases last with
  | none =>
    simp only [bind_eq_ok_iff, Except.ok.injEq, Option.getD_none, pure, Except.pure]
    constructor
    · rintro ⟨_, ⟨small, rfl⟩, _, rfl, rfl⟩
      exact ⟨⟨small, small⟩, rfl⟩
    · rintro ⟨⟨small, -⟩, rfl⟩
      exact ⟨_, ⟨small, rfl⟩, _, rfl, rfl⟩
  | some last =>
    have lastToken : IsToken .number last.toList := lexed.number (by simp [BitDecl.lexemes])
    simp only [bind_eq_ok_iff, bitPosition?_eq_ok_iff lastToken, Option.getD_some, pure,
      Except.pure, Except.ok.injEq]
    constructor
    · rintro ⟨_, ⟨smallFirst, rfl⟩, _, ⟨smallLast, rfl⟩, rfl⟩
      exact ⟨⟨smallFirst, smallLast⟩, rfl⟩
    · rintro ⟨⟨smallFirst, smallLast⟩, rfl⟩
      exact ⟨_, ⟨smallFirst, rfl⟩, _, ⟨smallLast, rfl⟩, rfl⟩

theorem bitRanges?_eq_ok_iff (register field : String) {decls : List BitDecl}
    (lexed : ∀ b ∈ decls, Lexed b.lexemes) {ranges : List BitRange} :
    bitRanges? register field decls = .ok ranges ↔
      (∀ b ∈ decls, b.Readable) ∧ ranges = decls.map BitDecl.range := by
  induction decls generalizing ranges with
  | nil => simp [bitRanges?, eq_comm]
  | cons b decls ih =>
    obtain ⟨first, rest⟩ := List.forall_mem_cons.1 lexed
    simp only [bitRanges?, List.forall_mem_cons, List.map_cons]
    cases readFirst : bitRange? register field b with
    | error fault =>
      have unreadable : ¬ b.Readable := by
        intro readable
        have success := (bitRange?_eq_ok_iff register field first).2 ⟨readable, rfl⟩
        rw [readFirst] at success
        cases success
      simp [unreadable]
    | ok range =>
      obtain ⟨readable, rfl⟩ := (bitRange?_eq_ok_iff register field first).1 readFirst
      cases readRest : bitRanges? register field decls with
      | error e =>
        -- The hypothesis is an equivalence, so the failure of the rest is its fault alone.
        have unreadable : ¬ ∀ b ∈ decls, b.Readable := by
          intro all
          have success := (ih rest).2 ⟨all, rfl⟩
          rw [readRest] at success
          cases success
        simp [unreadable]
      | ok ranges =>
        obtain ⟨all, rfl⟩ := (ih rest).1 readRest
        simp only [Except.ok.injEq, readable, true_and, eq_comm, iff_and_self]
        exact fun _ => all

/-- The length of an array is written as a number from 1 to 65535. -/
def sizeReadable (size : Option ArraySize) : Prop :=
  ∀ s, size = some s → ∃ text, s = .number text ∧ 1 ≤ denoted text ∧ denoted text ≤ 65535

theorem arrayLength?_eq_ok_iff {size : Option ArraySize} (lexed : Lexed (sizeLexemes size))
    {n : Nat} :
    arrayLength? size = .ok n ↔
      sizeReadable size ∧ n = size.elim 0 fun s => denoted s.text := by
  match size with
  | none => simp [arrayLength?, sizeReadable, eq_comm]
  | some (.name text) => simp [arrayLength?, sizeReadable]
  | some (.number text) =>
    have token : IsToken .number text.toList :=
      lexed.number (by simp [sizeLexemes, ArraySize.lexeme, Lexeme.number])
    simp only [arrayLength?, sizeReadable, Option.some.injEq, forall_eq',
      ArraySize.number.injEq, exists_eq_left', Option.elim_some, ArraySize.text]
    rcases token.readUnsigned_sixteen with ⟨small, read⟩ | ⟨large, read⟩
    · rw [read]
      by_cases zero : denoted text = 0
      · simp [zero]
      · have positive : 1 ≤ denoted text := by omega
        simp only [Option.isSome_none, Bool.false_or, beq_iff_eq, zero, if_false, positive, small,
          Except.ok.injEq, and_self, true_and]
        exact eq_comm
    · simp [read, large]

/-! ## Types -/

theorem ofName?_eq_some_iff {text : String} {kind : Kind} :
    Kind.ofName? text = some kind ↔ NamesKind text kind := by
  constructor
  · intro found
    exact ⟨List.mem_of_find?_eq_some found, by simpa using List.find?_some found⟩
  · rintro ⟨member, rfl⟩
    simp only [Kind.scalars, List.mem_cons, List.not_mem_nil, or_false] at member
    rcases member with rfl | rfl | rfl | rfl | rfl | rfl | rfl | rfl | rfl | rfl <;> rfl

theorem ofName?_eq_none_iff {text : String} :
    Kind.ofName? text = none ↔ ¬ ∃ kind, NamesKind text kind := by
  simp only [← ofName?_eq_some_iff, Option.eq_none_iff_forall_ne_some, not_exists]

theorem NamesKind.unique {text : String} {kind other : Kind} (left : NamesKind text kind)
    (right : NamesKind text other) : kind = other := by
  rw [← ofName?_eq_some_iff] at left right
  rw [left] at right
  cases right
  rfl

theorem fieldType?_of_namesKind {scope : Scope} {outer type : String} {kind : Kind}
    (named : NamesKind type kind) : fieldType? scope outer type = .ok (kind, none) := by
  rw [fieldType?, ofName?_eq_some_iff.2 named]

theorem fieldType?_of_not_namesKind {scope : Scope} {outer type : String}
    (unnamed : ¬ ∃ kind, NamesKind type kind) {held : Kind × Option Nat} :
    fieldType? scope outer type = .ok held ↔
      ∃ j, scope.find? type = some j ∧ held = (Kind.none, some j) := by
  rw [fieldType?, ofName?_eq_none_iff.2 unnamed]
  cases scope.find? type with
  | some j => simp [eq_comm]
  | none =>
    dsimp only
    split_ifs <;> simp

/-- A name is found at the first register built under it. -/
theorem Scope.find?_eq_some {scope : Scope} {name : String} {j : Nat}
    (found : scope.find? name = some j) : (scope.built.map Register.name)[j]? = some name := by
  obtain ⟨inside, same, -⟩ := List.findIdx?_eq_some_iff_getElem.1 found
  simpa [List.getElem?_eq_getElem inside] using same

theorem Scope.exists_find? {scope : Scope} {name : String}
    (member : name ∈ scope.built.map Register.name) : ∃ j, scope.find? name = some j := by
  obtain ⟨r, built, rfl⟩ := List.mem_map.1 member
  rw [← Option.isSome_iff_exists, Scope.find?, List.findIdx?_isSome, List.any_eq_true]
  exact ⟨r, built, by simp⟩

/-! ## Fields and constants -/

/-- The declaration of a field can be read where registers of these names are known. -/
structure FieldDecl.Readable (names : List String) (f : FieldDecl) : Prop where
  type : (∃ kind, NamesKind f.type kind) ∨ f.type ∈ names
  size : sizeReadable f.size
  bits : ∀ b ∈ f.bits, b.Readable

theorem FieldDecl.lexed_size {decl : FieldDecl} (lexed : Lexed decl.lexemes) :
    Lexed (sizeLexemes decl.size) :=
  lexed.mono fun l member => by simp [FieldDecl.lexemes, member]

theorem FieldDecl.lexed_bits {decl : FieldDecl} (lexed : Lexed decl.lexemes) :
    ∀ b ∈ decl.bits, Lexed b.lexemes := by
  intro b member
  apply lexed.mono
  intro l inside
  have listed : l ∈ bitLexemes decl.bits := by
    cases bits : decl.bits with
    | nil => simp [bits] at member
    | cons first rest =>
      rw [bits, List.mem_cons] at member
      rcases member with rfl | member
      · simp [bitLexemes, inside]
      · simp only [bitLexemes, List.mem_cons, List.mem_append, List.mem_flatMap]
        exact .inr (.inr (.inl ⟨b, member, .inr inside⟩))
  simp [FieldDecl.lexemes, listed]

/-- What is read from the declaration of a field is what it stands for. -/
theorem FieldDecl.of_field? {scope : Scope} {outer : Register} {decl : FieldDecl}
    {doc : List String} {f : Field} {earlier : List RegisterDecl} {outerDecl : RegisterDecl}
    (lexed : Lexed decl.lexemes)
    (names : scope.built.map Register.name = earlier.map RegisterDecl.name)
    (direction : outer.direction = outerDecl.direction)
    (success : field? scope outer decl doc = .ok f) :
    decl.Readable (earlier.map RegisterDecl.name) ∧ decl.Describes earlier outerDecl f := by
  unfold field? at success
  dsimp only at success
  split at success
  · cases success
  · next kind register held =>
    split at success
    · cases success
    · next count length =>
      split at success
      · cases success
      · next ranges bits =>
        cases success
        obtain ⟨sizes, rfl⟩ := (arrayLength?_eq_ok_iff (lexed_size lexed)).1 length
        obtain ⟨readable, rfl⟩ := (bitRanges?_eq_ok_iff _ _ (lexed_bits lexed)).1 bits
        -- A kind goes before a register of the same name.
        by_cases named : ∃ kind, NamesKind decl.type kind
        · obtain ⟨scalar, named⟩ := named
          rw [fieldType?_of_namesKind named] at held
          cases held
          refine ⟨⟨.inl ⟨kind, named⟩, sizes, readable⟩, rfl, ?_, rfl, rfl, ?_, ?_⟩
          · rw [direction]
            rfl
          · exact fun other alsoNamed => ⟨rfl, named.unique alsoNamed⟩
          · exact fun unnamed => absurd ⟨kind, named⟩ unnamed
        · obtain ⟨j, found, same⟩ := (fieldType?_of_not_namesKind named).1 held
          cases same
          have known := Scope.find?_eq_some found
          rw [names] at known
          refine ⟨⟨.inr (List.mem_of_getElem? known), sizes, readable⟩, rfl, ?_, rfl, rfl, ?_, ?_⟩
          · rw [direction]
            rfl
          · exact fun other alsoNamed => absurd ⟨other, alsoNamed⟩ named
          · intro _
            rw [List.getElem?_map, Option.map_eq_some_iff] at known
            obtain ⟨inner, declared, name⟩ := known
            exact ⟨rfl, j, inner, rfl, declared, name⟩

theorem FieldDecl.Readable.field? {scope : Scope} {decl : FieldDecl}
    (readable : decl.Readable (scope.built.map Register.name)) (lexed : Lexed decl.lexemes)
    (outer : Register) (doc : List String) :
    ∃ f, Definition.field? scope outer decl doc = .ok f := by
  have length := (arrayLength?_eq_ok_iff (lexed_size lexed)).2 ⟨readable.size, rfl⟩
  have bits := (bitRanges?_eq_ok_iff outer.name decl.name (lexed_bits lexed)).2 ⟨readable.bits, rfl⟩
  have held : ∃ held, fieldType? scope outer.name decl.type = .ok held := by
    by_cases named : ∃ kind, NamesKind decl.type kind
    · obtain ⟨kind, named⟩ := named
      exact ⟨_, fieldType?_of_namesKind named⟩
    · obtain ⟨j, found⟩ := Scope.exists_find? (readable.type.resolve_left named)
      exact ⟨_, (fieldType?_of_not_namesKind named).2 ⟨j, found, rfl⟩⟩
  obtain ⟨⟨kind, register⟩, held⟩ := held
  unfold Definition.field?
  simp only [held, length, bits]
  exact ⟨_, rfl⟩

theorem ConstantDecl.of_constant? {outer : Register} {decl : ConstantDecl} {doc : List String}
    {c : Constant} (success : constant? outer decl doc = .ok c) :
    decl.WellFormed ∧ decl.Describes c := by
  unfold constant? at success
  split at success
  · cases success
  · next kind found =>
    split at success
    · cases success
    · next value read =>
      cases success
      have named := ofName?_eq_some_iff.1 found
      have kind : value.kind = kind := (Value.isOf_parse read).kind
      subst kind
      exact ⟨⟨value.kind, value, named, read⟩, rfl, named, read⟩

theorem ConstantDecl.WellFormed.constant? {decl : ConstantDecl} (wellFormed : decl.WellFormed)
    (outer : Register) (doc : List String) :
    ∃ c, Definition.constant? outer decl doc = .ok c := by
  obtain ⟨kind, value, named, read⟩ := wellFormed
  unfold Definition.constant?
  simp only [ofName?_eq_some_iff.2 named, read]
  exact ⟨_, rfl⟩

/-! ## Registers -/

theorem forall₂_documentLast {α β : Type} {related : α → β → Prop} {document : β → β}
    (kept : ∀ a b, related a b → related a (document b)) {as : List α} {bs : List β}
    (all : List.Forall₂ related as bs) : List.Forall₂ related as (documentLast document bs) := by
  have backwards := List.forall₂_reverse_iff.2 all
  unfold documentLast
  cases reversed : bs.reverse with
  | nil =>
    rw [List.reverse_eq_nil_iff.1 reversed] at all
    exact all
  | cons b rest =>
    rw [reversed] at backwards
    rw [← List.forall₂_reverse_iff, List.reverse_reverse]
    generalize as.reverse = others at backwards ⊢
    cases backwards with
    | cons first rest => exact .cons (kept _ b first) rest

/-- The register under construction stands for the items taken so far. -/
structure Draft.Holds (earlier : List RegisterDecl) (decl : RegisterDecl) (items : List BodyItem)
    (draft : Draft) : Prop where
  name : draft.register.name = decl.name
  id : draft.register.id.toNat = denoted decl.number
  direction : draft.register.direction = decl.direction
  fields : List.Forall₂ (FieldDecl.Describes earlier decl) (fieldsOf items) draft.register.fields
  constants : List.Forall₂ ConstantDecl.Describes (constantsOf items) draft.register.constants

/-- A comment may go to the last declaration, which stands for the same as before. -/
theorem Draft.Holds.documentLast {earlier : List RegisterDecl} {decl : RegisterDecl}
    {items : List BodyItem} {draft : Draft} (holds : draft.Holds earlier decl items)
    (kind : LastDeclaration) (text : String) :
    (draft.documentLast kind text).Holds earlier decl items := by
  obtain ⟨name, id, direction, fields, constants⟩ := holds
  cases kind with
  | field =>
    refine ⟨name, id, direction, forall₂_documentLast ?_ fields, constants⟩
    intro fieldDecl f described
    exact { described with }
  | constant =>
    refine ⟨name, id, direction, fields, forall₂_documentLast ?_ constants⟩
    intro constantDecl c described
    exact { described with }

/-- An item of a body can be read where registers of these names are known. -/
def BodyItem.Readable (names : List String) : BodyItem → Prop
  | .comment _ => True
  | .constant c => c.WellFormed
  | .field f => f.Readable names

/-- One item: what it declares is added to what was declared before it. -/
theorem Draft.Holds.add {source : List Char} {scope : Scope} {earlier : List RegisterDecl}
    {decl : RegisterDecl} {items : List BodyItem} {draft next : Draft} {item : BodyItem}
    (holds : draft.Holds earlier decl items) (lexed : Lexed item.lexemes)
    (names : scope.built.map Register.name = earlier.map RegisterDecl.name)
    (success : draft.add source scope item = .ok next) :
    item.Readable (earlier.map RegisterDecl.name) ∧
      next.Holds earlier decl (items ++ [item]) := by
  cases item with
  | comment c =>
    have same : fieldsOf (items ++ [.comment c]) = fieldsOf items ∧
        constantsOf (items ++ [.comment c]) = constantsOf items := by
      simp [fieldsOf, constantsOf]
    refine ⟨trivial, ?_⟩
    -- A comment goes to the documentation of the last item or waits for the next one.
    have kept : next.Holds earlier decl items := by
      unfold Draft.add at success
      dsimp only at success
      split at success
      · next kind last =>
        split at success
        · cases success
          exact holds.documentLast kind _
        · cases success
          exact { holds with }
      · cases success
        exact { holds with }
    obtain ⟨name, id, direction, fields, constants⟩ := kept
    exact ⟨name, id, direction, same.1 ▸ fields, same.2 ▸ constants⟩
  | constant constantDecl =>
    unfold Draft.add at success
    dsimp only at success
    split at success
    · cases success
    · next c read =>
      cases success
      obtain ⟨wellFormed, described⟩ := ConstantDecl.of_constant? read
      refine ⟨wellFormed, holds.name, holds.id, holds.direction, ?_, ?_⟩
      · simpa [fieldsOf] using holds.fields
      · simpa [constantsOf] using List.rel_append holds.constants (.cons described .nil)
  | field fieldDecl =>
    unfold Draft.add at success
    dsimp only at success
    split at success
    · cases success
    · next f read =>
      cases success
      obtain ⟨readable, described⟩ := FieldDecl.of_field? lexed names holds.direction read
      refine ⟨readable, holds.name, holds.id, holds.direction, ?_, ?_⟩
      · simpa [fieldsOf] using List.rel_append holds.fields (.cons described .nil)
      · simpa [constantsOf] using holds.constants

/-- All items, in order. -/
theorem Draft.Holds.addAll {source : List Char} {scope : Scope} {earlier : List RegisterDecl}
    {decl : RegisterDecl} {before items : List BodyItem} {draft next : Draft}
    (holds : draft.Holds earlier decl before) (lexed : ∀ item ∈ items, Lexed item.lexemes)
    (names : scope.built.map Register.name = earlier.map RegisterDecl.name)
    (success : Draft.addAll source scope draft items = .ok next) :
    (∀ item ∈ items, item.Readable (earlier.map RegisterDecl.name)) ∧
      next.Holds earlier decl (before ++ items) := by
  induction items generalizing before draft with
  | nil =>
    cases success
    exact ⟨by simp, by simpa using holds⟩
  | cons item items ih =>
    obtain ⟨first, rest⟩ := List.forall_mem_cons.1 lexed
    unfold Draft.addAll at success
    split at success
    · cases success
    · next between added =>
      obtain ⟨readable, holds⟩ := holds.add first names added
      obtain ⟨others, holds⟩ := ih holds rest success
      exact ⟨List.forall_mem_cons.2 ⟨readable, others⟩, by simpa using holds⟩

theorem BodyItem.Readable.exists_add {scope : Scope} {item : BodyItem}
    (readable : item.Readable (scope.built.map Register.name)) (lexed : Lexed item.lexemes)
    (source : List Char) (draft : Draft) : ∃ next, draft.add source scope item = .ok next := by
  cases item with
  | comment c =>
    unfold Draft.add
    dsimp only
    split
    · split <;> exact ⟨_, rfl⟩
    · exact ⟨_, rfl⟩
  | constant constantDecl =>
    obtain ⟨c, read⟩ := ConstantDecl.WellFormed.constant? readable draft.register draft.pending
    simp only [Draft.add, read]
    exact ⟨_, rfl⟩
  | field fieldDecl =>
    obtain ⟨f, read⟩ := FieldDecl.Readable.field? readable lexed draft.register draft.pending
    simp only [Draft.add, read]
    exact ⟨_, rfl⟩

theorem exists_addAll {scope : Scope} {items : List BodyItem}
    (lexed : ∀ item ∈ items, Lexed item.lexemes)
    (readable : ∀ item ∈ items, item.Readable (scope.built.map Register.name))
    (source : List Char) (draft : Draft) :
    ∃ next, Draft.addAll source scope draft items = .ok next := by
  induction items generalizing draft with
  | nil => exact ⟨draft, rfl⟩
  | cons item items ih =>
    obtain ⟨firstLexed, restLexed⟩ := List.forall_mem_cons.1 lexed
    obtain ⟨firstReadable, restReadable⟩ := List.forall_mem_cons.1 readable
    obtain ⟨next, added⟩ := firstReadable.exists_add firstLexed source draft
    obtain ⟨last, rest⟩ := ih restLexed restReadable next
    exact ⟨last, by simp [Draft.addAll, added, rest]⟩

/-- The declaration of a register can be read behind the earlier ones. -/
structure RegisterDecl.Readable (earlier : List RegisterDecl) (decl : RegisterDecl) : Prop where
  number : denoted decl.number ≤ 255
  items : ∀ item ∈ decl.items, item.Readable (earlier.map RegisterDecl.name)

theorem RegisterDecl.lexed_number {decl : RegisterDecl} (lexed : Lexed decl.lexemes) :
    IsToken .number decl.number.toList :=
  lexed.number (by simp [RegisterDecl.lexemes])

theorem RegisterDecl.lexed_items {decl : RegisterDecl} (lexed : Lexed decl.lexemes) :
    ∀ item ∈ decl.items, Lexed item.lexemes := by
  intro item member
  apply lexed.mono
  intro l inside
  have listed : l ∈ decl.items.flatMap BodyItem.lexemes := List.mem_flatMap.2 ⟨item, member, inside⟩
  simp only [RegisterDecl.lexemes, List.mem_cons, List.mem_append]
  tauto

theorem readUnsigned_eight {text : String} (token : IsToken .number text.toList) :
    (denoted text ≤ 255 ∧ Numeral.readUnsigned text.toList 8 = ⟨denoted text, none⟩) ∨
      (¬ denoted text ≤ 255 ∧ (Numeral.readUnsigned text.toList 8).fault ≠ none) := by
  have read : Numeral.readUnsigned text.toList 8 = .within 8 (denoted text) :=
    token.readUnsigned_eq (by decide) (by decide)
  rw [read, Numeral.Reading.within]
  split
  · next small => exact .inl ⟨by omega, rfl⟩
  · next large => exact .inr ⟨by omega, by simp⟩

/-- An empty draft of a register whose number fits. -/
theorem holds_start {earlier : List RegisterDecl} {decl : RegisterDecl}
    (small : denoted decl.number ≤ 255) (doc : List String) :
    Draft.Holds earlier decl [] ⟨{
      name := decl.name, id := UInt8.ofNat (denoted decl.number),
      direction := declaredDirection decl.access, doc }, [], none⟩ := by
  refine ⟨rfl, ?_, rfl, .nil, .nil⟩
  rw [UInt8.toNat_ofNat', Nat.mod_eq_of_lt (by omega)]

theorem RegisterDecl.of_register? {source : List Char} {device : String} {scope : Scope}
    {decl : RegisterDecl} {doc : List String} {r : Register} {earlier : List RegisterDecl}
    (lexed : Lexed decl.lexemes)
    (names : scope.built.map Register.name = earlier.map RegisterDecl.name)
    (success : register? source device scope decl doc = .ok r) :
    decl.Readable earlier ∧ decl.Describes earlier r := by
  unfold register? at success
  rcases readUnsigned_eight (lexed_number lexed) with ⟨small, read⟩ | ⟨-, failed⟩
  · simp only [read] at success
    split at success
    · cases success
    · next draft added =>
      split at success
      · cases success
      · cases success
        obtain ⟨readable, holds⟩ := (holds_start small doc).addAll (lexed_items lexed) names added
        rw [List.nil_append] at holds
        exact ⟨⟨small, readable⟩, holds.name, holds.id, holds.direction, holds.fields,
          holds.constants⟩
  · dsimp only at success
    split at success
    · cases success
    · next none => exact absurd none failed

/-- A readable declaration becomes a register, unless the check of the result objects. -/
theorem RegisterDecl.Readable.exists_register? {device : String} {decl : RegisterDecl}
    {earlier : List RegisterDecl} (readable : decl.Readable earlier) (lexed : Lexed decl.lexemes)
    (scope : Scope)
    (names : scope.built.map Register.name = earlier.map RegisterDecl.name)
    (checked : ∀ r, decl.Describes earlier r →
      Device.checkRegister { name := device, registers := scope.built ++ [r] }
        scope.built.length r = .ok ())
    (source : List Char) (doc : List String) :
    ∃ r, register? source device scope decl doc = .ok r := by
  have small := readable.number
  rcases readUnsigned_eight (lexed_number lexed) with ⟨-, read⟩ | ⟨large, -⟩
  · obtain ⟨draft, added⟩ := exists_addAll (lexed_items lexed) (names ▸ readable.items) source ⟨{
        name := decl.name, id := UInt8.ofNat (denoted decl.number),
        direction := declaredDirection decl.access, doc }, [], none⟩
    obtain ⟨-, holds⟩ := (holds_start small doc).addAll (lexed_items lexed) names added
    rw [List.nil_append] at holds
    have described : decl.Describes earlier draft.register :=
      ⟨holds.name, holds.id, holds.direction, holds.fields, holds.constants⟩
    refine ⟨draft.register, ?_⟩
    simp only [register?, read, added, checked _ described]
  · exact absurd small large

/-! ## Documents -/

/-- What is read off each declaration can be read off its register. -/
theorem Elaborated.map_eq {α : Type} {decls : List RegisterDecl} {registers : List Register}
    (elaborated : Elaborated decls registers) {f : RegisterDecl → α} {g : Register → α}
    (same : ∀ earlier decl r, RegisterDecl.Describes earlier decl r → g r = f decl) :
    registers.map g = decls.map f := by
  apply List.ext_getElem?
  intro i
  simp only [List.getElem?_map]
  cases at' : decls[i]? with
  | none =>
    have outside := List.getElem?_eq_none_iff.1 at'
    rw [List.getElem?_eq_none (by rw [elaborated.length]; exact outside)]
    rfl
  | some decl =>
    have inside := (List.getElem?_eq_some_iff.1 at').1
    rw [← elaborated.length] at inside
    have own := List.getElem?_eq_getElem inside
    rw [own, Option.map_some, Option.map_some, same _ _ _ (elaborated.each i decl _ at' own)]

theorem Elaborated.names {decls : List RegisterDecl} {registers : List Register}
    (elaborated : Elaborated decls registers) :
    registers.map Register.name = decls.map RegisterDecl.name :=
  elaborated.map_eq fun _ _ _ described => described.name

theorem Elaborated.append {decls : List RegisterDecl} {registers : List Register}
    (elaborated : Elaborated decls registers) {decl : RegisterDecl} {r : Register}
    (described : decl.Describes decls r) : Elaborated (decls ++ [decl]) (registers ++ [r]) := by
  have length := elaborated.length
  refine ⟨by simp [length], ?_⟩
  intro i other s declAt registerAt
  by_cases inside : i < decls.length
  · rw [List.getElem?_append_left inside] at declAt
    rw [List.getElem?_append_left (by omega)] at registerAt
    rw [List.take_append_of_le_length inside.le]
    exact elaborated.each i other s declAt registerAt
  · have last : i = decls.length := by
      have bound := (List.getElem?_eq_some_iff.1 declAt).1
      simp only [List.length_append, List.length_singleton] at bound
      omega
    subst last
    rw [List.getElem?_concat_length] at declAt
    rw [← length, List.getElem?_concat_length] at registerAt
    cases declAt
    cases registerAt
    rwa [List.take_left]

/-- The registers of a document, taken in order behind those that were built before. -/
theorem Elaborated.of_registers? {source : List Char} {device : String} {declared : List String}
    {earlier : List RegisterDecl} {built all : List Register} {pending : List String}
    {items : List TopItem} (elaborated : Elaborated earlier built)
    (lexed : ∀ item ∈ items, Lexed item.lexemes)
    (success : registers? source device declared built pending items = .ok all) :
    Elaborated (earlier ++ registersOf items) all ∧
      ∀ (k : Nat) (decl : RegisterDecl), (registersOf items)[k]? = some decl →
        decl.Readable (earlier ++ (registersOf items).take k) := by
  induction items generalizing earlier built pending with
  | nil =>
    cases success
    exact ⟨by simpa [registersOf] using elaborated, by simp [registersOf]⟩
  | cons item items ih =>
    obtain ⟨first, rest⟩ := List.forall_mem_cons.1 lexed
    cases item with
    | comment c => exact ih elaborated rest success
    | register decl =>
      unfold registers? at success
      split at success
      · cases success
      · next r read =>
        obtain ⟨readable, described⟩ := RegisterDecl.of_register? first elaborated.names read
        obtain ⟨whole, others⟩ := ih (elaborated.append described) rest success
        have declared : registersOf (.register decl :: items) = decl :: registersOf items := rfl
        rw [declared]
        refine ⟨by simpa using whole, ?_⟩
        -- For the later registers this one is among those declared before.
        intro k other declAt
        cases k with
        | zero =>
          cases declAt
          simpa using readable
        | succ k => simpa using others k other (by simpa using declAt)

end RegisterMap.Definition
