import RegisterMap.Proofs.Definition.Loading
import RegisterMap.Proofs.Group.Listing
import RegisterMap.Proofs.Numeral.Index

/-! # Paths and listed values

The path of a listed value is printed field by field, and looking up a path takes it apart again. A
path finds a value exactly if it is the path of a listed one, up to the way its indexes are written
(`Path.Respells`). This rests on the names of the fields: they are distinct, and since they are
identifiers, none of them contains a point or a bracket. -/

namespace RegisterMap

namespace Path

/-! ## Other spellings of a path -/

/-- The first path is the second one, which writes its indexes without signs and leading zeros, with
    some of the indexes written in another way. -/
inductive Respells : List Char → List Char → Prop where
  | nil : Respells [] []
  | char (c : Char) {path name : List Char} (rest : Respells path name) :
      Respells (c :: path) (c :: name)
  | index {k : Nat} {text path name : List Char} (spelled : Numeral.SpellsIndex k text)
      (rest : Respells path name) :
      Respells ('[' :: (text ++ ']' :: path)) ('[' :: (Numeral.chars 10 k ++ ']' :: name))

namespace Respells

theorem refl (path : List Char) : Respells path path := by
  induction path with
  | nil => exact .nil
  | cons c path ih => exact .char c ih

theorem head?_eq {path name : List Char} (respells : Respells path name) :
    path.head? = name.head? := by
  cases respells <;> rfl

theorem cons_cases {c : Char} {path name : List Char} (respells : Respells path (c :: name)) :
    (∃ rest, path = c :: rest ∧ Respells rest name) ∨
      ∃ k text rest tail, c = '[' ∧ path = '[' :: (text ++ ']' :: rest) ∧
        name = Numeral.chars 10 k ++ ']' :: tail ∧ Numeral.SpellsIndex k text ∧
        Respells rest tail := by
  generalize whole : c :: name = listed at respells
  cases respells with
  | nil => cases whole
  | char c rest =>
    cases whole
    exact .inl ⟨_, rfl, rest⟩
  | index spelled rest =>
    cases whole
    exact .inr ⟨_, _, _, _, rfl, rfl, rfl, spelled, rest⟩

/-- In front of the first bracket there is nothing to spell in another way. -/
theorem append_iff (name : List Char) {path suffix : List Char} (plain : ∀ c ∈ name, c ≠ '[') :
    Respells path (name ++ suffix) ↔ ∃ rest, path = name ++ rest ∧ Respells rest suffix := by
  induction name generalizing path with
  | nil => simp
  | cons c name ih =>
    obtain ⟨first, plain⟩ := List.forall_mem_cons.1 plain
    constructor
    · intro respells
      obtain ⟨rest, rfl, later⟩ | ⟨_, _, _, _, bracket, -⟩ := respells.cons_cases
      · obtain ⟨rest, rfl, same⟩ := (ih plain).1 later
        exact ⟨rest, rfl, same⟩
      · contradiction
    · rintro ⟨rest, rfl, same⟩
      exact .char c ((ih plain).2 ⟨rest, rfl, same⟩)

theorem nil_iff {path : List Char} : Respells path [] ↔ path = [] := by
  constructor
  · rintro ⟨⟩
    rfl
  · rintro rfl
    exact .nil

theorem point_iff {path name : List Char} :
    Respells path ('.' :: name) ↔ ∃ inner, path = '.' :: inner ∧ Respells inner name :=
  append_iff ['.'] (by simp)

end Respells

/-! ## Splitting a path -/

/-- A name as fields have it. -/
def IsPlain (name : List Char) : Prop :=
  ∀ c ∈ name, c ≠ '.' ∧ c ≠ '['

theorem split_eq (path : List Char) :
    split path = (path.takeWhile fun c => c != '.' && c != '[',
      path.dropWhile fun c => c != '.' && c != '[') :=
  List.span_eq_takeWhile_dropWhile _ _

theorem split_append (path : List Char) : (split path).1 ++ (split path).2 = path := by
  rw [split_eq]
  exact List.takeWhile_append_dropWhile

theorem split_of_plain {name suffix : List Char} (plain : IsPlain name)
    (ended : ∀ c ∈ suffix.head?, c = '.' ∨ c = '[') : split (name ++ suffix) = (name, suffix) := by
  have inside : ∀ c ∈ name, (c != '.' && c != '[') = true := by simpa [IsPlain] using plain
  have stops : suffix.takeWhile (fun c => c != '.' && c != '[') = [] ∧
      suffix.dropWhile (fun c => c != '.' && c != '[') = suffix := by
    cases suffix with
    | nil => exact ⟨rfl, rfl⟩
    | cons c suffix =>
      have stop : (c != '.' && c != '[') = false := by
        rcases ended c rfl with rfl | rfl <;> rfl
      exact ⟨List.takeWhile_cons_of_neg (by simp [stop]),
        List.dropWhile_cons_of_neg (by simp [stop])⟩
  rw [split_eq, List.takeWhile_append_of_pos inside, List.dropWhile_append_of_pos inside, stops.1,
    stops.2, List.append_nil]

/-- A path respells one that starts with a name exactly if it starts with the name itself and
    respells what follows it. -/
theorem respells_append_iff {name path suffix : List Char} (plain : IsPlain name)
    (ended : ∀ c ∈ suffix.head?, c = '.' ∨ c = '[') :
    Respells path (name ++ suffix) ↔ (split path).1 = name ∧ Respells (split path).2 suffix := by
  rw [Respells.append_iff name fun c member => (plain c member).2]
  constructor
  · rintro ⟨rest, rfl, respells⟩
    rw [split_of_plain plain (respells.head?_eq ▸ ended)]
    exact ⟨rfl, respells⟩
  · rintro ⟨rfl, respells⟩
    exact ⟨_, (split_append path).symm, respells⟩

theorem index?_eq_some_iff {suffix : List Char} {index : Int} :
    index? suffix = some index ↔
      ∃ text, suffix = '[' :: (text ++ [']']) ∧ Numeral.readIndex text = some index := by
  constructor
  · intro read
    unfold index? at read
    split at read
    · next cs =>
      split at read
      · next digits reversed =>
        refine ⟨digits.reverse, ?_, read⟩
        rw [← List.reverse_reverse cs, reversed, List.reverse_cons]
      · cases read
    · cases read
  · rintro ⟨text, rfl, read⟩
    simpa [index?] using read

theorem digits_plain (k : Nat) : ∀ c ∈ Numeral.chars 10 k, c ≠ '[' ∧ c ≠ ']' := by
  intro c member
  have range := ((Numeral.isDecimal_chars k).proper c member).decimal_range
  constructor <;> rintro rfl <;> revert range <;> decide

/-- What stands for an index in brackets is what the reader takes. -/
theorem respells_index_iff {k : Nat} (small : k < 2 ^ 63) {path : List Char} :
    Respells path ('[' :: (Numeral.chars 10 k ++ [']'])) ↔ index? path = some (k : Int) := by
  simp only [index?_eq_some_iff, Numeral.readIndex_eq_some_iff small]
  constructor
  · intro respells
    obtain ⟨rest, rfl, same⟩ | ⟨n, text, rest, tail, -, rfl, printed, spelled, same⟩ :=
      respells.cons_cases
    · have plain : ∀ c ∈ Numeral.chars 10 k ++ [']'], c ≠ '[' := by
        intro c member
        rcases List.mem_append.1 member with digit | last
        · exact (digits_plain k c digit).1
        · simp_all
      rw [← List.append_nil (Numeral.chars 10 k ++ [']']), Respells.append_iff _ plain] at same
      obtain ⟨rest, rfl, last⟩ := same
      rw [Respells.nil_iff.1 last, List.append_nil]
      exact ⟨_, rfl, .plain (Numeral.isDecimal_chars k)⟩
    · -- The digits end at the only closing bracket, so they are the same.
      have closing : ']' ∉ Numeral.chars 10 k := fun member => (digits_plain k _ member).2 rfl
      obtain ⟨digits, -, rfl⟩ :=
        (List.append_cons_inj_of_notMem closing List.not_mem_nil).1 printed
      have number := (Numeral.isDecimal_chars n).number
      rw [← digits, (Numeral.isDecimal_chars k).number] at number
      rw [Respells.nil_iff.1 same, number]
      exact ⟨text, rfl, spelled⟩
  · rintro ⟨text, rfl, spelled⟩
    exact .index spelled .nil

end Path

/-! ## Names of fields -/

/-- The fields can be told apart by the start of a path, and their elements by an index. -/
structure Field.Addressable (fs : List Field) : Prop where
  distinct : (fs.map Field.name).Nodup
  plain : ∀ f ∈ fs, Path.IsPlain f.name.toList
  small : ∀ f ∈ fs, f.count < 2 ^ 63

theorem Field.Addressable.tail {f : Field} {fs : List Field} (addressable : Addressable (f :: fs)) :
    Addressable fs where
  distinct := (List.nodup_cons.1 addressable.distinct).2
  plain g member := addressable.plain g (List.mem_cons_of_mem f member)
  small g member := addressable.small g (List.mem_cons_of_mem f member)

namespace Device

variable {d : Device} {f : Field} {fs : List Field} {path : List Char}

theorem exists_field_of_slot? {slot : Slot} (leads : d.slot? fs path = some slot) :
    ∃ f ∈ fs, (Path.split path).1 = f.name.toList := by
  induction fs generalizing slot with
  | nil =>
    rw [slot?] at leads
    cases leads
  | cons f fs ih =>
    by_cases name : (Path.split path).1 = f.name.toList
    · exact ⟨f, List.mem_cons_self, name⟩
    · rw [slot?_of_ne name] at leads
      obtain ⟨slot, later, -⟩ := Option.map_eq_some_iff.1 leads
      obtain ⟨f, member, name⟩ := ih later
      exact ⟨f, List.mem_cons_of_mem _ member, name⟩

theorem slot?_eq_element_iff {k : Nat} (held : f.register = none) :
    d.slot? (f :: fs) path = some (.element k) ↔
      (Path.split path).1 = f.name.toList ∧ f.element? (Path.split path).2 = some k := by
  by_cases name : (Path.split path).1 = f.name.toList
  · rw [slot?_of_scalar name held]
    simp [name]
  · rw [slot?_of_ne name]
    simp [name]

theorem slot?_eq_inside_iff {j : Nat} {slot : Slot} (held : f.register = some j) :
    d.slot? (f :: fs) path = some (.inside slot) ↔
      (Path.split path).1 = f.name.toList ∧
        ∃ inner, (Path.split path).2 = '.' :: inner ∧
          d.slot? (d.fieldsOf j) inner = some slot := by
  by_cases name : (Path.split path).1 = f.name.toList
  · rw [slot?_of_register name held]
    split
    · next inner point => simp [name, point]
    · next other =>
      refine iff_of_false (by simp) ?_
      rintro ⟨-, inner, point, -⟩
      exact other inner point
  · rw [slot?_of_ne name]
    simp [name]

theorem slot?_eq_after_iff {slot : Slot} (distinct : ((f :: fs).map Field.name).Nodup) :
    d.slot? (f :: fs) path = some (.after slot) ↔ d.slot? fs path = some slot := by
  by_cases name : (Path.split path).1 = f.name.toList
  · refine iff_of_false ?_ ?_
    · cases held : f.register with
      | none =>
        rw [slot?_of_scalar name held]
        simp
      | some j =>
        rw [slot?_of_register name held]
        split <;> simp
    · -- A later field would have to have the same name.
      intro later
      obtain ⟨other, member, same⟩ := exists_field_of_slot? later
      have equal : other.name = f.name := String.toList_inj.1 (same.symm.trans name)
      exact (List.nodup_cons.1 distinct).1 (equal ▸ List.mem_map_of_mem member)
  · rw [slot?_of_ne name]
    simp

end Device

/-! ## Listed paths -/

namespace Field

variable {f : Field} {suffix : List Char}

theorem element?_eq_zero_iff (single : f.count = 0) :
    f.element? suffix = some 0 ↔ Path.Respells suffix [] := by
  rw [Path.Respells.nil_iff]
  simp [element?, single]

theorem element?_eq_some_iff {k : Nat} (within : (k : Int) < f.count) (small : k < 2 ^ 63) :
    f.element? suffix = some k ↔
      Path.Respells suffix ('[' :: (Numeral.chars 10 k ++ [']'])) := by
  rw [Path.respells_index_iff small, element?, if_pos (by omega)]
  cases Path.index? suffix with
  | none => simp
  | some index =>
    simp only [Option.bind_some, Option.some.injEq]
    split_ifs with range
    · rw [Option.some.injEq]
      omega
    · refine iff_of_false (by simp) ?_
      rintro rfl
      exact range ⟨by omega, within⟩

end Field

namespace Cells

theorem toList_elementPath (name : String) (k : Nat) :
    (elementPath name k).toList = name.toList ++ '[' :: (Numeral.chars 10 k ++ [']']) := by
  simp [elementPath, Numeral.decimal]

theorem toList_innerPath (name path : String) :
    (innerPath name path).toList = name.toList ++ '.' :: path.toList := by
  simp [innerPath]

namespace Fits

variable {d : Device} {fs : List Field} {cells : Cells}

/-- A path leads to a listed slot exactly if it respells the path under which it is listed. -/
theorem slot?_eq_some_iff (fits : Fits d fs cells) (addressable : Field.Addressable fs)
    (inner : ∀ r ∈ d.registers, Field.Addressable r.fields) {e : Slot × String × Value}
    (listed : e ∈ cells.listing) (path : List Char) :
    d.slot? fs path = some e.1 ↔ Path.Respells path e.2.1.toList := by
  -- The entries of the first field start with its name and differ in what follows it; all others
  -- start with another name, so that the first field does not get in their way.
  induction fits generalizing e path with
  | nil => cases listed
  | @scalar f fs value rest held single _ _ ih =>
    have plain := addressable.plain f List.mem_cons_self
    rcases List.mem_cons.1 listed with rfl | later
    · rw [Device.slot?_eq_element_iff held, Field.element?_eq_zero_iff single,
        ← Path.respells_append_iff plain (by simp), List.append_nil]
    · obtain ⟨e, inside, rfl⟩ := List.mem_map.1 later
      rw [Device.slot?_eq_after_iff addressable.distinct]
      exact ih addressable.tail inside path
  | @array f fs values rest held several length _ _ ih =>
    have plain := addressable.plain f List.mem_cons_self
    have small := addressable.small f List.mem_cons_self
    rcases List.mem_append.1 listed with first | later
    · obtain ⟨⟨v, k⟩, element, rfl⟩ := List.mem_map.1 first
      have within := (List.getElem?_eq_some_iff.1 (List.mem_zipIdx_iff_getElem?.1 element)).1
      rw [Device.slot?_eq_element_iff held, Field.element?_eq_some_iff (by omega) (by omega),
        ← Path.respells_append_iff plain (by simp), toList_elementPath]
    · obtain ⟨e, inside, rfl⟩ := List.mem_map.1 later
      rw [Device.slot?_eq_after_iff addressable.distinct]
      exact ih addressable.tail inside path
  | @nested f fs j r _ _ held own _ _ innerIh ih =>
    have plain := addressable.plain f List.mem_cons_self
    rcases List.mem_append.1 listed with first | later
    · obtain ⟨e, inside, rfl⟩ := List.mem_map.1 first
      rw [Device.slot?_eq_inside_iff held, Device.fieldsOf_of_own own, toList_innerPath,
        Path.respells_append_iff plain (by simp), Path.Respells.point_iff]
      simp only [innerIh (inner r (List.mem_of_getElem? own)) inside]
    · obtain ⟨e, inside, rfl⟩ := List.mem_map.1 later
      rw [Device.slot?_eq_after_iff addressable.distinct]
      exact ih addressable.tail inside path

/-- So no path is listed twice, up to spelling. -/
theorem eq_of_respells (fits : Fits d fs cells) (addressable : Field.Addressable fs)
    (inner : ∀ r ∈ d.registers, Field.Addressable r.fields) {e e' : Slot × String × Value}
    (left : e ∈ cells.listing) (right : e' ∈ cells.listing) {path : List Char}
    (first : Path.Respells path e.2.1.toList) (second : Path.Respells path e'.2.1.toList) :
    e = e' := by
  rw [← fits.slot?_eq_some_iff addressable inner left] at first
  rw [← fits.slot?_eq_some_iff addressable inner right] at second
  exact List.inj_on_of_nodup_map cells.nodup_slots left right
    (Option.some.inj (first.symm.trans second))

theorem nodup_paths (fits : Fits d fs cells) (addressable : Field.Addressable fs)
    (inner : ∀ r ∈ d.registers, Field.Addressable r.fields) :
    (cells.values.map Prod.fst).Nodup := by
  rw [← map_snd_listing, List.map_map]
  refine List.Nodup.map_on ?_ (List.Nodup.of_map _ cells.nodup_slots)
  intro e left e' right (same : e.2.1 = e'.2.1)
  exact fits.eq_of_respells addressable inner left right (.refl _) (same ▸ .refl _)

theorem get?_eq_some_iff (fits : Fits d fs cells) (addressable : Field.Addressable fs)
    (inner : ∀ r ∈ d.registers, Field.Addressable r.fields) {path : List Char} {v : Value} :
    cells.get? path = some v ↔
      ∃ name, (name, v) ∈ cells.values ∧ Path.Respells path name.toList := by
  rw [fits.get?_eq, Option.bind_eq_some_iff, ← map_snd_listing]
  constructor
  · rintro ⟨slot, leads, holds⟩
    obtain ⟨name, listed⟩ := exists_mem_listing holds
    exact ⟨name, List.mem_map_of_mem listed,
      (fits.slot?_eq_some_iff addressable inner listed path).1 leads⟩
  · rintro ⟨name, member, respells⟩
    obtain ⟨e, listed, same⟩ := List.mem_map.1 member
    obtain ⟨slot, _, _⟩ := e
    cases same
    exact ⟨slot, (fits.slot?_eq_some_iff addressable inner listed path).2 respells,
      at?_of_mem_listing listed⟩

end Fits

end Cells

/-! ## Loaded devices -/

namespace Definition

theorem IsToken.isPlain {text : List Char} (token : IsToken .identifier text) :
    Path.IsPlain text := by
  intro c member
  rcases token.part_or_dash member with part | rfl
  · rw [isIdentifierPart_iff, isIdentifierStart_iff] at part
    constructor <;> rintro rfl <;> revert part <;> decide
  · decide

theorem FieldDecl.isPlain {decl : FieldDecl} (lexed : Lexed decl.lexemes) :
    Path.IsPlain decl.name.toList := by
  have proper : (Lexeme.identifier decl.name).Proper := lexed _ (by simp [FieldDecl.lexemes])
  exact proper.token.isPlain

theorem FieldDecl.Readable.count_le {names : List String} {earlier : List RegisterDecl}
    {outer : RegisterDecl} {decl : FieldDecl} {f : Field} (readable : decl.Readable names)
    (described : decl.Describes earlier outer f) : f.count ≤ 65535 := by
  rw [described.count]
  cases given : decl.size with
  | none => simp
  | some size =>
    obtain ⟨text, rfl, -, bound⟩ := readable.size size given
    simp only [Option.elim_some, ArraySize.text]
    omega

/-- The fields of a register that was loaded have distinct identifiers as their names. -/
theorem addressable_of_load {source : String} {d : Device} (loaded : load source = .ok d) :
    ∀ r ∈ d.registers, Field.Addressable r.fields := by
  obtain ⟨doc, parsed⟩ := exists_parse_of_load loaded
  obtain ⟨built, valid⟩ := (load_eq_ok_iff parsed).1 loaded
  have lexed := lexed_of_parse parsed
  obtain ⟨described, readable⟩ := Document.of_device? lexed built
  intro r member
  -- A field stands for a declaration of the tree, and the name there is a token.
  have rules := (Device.Consistent.of_validate valid).registers r member
  obtain ⟨i, own⟩ := List.mem_iff_getElem?.1 member
  obtain ⟨decl, declAt⟩ := described.registers.exists_decl own
  have fields := (described.registers.each i decl r declAt own).fields
  have lexedDecl : Lexed decl.lexemes :=
    lexed _ (mem_registersOf.1 (List.mem_of_getElem? declAt))
  refine ⟨rules.names.of_append_left, ?_, ?_⟩
  · intro f within
    obtain ⟨fieldDecl, inside, field⟩ := exists_of_forall₂_right fields within
    rw [field.name]
    exact FieldDecl.isPlain (RegisterDecl.lexed_items lexedDecl _ (mem_fieldsOf.1 inside))
  · intro f within
    obtain ⟨fieldDecl, inside, field⟩ := exists_of_forall₂_right fields within
    have bound := FieldDecl.Readable.count_le
      ((readable i decl declAt).items _ (mem_fieldsOf.1 inside)) field
    omega

end Definition

/-- In a group of a device that was loaded, the listed paths are distinct, and they are the paths
    that find a value, up to the spelling of indexes. A path that finds none is reported with the
    register of the group, however far into nested registers it led. -/
theorem paths_find_listed_values {source : String} {d : Device}
    (loaded : Definition.load source = .ok d) {i : Nat} {r : Register}
    (own : d.registers[i]? = some r) {g : Group} (reachable : d.Reachable i g) :
    (g.values.map Prod.fst).Nodup ∧
    (∀ path v, g.get? path = .ok v ↔
      ∃ name, (name, v) ∈ g.values ∧ Path.Respells path.toList name.toList) ∧
    (∀ path : String, (∀ name v, (name, v) ∈ g.values → ¬ Path.Respells path.toList name.toList) →
      g.get? path = .error (.unknownField r.name path)) ∧
    ∀ (path : String) (e e' : String × Value), e ∈ g.values → e' ∈ g.values →
      Path.Respells path.toList e.1.toList → Path.Respells path.toList e'.1.toList → e = e' := by
  have inner := Definition.addressable_of_load loaded
  have addressable := inner r (List.mem_of_getElem? own)
  have consistent := Device.Consistent.of_validate (Definition.validate_of_load loaded)
  have isOf := reachable.isOf consistent own
  have finds : ∀ path v, g.get? path = .ok v ↔
      ∃ name, (name, v) ∈ g.values ∧ Path.Respells path.toList name.toList := by
    intro path v
    rw [Group.get?_eq_ok_iff]
    exact isOf.fits.get?_eq_some_iff addressable inner
  refine ⟨isOf.fits.nodup_paths addressable inner, finds, ?_, ?_⟩
  · intro path unlisted
    cases outcome : g.cells.get? path.toList with
    | none =>
      rw [Group.get?, outcome, isOf.name_eq]
    | some v =>
      obtain ⟨name, listed, respells⟩ := (finds path v).1 (Group.get?_eq_ok_iff.2 outcome)
      exact absurd respells (unlisted name v listed)
  · intro path e e' listed listedToo respells respellsToo
    rw [Group.values, ← Cells.map_snd_listing] at listed listedToo
    obtain ⟨x, member, rfl⟩ := List.mem_map.1 listed
    obtain ⟨y, memberToo, rfl⟩ := List.mem_map.1 listedToo
    rw [isOf.fits.eq_of_respells addressable inner member memberToo respells respellsToo]

/-- A file with a register inside another one. -/
def frameFile : String :=
  "device d\nregister status(1)\x7blevel[12]int16;\x7d;" ++
    "register frame(2):w\x7bhead uint16;body status;\x7d;"

/-- The device that the file defines. -/
def frameDevice : Device where
  name := "d"
  registers :=
    [{ name := "status", id := 1, direction := .readWrite,
       fields := [{ name := "level", kind := .int16, count := 12, access := .readWrite }] },
     { name := "frame", id := 2, direction := .writeOnly,
       fields := [{ name := "head", kind := .uint16, access := .writeOnly },
                  { name := "body", register := some 0, access := .writeOnly }] }]

theorem frame_path_respelled :
    Definition.load frameFile = .ok frameDevice ∧
      ((frameDevice.newGroup 1).run [.setInt "body.level[10]" (-2)]).get? "body.level[+010]" =
        .ok ⟨.int16, 0xfffe⟩ := by
  have loaded : Definition.load frameFile = .ok frameDevice := by
    have device : (Definition.load frameFile).toOption = some frameDevice := by decide +kernel
    obtain ⟨d, loaded⟩ := exists_ok_of_isSome (by rw [device]; rfl)
    rw [loaded] at device
    cases device
    exact loaded
  have spelled : Numeral.SpellsIndex 10 "+010".toList :=
    Numeral.spellsIndex_of_readIndex (by decide)
  have respells : Path.Respells "body.level[+010]".toList
      ("body.level".toList ++ "[10]".toList) :=
    (Path.Respells.append_iff _ (by simp)).2 ⟨_, rfl, .index spelled .nil⟩
  obtain ⟨-, finds, -⟩ := paths_find_listed_values loaded (i := 1) rfl
    ⟨[.setInt "body.level[10]" (-2)], rfl⟩
  exact ⟨loaded, (finds _ _).2 ⟨"body.level[10]", by decide, respells⟩⟩

end RegisterMap
