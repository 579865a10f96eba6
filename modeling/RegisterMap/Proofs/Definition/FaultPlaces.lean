import RegisterMap.Proofs.Definition.Comments
import RegisterMap.Proofs.Definition.Cutting
import RegisterMap.Proofs.Definition.Loading

/-! # The places that are reported

A fault of a declaration is reported at a place that the tree of the file keeps
(`place_of_declaration`), so at the place of a token. A comment of the tree stands where its text
begins in the file, and the look for something in front of it sees just the text before it
(`cut_at_comment`). Together with the cutting of the file into tokens this says that every place is
true (`scan_partitions_and_places`). -/

namespace RegisterMap.Definition

/-! ## Faults -/

section Faults

variable {p : Position} {fault : DeclarationFault}

theorem bitRanges?_fault {register field : String} {bits : List BitDecl}
    (failed : bitRanges? register field bits = .error (p, fault)) :
    ∃ b ∈ bits, b.position = p := by
  induction bits with
  | nil => cases failed
  | cons b bits ih =>
    rw [bitRanges?] at failed
    split at failed
    · cases failed
      exact ⟨b, List.mem_cons_self, rfl⟩
    · split at failed
      · next later =>
        cases failed
        obtain ⟨b, member, place⟩ := ih later
        exact ⟨b, List.mem_cons_of_mem _ member, place⟩
      · cases failed

theorem field?_fault {scope : Scope} {outer : Register} {decl : FieldDecl} {doc : List String}
    (failed : field? scope outer decl doc = .error (p, fault)) : p ∈ decl.positions := by
  unfold field? at failed
  dsimp only at failed
  -- A fault of the type or the size is the field's own; a bit range reports its own place.
  split at failed
  · cases failed
    exact List.mem_cons_self
  · split at failed
    · cases failed
      exact List.mem_cons_self
    · split at failed
      · next failedBits =>
        cases failed
        obtain ⟨b, member, rfl⟩ := bitRanges?_fault failedBits
        exact List.mem_cons_of_mem _ (List.mem_map_of_mem member)
      · cases failed

theorem constant?_fault {outer : Register} {decl : ConstantDecl} {doc : List String}
    (failed : constant? outer decl doc = .error (p, fault)) : p = decl.position := by
  unfold constant? at failed
  split at failed
  · cases failed
    rfl
  · split at failed <;> cases failed
    rfl

theorem Draft.add_fault {source : List Char} {scope : Scope} {draft : Draft} {item : BodyItem}
    (failed : draft.add source scope item = .error (p, fault)) : p ∈ item.positions := by
  cases item with
  | comment c =>
    simp only [Draft.add] at failed
    split at failed
    · split at failed <;> cases failed
    · cases failed
  | constant decl =>
    simp only [Draft.add] at failed
    split at failed
    · next failedConstant =>
      cases failed
      exact List.mem_singleton.2 (constant?_fault failedConstant)
    · cases failed
  | field decl =>
    simp only [Draft.add] at failed
    split at failed
    · next failedField =>
      cases failed
      exact field?_fault failedField
    · cases failed

theorem Draft.addAll_fault {source : List Char} {scope : Scope} {draft : Draft}
    {items : List BodyItem} (failed : draft.addAll source scope items = .error (p, fault)) :
    ∃ item ∈ items, p ∈ item.positions := by
  induction items generalizing draft with
  | nil => cases failed
  | cons item items ih =>
    rw [Draft.addAll] at failed
    split at failed
    · next failedItem =>
      cases failed
      exact ⟨item, List.mem_cons_self, Draft.add_fault failedItem⟩
    · obtain ⟨later, member, inside⟩ := ih failed
      exact ⟨later, List.mem_cons_of_mem _ member, inside⟩

theorem register?_fault {source : List Char} {device : String} {scope : Scope}
    {decl : RegisterDecl} {doc : List String}
    (failed : register? source device scope decl doc = .error (p, fault)) :
    p ∈ decl.positions := by
  have own : decl.position ∈ decl.positions := List.mem_cons_self
  unfold register? at failed
  dsimp only at failed
  split at failed
  · cases failed
    exact own
  · split at failed
    · next failedItems =>
      cases failed
      obtain ⟨item, member, inside⟩ := Draft.addAll_fault failedItems
      exact List.mem_cons_of_mem _ (List.mem_flatMap.2 ⟨item, member, inside⟩)
    · split at failed <;> cases failed
      exact own

theorem registers?_fault {source : List Char} {device : String} {declared : List String}
    {built : List Register} {pending : List String} {items : List TopItem}
    (failed : registers? source device declared built pending items = .error (p, fault)) :
    ∃ item ∈ items, p ∈ item.positions := by
  induction items generalizing built pending with
  | nil => cases failed
  | cons item items ih =>
    have later (found : ∃ item ∈ items, p ∈ item.positions) :
        ∃ found ∈ item :: items, p ∈ found.positions := by
      obtain ⟨found, member, inside⟩ := found
      exact ⟨found, List.mem_cons_of_mem _ member, inside⟩
    cases item with
    | comment c => exact later (ih failed)
    | register decl =>
      rw [registers?] at failed
      split at failed
      · next failedRegister =>
        cases failed
        exact ⟨.register decl, List.mem_cons_self, register?_fault failedRegister⟩
      · exact later (ih failed)

/-- A fault of a declaration stands at one of the places of the tree. -/
theorem place_of_declaration {source : String}
    (failed : load source = .error (.declaration p fault)) :
    ∃ doc, parse source = .ok doc ∧ p ∈ doc.positions := by
  unfold load at failed
  split at failed
  · cases failed
  · next doc parsed =>
    refine ⟨doc, parsed, ?_⟩
    -- What the last check refuses is a fault of the device as a whole, which has no place.
    split at failed
    · next failedDevice =>
      cases failed
      unfold Document.device? at failedDevice
      split at failedDevice
      · next failedRegisters =>
        cases failedDevice
        obtain ⟨item, member, inside⟩ := registers?_fault failedRegisters
        exact List.mem_cons_of_mem _ (List.mem_flatMap.2 ⟨item, member, inside⟩)
      · cases failedDevice
    · split at failed <;> cases failed

end Faults

/-! ## Texts in front of places -/

/-- A token begins at the place, and the text in front of it ends there. -/
def IsTokenPlace (source : String) (p : Position) : Prop :=
  ∃ front t rest, (scan source.toList).tokens = front ++ t :: rest ∧ p = .endOf (spelling front)

theorem isTokenPlace_of_mem {source : String} {t : Token}
    (scanned : t ∈ (scan source.toList).tokens) : IsTokenPlace source t.position := by
  obtain ⟨front, rest, whole⟩ := List.append_of_mem scanned
  exact ⟨front, t, rest, whole, position_eq_endOf whole⟩

theorem isTokenPlace_of_parse {source : String} {doc : Document}
    (success : parse source = .ok doc) {p : Position} (member : p ∈ doc.positions) :
    IsTokenPlace source p := by
  rw [← Document.places_layout] at member
  obtain ⟨m, within, place⟩ := List.mem_filterMap.1 member
  obtain ⟨t, scanned, fits⟩ := exists_of_forall₂_right (layout_of_parse success) within
  rw [← fits.2 p place]
  exact isTokenPlace_of_mem (List.mem_of_mem_filter scanned)

/-- The text of a comment begins at its place. -/
theorem cut_at_comment {source : String} {doc : Document} (success : parse source = .ok doc)
    {c : Comment} (member : c ∈ doc.comments) :
    ∃ front rest, source.toList = front ++ (c.text.toList ++ rest) ∧ c.position = .endOf front := by
  obtain ⟨t, scanned, text, place⟩ := exists_token_of_comment success member
  obtain ⟨front, rest, whole⟩ := List.append_of_mem scanned
  have spelled := spelling_scanFrom source.toList.length {} source.toList
  rw [← scan, whole, spelling_append, spelling_cons, List.append_assoc, List.append_assoc]
    at spelled
  rw [← text, ← place, position_eq_endOf whole]
  exact ⟨spelling front, _, spelled.symm, rfl⟩

/-- The place behind the beginning of a text is within it, and cuts it there. -/
theorem offset_endOf {source : String} {front rest : List Char}
    (whole : source.toList = front ++ rest) :
    (Position.endOf front).offset ≤ source.utf8ByteSize ∧
      textBefore (Position.endOf front).offset source.toList = front := by
  have offset : (Position.endOf front).offset = (front.map Char.utf8Size).sum :=
    utf8ByteSize_ofList front
  constructor
  · rw [offset, ← String.ofList_toList (s := source), utf8ByteSize_ofList, whole, List.map_append,
      List.sum_append]
    exact Nat.le_add_right _ _
  · rw [offset, whole, textBefore_append]

/-! ## Files -/

/-- A file is cut into tokens in one way, from its start to its end or to the first place where no
    class has a token; the tokens cover it up to there, and stray text is reported there. Every
    token stands where the text before it ends. So does every place of a tree and of a fault of a
    declaration: a tree is its tokens but for white space, and keeps the places of some of them. At
    the place of a comment the file can be cut in front of its text. -/
theorem scan_partitions_and_places (source : String) :
    (∀ ls left, Cuts source.toList ls left ↔
      ls = (scan source.toList).tokens.map Token.lexeme ∧ left = (scan source.toList).left) ∧
    source.toList = spelling (scan source.toList).tokens ++ (scan source.toList).left ∧
    (∀ p text, parse source = .error (.strayText p text) ↔
      text ≠ [] ∧ text = (scan source.toList).left ∧
        p = .endOf (spelling (scan source.toList).tokens)) ∧
    (∀ front t rest, (scan source.toList).tokens = front ++ t :: rest →
      t.position = .endOf (spelling front)) ∧
    (∀ doc, parse source = .ok doc →
      List.Forall₂ Token.FitsAt
        ((scan source.toList).tokens.filter fun t => t.tokenClass != .blank) doc.layout ∧
      (∀ p ∈ doc.positions, IsTokenPlace source p) ∧
      ∀ c ∈ doc.comments, ∃ front rest, source.toList = front ++ (c.text.toList ++ rest) ∧
        c.position = .endOf front ∧ c.position.offset ≤ source.utf8ByteSize ∧
        textBefore c.position.offset source.toList = front) ∧
    (∀ p fault, load source = .error (.declaration p fault) →
      ∃ doc, parse source = .ok doc ∧ p ∈ doc.positions ∧ IsTokenPlace source p) := by
  refine ⟨fun ls left => ⟨fun cut => cut.unique (cuts_scan _), ?unique⟩,
    (spelling_scanFrom _ {} source.toList).symm, fun p text => parse_eq_strayText_iff,
    fun front t rest => position_eq_endOf,
    fun doc success => ⟨layout_of_parse success, fun p => isTokenPlace_of_parse success, ?comments⟩,
    ?faults⟩
  case unique =>
    rintro ⟨rfl, rfl⟩
    exact cuts_scan _
  case comments =>
    intro c member
    obtain ⟨front, rest, whole, place⟩ := cut_at_comment success member
    rw [place]
    exact ⟨front, rest, whole, rfl, offset_endOf whole⟩
  case faults =>
    intro p fault failed
    obtain ⟨doc, success, member⟩ := place_of_declaration failed
    exact ⟨doc, success, member, isTokenPlace_of_parse success member⟩

/-- A file with comments in more bytes than characters, line ends of both kinds, and a number that
    no register can have. -/
def accentedFile : String :=
  "// é\r\ndevice d // ü\n\tregister R(300) \x7b a uint8; // z\n \x7d;"

theorem accentedFile_places :
    ∃ doc, parse accentedFile = .ok doc ∧
      doc.positions = [⟨1, 1, 0⟩, ⟨2, 10, 16⟩, ⟨3, 2, 23⟩, ⟨3, 20, 41⟩, ⟨3, 29, 50⟩] ∧
      (∀ p ∈ doc.positions, IsTokenPlace accentedFile p) ∧
      doc.comments.map (·.position) = [⟨2, 10, 16⟩, ⟨3, 29, 50⟩] ∧
      (∀ c ∈ doc.comments, ∃ front rest, accentedFile.toList = front ++ (c.text.toList ++ rest) ∧
        c.position = .endOf front ∧ c.position.offset ≤ accentedFile.utf8ByteSize ∧
        textBefore c.position.offset accentedFile.toList = front) ∧
      load accentedFile = .error (.declaration ⟨3, 2, 23⟩ (.registerNumber "R" "300")) ∧
      IsTokenPlace accentedFile ⟨3, 2, 23⟩ := by
  have shown : (parse accentedFile).toOption.map (fun doc =>
      (doc.positions, doc.comments.map (·.position))) =
        some ([⟨1, 1, 0⟩, ⟨2, 10, 16⟩, ⟨3, 2, 23⟩, ⟨3, 20, 41⟩, ⟨3, 29, 50⟩],
          [⟨2, 10, 16⟩, ⟨3, 29, 50⟩]) := by
    decide +kernel
  have failed : (match load accentedFile with
      | .error (.declaration p fault) => some (p, fault)
      | _ => none) = some (⟨3, 2, 23⟩, .registerNumber "R" "300") := by
    decide +kernel
  obtain ⟨doc, parsed, values⟩ := exists_ok_of_map shown
  obtain ⟨positions, comments⟩ := Prod.mk.inj values
  obtain ⟨-, -, -, -, tree, faults⟩ := scan_partitions_and_places accentedFile
  obtain ⟨-, places, cut⟩ := tree doc parsed
  split at failed
  · next p fault loaded =>
    cases failed
    obtain ⟨-, -, -, place⟩ := faults _ _ loaded
    exact ⟨doc, parsed, positions, places, comments, cut, loaded, place⟩
  · cases failed

end RegisterMap.Definition
