import RegisterMap.Proofs.Definition.Attribution
import RegisterMap.Proofs.Definition.Comments
import RegisterMap.Proofs.Definition.Loading

/-! # The documentation of a loaded device

Loading a file takes its items in order, with a list of comments that wait and with the kind of the
last declaration. What it has built agrees with the rule for the items taken so far
(`Draft.Follows`), so every register, constant and field has the comments that the rule gives it,
where a comment trails if any token stands before it on its line (`load_follows_documentation`).

Only a line feed ends a line, but a comment ends with a carriage return as well. So another comment
may stand before a comment on its line, and then it trails as if code stood there
(`comment_behind_comment_trails`). -/

namespace RegisterMap.Definition

/-! ## Bodies of registers -/

def BodyItem.constantName? : BodyItem → Option String
  | constant c => some c.name
  | _ => none

def BodyItem.fieldName? : BodyItem → Option String
  | field f => some f.name
  | _ => none

def BodyItem.kind? : BodyItem → Option LastDeclaration
  | comment _ => none
  | constant _ => some .constant
  | field _ => some .field

theorem map_documentLast {α β : Type} {g : α → β} {f : α → α} {f' : β → β}
    (same : ∀ x, g (f x) = f' (g x)) (xs : List α) :
    (documentLast f xs).map g = documentLast f' (xs.map g) := by
  unfold documentLast
  rw [← List.map_reverse]
  cases xs.reverse with
  | nil => rfl
  | cons x rest => simp [same]

theorem constant?_doc {outer : Register} {decl : ConstantDecl} {doc : List String} {c : Constant}
    (read : constant? outer decl doc = .ok c) : c.name = decl.name ∧ c.doc = doc := by
  unfold constant? at read
  split at read
  · cases read
  · split at read <;> cases read
    exact ⟨rfl, rfl⟩

theorem field?_doc {scope : Scope} {outer : Register} {decl : FieldDecl} {doc : List String}
    {f : Field} (read : field? scope outer decl doc = .ok f) :
    f.name = decl.name ∧ f.doc = doc := by
  unfold field? at read
  dsimp only at read
  split at read
  · cases read
  · split at read
    · cases read
    · split at read <;> cases read
      exact ⟨rfl, rfl⟩

/-- The constants and the fields of a register have the documentation of their declarations. -/
structure BodyDocumented (trails : Comment → Bool) (items : List BodyItem) (r : Register) :
    Prop where
  constants : r.constants.map (fun c => (c.name, c.doc)) =
    documented BodyItem.comment? BodyItem.constantName? trails items
  fields : r.fields.map (fun f => (f.name, f.doc)) =
    documented BodyItem.comment? BodyItem.fieldName? trails items

theorem BodyDocumented.congr {trails trails' : Comment → Bool} {items : List BodyItem}
    {r : Register} (body : BodyDocumented trails items r)
    (same : ∀ c ∈ items.filterMap BodyItem.comment?, trails c = trails' c) :
    BodyDocumented trails' items r :=
  ⟨body.constants.trans (documented_congr same), body.fields.trans (documented_congr same)⟩

/-- The draft has taken the items: what it holds is documented by them, and the comments that wait
    are those for a declaration behind them. -/
structure Draft.Follows (trails : Comment → Bool) (items : List BodyItem) (draft : Draft) :
    Prop where
  register : BodyDocumented trails items draft.register
  pending : draft.pending = documentation BodyItem.comment? trails items
    (declarations BodyItem.comment? items).length
  last : draft.last = (declarations BodyItem.comment? items).getLast?.bind BodyItem.kind?

namespace Draft.Follows

variable {trails : Comment → Bool} {items : List BodyItem} {draft next : Draft}

theorem start {r : Register} (constants : r.constants = []) (fields : r.fields = []) :
    Draft.Follows trails [] ⟨r, [], none⟩ := by
  refine ⟨⟨?_, ?_⟩, rfl, rfl⟩
  · rw [constants]
    rfl
  · rw [fields]
    rfl

theorem waiting (follows : draft.Follows trails items) {c : Comment}
    (waits : subject trails ((declarations BodyItem.comment? items).length, c) =
      (declarations BodyItem.comment? items).length) :
    Draft.Follows trails (items ++ [.comment c])
      { draft with pending := draft.pending ++ [commentText c.text] } := by
  have isComment : BodyItem.comment? (.comment c) = some c := rfl
  refine ⟨⟨?_, ?_⟩, ?_, ?_⟩
  · rw [documented_waiting isComment waits]
    exact follows.register.constants
  · rw [documented_waiting isComment waits]
    exact follows.register.fields
  · rw [declarations_comment isComment, documentation_comment isComment, if_pos waits,
      follows.pending]
  · rw [declarations_comment isComment]
    exact follows.last

theorem trailing (follows : draft.Follows trails items) {c : Comment} {kind : LastDeclaration}
    (last : draft.last = some kind) (trailing : trails c = true) :
    (draft.documentLast kind (commentText c.text)).Follows trails (items ++ [.comment c]) := by
  have isComment : BodyItem.comment? (.comment c) = some c := rfl
  have found := follows.last
  rw [last, eq_comm, Option.bind_eq_some_iff] at found
  obtain ⟨item, isLast, isKind⟩ := found
  obtain ⟨before, whole⟩ := List.getLast?_eq_some_iff.1 isLast
  have goes : subject trails ((declarations BodyItem.comment? items).length, c) ≠
      (declarations BodyItem.comment? items).length := by
    simp [whole, subject, trailing]
  have pending : draft.pending = documentation BodyItem.comment? trails (items ++ [.comment c])
      (declarations BodyItem.comment? (items ++ [.comment c])).length := by
    rw [declarations_comment isComment, documentation_comment isComment, if_neg goes,
      List.append_nil, follows.pending]
  have stays : draft.last =
      (declarations BodyItem.comment? (items ++ [.comment c])).getLast?.bind BodyItem.kind? := by
    rw [declarations_comment isComment, follows.last]
  -- Only declarations of the kind of the last one have a new last element.
  cases item with
  | comment _ => cases isKind
  | constant decl =>
    cases isKind
    have isConstant : (BodyItem.constantName? (.constant decl)).isSome = true := rfl
    refine ⟨⟨?_, ?_⟩, pending, stays⟩
    · rw [documented_trailing isComment whole trailing, if_pos isConstant,
        ← follows.register.constants]
      apply map_documentLast
      exact fun _ => rfl
    · rw [documented_trailing isComment whole trailing, if_neg (by simp [BodyItem.fieldName?])]
      exact follows.register.fields
  | field decl =>
    cases isKind
    have isField : (BodyItem.fieldName? (.field decl)).isSome = true := rfl
    refine ⟨⟨?_, ?_⟩, pending, stays⟩
    · rw [documented_trailing isComment whole trailing, if_neg (by simp [BodyItem.constantName?])]
      exact follows.register.constants
    · rw [documented_trailing isComment whole trailing, if_pos isField, ← follows.register.fields]
      apply map_documentLast
      exact fun _ => rfl

/-- As long as there is no last declaration, none was taken. -/
theorem declarations_eq_nil (follows : draft.Follows trails items) (none : draft.last = none) :
    declarations BodyItem.comment? items = [] := by
  have found := follows.last
  rw [none, eq_comm, Option.bind_eq_none_iff] at found
  rw [← List.getLast?_eq_none_iff, Option.eq_none_iff_forall_ne_some]
  intro item isLast
  have declares := List.of_mem_filter (List.mem_of_getLast? isLast)
  have kind := found item isLast
  cases item <;> simp [BodyItem.comment?, BodyItem.kind?] at declares kind

theorem constant (follows : draft.Follows trails items) {c : Constant} {decl : ConstantDecl}
    (read : c.name = decl.name ∧ c.doc = draft.pending) :
    BodyDocumented trails (items ++ [.constant decl])
      { draft.register with constants := draft.register.constants ++ [c] } := by
  have declares : BodyItem.comment? (.constant decl) = none := rfl
  constructor
  · rw [documented_declaration declares, List.map_append, follows.register.constants,
      ← follows.pending]
    simp [BodyItem.constantName?, read]
  · rw [documented_declaration declares, follows.register.fields]
    exact (List.append_nil _).symm

theorem field (follows : draft.Follows trails items) {f : Field} {decl : FieldDecl}
    (read : f.name = decl.name ∧ f.doc = draft.pending) :
    BodyDocumented trails (items ++ [.field decl])
      { draft.register with fields := draft.register.fields ++ [f] } := by
  have declares : BodyItem.comment? (.field decl) = none := rfl
  constructor
  · rw [documented_declaration declares, follows.register.constants]
    exact (List.append_nil _).symm
  · rw [documented_declaration declares, List.map_append, follows.register.fields,
      ← follows.pending]
    simp [BodyItem.fieldName?, read]

/-- A declaration leaves no comment waiting. -/
theorem declared {item : BodyItem} {r : Register} (declares : BodyItem.comment? item = none)
    (body : BodyDocumented trails (items ++ [item]) r) :
    Draft.Follows trails (items ++ [item]) ⟨r, [], item.kind?⟩ where
  register := body
  pending := by
    rw [declarations_declaration declares, documentation_declaration declares,
      documentation_of_lt (by simp)]
  last := by
    rw [declarations_declaration declares, List.getLast?_concat]
    rfl

/-- One item keeps what the draft holds in step with the rule. -/
theorem add {source : List Char} {scope : Scope} {item : BodyItem}
    (follows : draft.Follows (fun c => followsText source c.position.offset) items)
    (success : draft.add source scope item = .ok next) :
    next.Follows (fun c => followsText source c.position.offset) (items ++ [item]) ∧
      (next.register.name, next.register.doc) = (draft.register.name, draft.register.doc) := by
  unfold Draft.add at success
  cases item with
  | comment c =>
    dsimp only at success
    split at success
    · next kind last =>
      split at success <;> cases success
      · next trails =>
        refine ⟨follows.trailing last trails, ?_⟩
        cases kind <;> rfl
      · next waits =>
        exact ⟨follows.waiting (subject_waiting (by simpa using waits) _), rfl⟩
    · next none =>
      cases success
      -- Without a last declaration there is none to document.
      have waits : subject (fun c => followsText source c.position.offset)
          ((declarations BodyItem.comment? items).length, c) =
            (declarations BodyItem.comment? items).length := by
        rw [follows.declarations_eq_nil none]
        rfl
      exact ⟨follows.waiting waits, rfl⟩
  | constant decl =>
    dsimp only at success
    split at success <;> cases success
    next c read => exact ⟨declared rfl (follows.constant (constant?_doc read)), rfl⟩
  | field decl =>
    dsimp only at success
    split at success <;> cases success
    next f read => exact ⟨declared rfl (follows.field (field?_doc read)), rfl⟩

theorem addAll {source : List Char} {scope : Scope} {before items : List BodyItem}
    (follows : draft.Follows (fun c => followsText source c.position.offset) before)
    (success : Draft.addAll source scope draft items = .ok next) :
    next.Follows (fun c => followsText source c.position.offset) (before ++ items) ∧
      (next.register.name, next.register.doc) = (draft.register.name, draft.register.doc) := by
  induction items generalizing before draft with
  | nil =>
    cases success
    exact ⟨by simpa using follows, rfl⟩
  | cons item items ih =>
    unfold Draft.addAll at success
    split at success
    · cases success
    · next between added =>
      obtain ⟨step, same⟩ := follows.add added
      obtain ⟨rest, kept⟩ := ih step success
      exact ⟨by simpa using rest, kept.trans same⟩

end Draft.Follows

theorem register?_documents {source : List Char} {device : String} {scope : Scope}
    {decl : RegisterDecl} {doc : List String} {r : Register}
    (success : register? source device scope decl doc = .ok r) :
    BodyDocumented (fun c => followsText source c.position.offset) decl.items r ∧
      (r.name, r.doc) = (decl.name, doc) := by
  unfold register? at success
  dsimp only at success
  split at success
  · cases success
  · split at success
    · cases success
    · next draft added =>
      split at success <;> cases success
      obtain ⟨follows, kept⟩ := (Draft.Follows.start rfl rfl).addAll added
      exact ⟨follows.register, kept⟩

/-! ## Files -/

def TopItem.registerName? : TopItem → Option String
  | register r => some r.name
  | comment _ => none

/-- The registers of a document, taken in order behind those that were built before. -/
theorem registers?_documents {source : List Char} {device : String} {declared : List String}
    {earlier items : List TopItem} {built all : List Register} {pending : List String}
    (success : registers? source device declared built pending items = .ok all)
    (docs : built.map (fun r => (r.name, r.doc)) =
      documented TopItem.comment? TopItem.registerName? (fun _ => false) earlier)
    (waiting : pending = documentation TopItem.comment? (fun _ => false) earlier
      (declarations TopItem.comment? earlier).length)
    (bodies : List.Forall₂ (fun decl r =>
        BodyDocumented (fun c => followsText source c.position.offset) decl.items r)
      (registersOf earlier) built) :
    all.map (fun r => (r.name, r.doc)) =
        documented TopItem.comment? TopItem.registerName? (fun _ => false) (earlier ++ items) ∧
      List.Forall₂ (fun decl r =>
          BodyDocumented (fun c => followsText source c.position.offset) decl.items r)
        (registersOf (earlier ++ items)) all := by
  induction items generalizing earlier built pending with
  | nil =>
    cases success
    rw [List.append_nil]
    exact ⟨docs, bodies⟩
  | cons item items ih =>
    rw [List.append_cons]
    cases item with
    | comment c =>
      have isComment : TopItem.comment? (.comment c) = some c := rfl
      have waits : subject (fun _ => false) ((declarations TopItem.comment? earlier).length, c) =
          (declarations TopItem.comment? earlier).length := subject_waiting rfl _
      refine ih success ?_ ?_ ?_
      · rw [documented_waiting isComment waits, docs]
      · rw [declarations_comment isComment, documentation_comment isComment, if_pos waits, waiting]
      · simpa [registersOf] using bodies
    | register decl =>
      have declares : TopItem.comment? (.register decl) = none := rfl
      unfold registers? at success
      split at success
      · cases success
      · next r read =>
        obtain ⟨body, pair⟩ := register?_documents read
        refine ih success ?_ ?_ ?_
        · rw [documented_declaration declares, List.map_append, docs, ← waiting]
          simp [TopItem.registerName?, pair]
        · rw [declarations_declaration declares, documentation_declaration declares,
            documentation_of_lt (by simp)]
        · simpa [registersOf] using List.rel_append bodies (.cons body .nil)

/-- The token classes of code. -/
def isCode (c : TokenClass) : Bool :=
  c != .blank && c != .comment

theorem behind_of_imp {tokens : List Token} {counts counts' : TokenClass → Bool} {p : Position}
    (wider : ∀ c, counts c = true → counts' c = true) (stands : behind tokens counts p = true) :
    behind tokens counts' p = true := by
  simp only [behind, List.any_eq_true, Bool.and_eq_true] at stands ⊢
  obtain ⟨t, member, ⟨counted, line⟩, before⟩ := stands
  exact ⟨t, member, ⟨wider _ counted, line⟩, before⟩

/-- Something stands before a comment if code does, and otherwise it is a comment. -/
theorem behind_eq_code {tokens : List Token} {p : Position}
    (code : behind tokens (· == .comment) p = true → behind tokens isCode p = true) :
    behind tokens (· != .blank) p = behind tokens isCode p := by
  rw [Bool.eq_iff_iff]
  constructor
  · intro stands
    simp only [behind, List.any_eq_true, Bool.and_eq_true] at stands
    obtain ⟨t, member, ⟨solid, line⟩, before⟩ := stands
    by_cases isComment : t.tokenClass = .comment
    · apply code
      simp only [behind, List.any_eq_true, Bool.and_eq_true]
      exact ⟨t, member, ⟨by simp [isComment], line⟩, before⟩
    · simp only [behind, List.any_eq_true, Bool.and_eq_true]
      exact ⟨t, member, ⟨by simpa [isCode, isComment] using solid, line⟩, before⟩
  · apply behind_of_imp
    intro c counted
    simpa [isCode] using (Bool.and_eq_true_iff.1 counted).1

/-- The declarations of a register have the comments of its body: each comment at most once, and the
    one before it if any token stands before the comment on its line. Where no comment has only
    other comments before it, that token is one of code. -/
structure RegisterDecl.Documented (tokens : List Token) (decl : RegisterDecl) (r : Register) :
    Prop where
  rule : BodyDocumented (fun c => behind tokens (· != .blank) c.position) decl.items r
  code (apart : ∀ c ∈ decl.comments, behind tokens (· == .comment) c.position = true →
      behind tokens isCode c.position = true) :
    BodyDocumented (fun c => behind tokens isCode c.position) decl.items r
  once : (r.constants.flatMap (·.doc) ++ r.fields.flatMap (·.doc)).Subperm
    (decl.comments.map fun c => commentText c.text)

theorem BodyDocumented.once {trails : Comment → Bool} {items : List BodyItem} {r : Register}
    (body : BodyDocumented trails items r) :
    (r.constants.flatMap (·.doc) ++ r.fields.flatMap (·.doc)).Subperm
      ((items.filterMap BodyItem.comment?).map fun c => commentText c.text) := by
  have constants := congrArg (List.flatMap Prod.snd) body.constants
  have fields := congrArg (List.flatMap Prod.snd) body.fields
  rw [List.flatMap_map] at constants fields
  rw [constants, fields]
  apply documented_subperm
  intro item isConstant
  cases item with
  | constant _ => rfl
  | comment _ => cases isConstant
  | field _ => cases isConstant

/-- Loading a file documents everything by the rule. The comments before the device belong to it; a
    comment outside the registers belongs to the next register; and a comment in the body of a
    register belongs to the declaration before it if a token stands before it on its line. -/
theorem load_follows_documentation {source : String} {d : Device}
    (loaded : load source = .ok d) :
    ∃ doc head body, parse source = .ok doc ∧
      (scan source.toList).tokens.filter (fun t => t.tokenClass != .blank) = head ++ body ∧
      head.map Token.lexeme =
        doc.doc.map Lexeme.comment ++ [.identifier "device", .identifier doc.name] ∧
      body.flatMap Token.comments = doc.comments ∧
      d.doc = doc.doc.map commentText ∧
      d.registers.map (fun r => (r.name, r.doc)) =
        documented TopItem.comment? TopItem.registerName? (fun _ => false) doc.items ∧
      (d.registers.flatMap (·.doc)).Subperm
        ((doc.items.filterMap TopItem.comment?).map fun c => commentText c.text) ∧
      List.Forall₂ (RegisterDecl.Documented (scan source.toList).tokens)
        (registersOf doc.items) d.registers := by
  obtain ⟨doc, parsed⟩ := exists_parse_of_load loaded
  obtain ⟨head, body, tokens, headText, comments⟩ := tokens_of_parse parsed
  have built := ((load_eq_ok_iff parsed).1 loaded).1
  unfold Document.device? at built
  split at built
  · cases built
  · next registers read =>
    cases built
    have start : List.Forall₂ (fun decl r =>
        BodyDocumented (fun c => followsText source.toList c.position.offset) decl.items r)
        (registersOf []) [] := .nil
    obtain ⟨docs, bodies⟩ := registers?_documents read rfl rfl start
    rw [List.nil_append] at docs bodies
    refine ⟨doc, head, body, parsed, tokens, headText, comments, rfl, docs, ?_, ?_⟩
    · have texts := congrArg (List.flatMap Prod.snd) docs
      rw [List.flatMap_map] at texts
      rw [texts]
      -- There is no second sort of declarations outside the registers.
      have apart : ∀ item, (TopItem.registerName? item).isSome →
          (fun _ : TopItem => (none : Option String)) item = none := fun _ _ => rfl
      simpa [documented] using documented_subperm apart
    · rw [List.forall₂_iff_zip] at bodies ⊢
      refine ⟨bodies.1, ?_⟩
      intro decl r paired
      have member := mem_registersOf.1 (List.of_mem_zip paired).1
      have inFile : ∀ c ∈ decl.comments, c ∈ doc.comments := fun c inside =>
        List.mem_flatMap.2 ⟨_, member, inside⟩
      have rule := (bodies.2 paired).congr fun c inside =>
        followsText_eq_behind parsed (inFile c inside)
      refine ⟨rule, ?_, rule.once⟩
      intro apart
      exact rule.congr fun c inside => behind_eq_code (apart c inside)

/-- A file with a comment at every place where one may stand. -/
def commentedFile : String :=
  "// D\ndevice d // T\n// r\nregister R(1) \x7b // first\nconst C = int8(1); // c\n" ++
    "a uint8; b uint8; // b\n// last\n\x7d; // none\n"

theorem load_commentedFile :
    ∃ d doc, load commentedFile = .ok d ∧ parse commentedFile = .ok doc ∧ d.doc = ["D"] ∧
      d.registers.map (fun r => (r.name, r.doc)) = [("R", ["T", "r"])] ∧
      d.registers.map (fun r => r.constants.map (·.doc) ++ r.fields.map (·.doc)) =
        [[["first", "c"], [], ["b"]]] ∧
      List.Forall₂ (RegisterDecl.Documented (scan commentedFile.toList).tokens)
        (registersOf doc.items) d.registers := by
  have shown : (load commentedFile).toOption.map (fun d => (d.doc,
      d.registers.map (fun r => (r.name, r.doc)),
      d.registers.map fun r => r.constants.map (·.doc) ++ r.fields.map (·.doc))) =
        some (["D"], [("R", ["T", "r"])], [[["first", "c"], [], ["b"]]]) := by
    decide +kernel
  obtain ⟨d, loaded, values⟩ := exists_ok_of_map shown
  obtain ⟨doc, -, -, parsed, -, -, -, -, -, -, bodies⟩ := load_follows_documentation loaded
  simp only [Prod.mk.injEq] at values
  exact ⟨d, doc, loaded, parsed, values.1, values.2.1, values.2.2, bodies⟩

/-- A file whose comments end with carriage returns, so that two of them share a line. -/
def carriageReturnFile : String :=
  "device d register R(1) \x7b a uint8;\n // x\r // y\r b uint8; \x7d;"

/-- No code stands before the second comment on its line, and yet it documents the field before
    it. -/
theorem comment_behind_comment_trails :
    ∃ d doc, load carriageReturnFile = .ok d ∧ parse carriageReturnFile = .ok doc ∧
      d.registers.map (fun r => r.fields.map fun f => (f.name, f.doc)) =
        [[("a", ["y"]), ("b", ["x"])]] ∧
      (registersOf doc.items).map (fun decl =>
        documented BodyItem.comment? BodyItem.fieldName?
          (fun c => behind (scan carriageReturnFile.toList).tokens isCode c.position) decl.items) =
        [[("a", []), ("b", ["x", "y"])]] := by
  have shown : (load carriageReturnFile).toOption.map (fun d =>
      d.registers.map fun r => r.fields.map fun f => (f.name, f.doc)) =
        some [[("a", ["y"]), ("b", ["x"])]] := by
    decide +kernel
  have rule : (parse carriageReturnFile).toOption.map (fun doc =>
      (registersOf doc.items).map fun decl =>
        documented BodyItem.comment? BodyItem.fieldName?
          (fun c => behind (scan carriageReturnFile.toList).tokens isCode c.position) decl.items) =
        some [[("a", []), ("b", ["x", "y"])]] := by
    decide +kernel
  obtain ⟨d, loaded, values⟩ := exists_ok_of_map shown
  obtain ⟨doc, parsed, claimed⟩ := exists_ok_of_map rule
  exact ⟨d, doc, loaded, parsed, values, claimed⟩

end RegisterMap.Definition
