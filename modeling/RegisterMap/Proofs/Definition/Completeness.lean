import RegisterMap.Definition.Grammar
import RegisterMap.Proofs.Definition.Printing
import RegisterMap.Proofs.Definition.Rule

/-! # The rules of the grammar read every tree

With the lexemes of a tree ahead, the rule of its kind matches and returns that tree, except for
places. Two things need a look: what may follow an optional part must not look like it, and a field
called `const` starts like a constant. The rule for constants then fails, but at the third token at
the latest, which is within the lookahead (`stumbles_constantDecl`). -/

namespace RegisterMap.Definition

open Grammar

/-- Lexemes of different classes differ in their texts. -/
theorem Lexeme.Proper.text_ne {l m : Lexeme} (left : l.Proper) (right : m.Proper)
    (classes : l.tokenClass ≠ m.tokenClass) : l.text ≠ m.text := by
  intro same
  have token := left.token
  rw [same] at token
  exact classes (token.class_unique right.token)

/-- Only punctuation starts with a punctuation mark. -/
theorem Lexeme.Proper.avoids {l : Lexeme} (proper : l.Proper) (other : l.tokenClass ≠ .punctuation)
    {text : String} (mark : (Lexeme.mark text).Proper) {ls : List Lexeme} :
    Avoids text (l :: ls) := by
  rw [avoids_cons]
  exact proper.text_ne mark other

/-! ## Optional parts -/

theorem reads_side (a : Side) {rest : List Lexeme} :
    Reads side.run [sideLexeme a] rest (· = a) := by
  apply ReadsFirst.alternatives
  cases a with
  | read => exact .first (.map (.word _ _) fun _ _ => rfl)
  | write =>
    refine .skip (.first (.map (.word _ _) fun _ _ => rfl)) ?_
    exact (Skips.word (by simp [sideLexeme, Lexeme.identifier])).map

theorem reads_access (a : Option Side) {rest : List Lexeme} (other : Avoids ":" rest) :
    Reads access.run (accessLexemes a) rest (· = a) := by
  cases a with
  | none => exact (Skips.word other).sequence.map.optional rfl
  | some a =>
    refine .optional (.map (.sequenceToken (.word _ _) (.last (reads_side a))) ?_)
      fun _ => congrArg some
    rintro ⟨_, found, _⟩ ⟨-, same⟩
    exact same

theorem reads_arrayLength (size : ArraySize) {rest : List Lexeme} :
    Reads arrayLength.run [size.lexeme] rest (· = size) := by
  apply ReadsFirst.alternatives
  cases size with
  | number text => exact .first (.map (.ofClass _ _ _) fun _ => congrArg _)
  | name text =>
    refine .skip (.first (.map (.ofClass _ _ _) fun _ => congrArg _)) ?_
    exact (Skips.ofClass (by simp [ArraySize.lexeme, Lexeme.identifier])).map

theorem reads_arraySize (size : Option ArraySize) {rest : List Lexeme} (other : Avoids "[" rest) :
    Reads arraySize.run (sizeLexemes size) rest (· = size) := by
  cases size with
  | none => exact (Skips.word other).sequence.map.optional rfl
  | some size =>
    refine .optional (.map (.sequenceToken (.word _ _) (.tokenThen (reads_arrayLength size)
      (.last (.word _ _)))) ?_) fun _ => congrArg some
    rintro ⟨_, found, _⟩ ⟨-, same, -⟩
    exact same

/-! ## Bit ranges -/

theorem reads_lastBit (n : Option String) {rest : List Lexeme} (other : Avoids "-" rest) :
    Reads (Rule.optional lastBit).run (n.elim [] fun n => [.mark "-", .number n]) rest (· = n) := by
  cases n with
  | none => exact (Skips.word other).sequence.map.optional rfl
  | some n =>
    refine .optional (.map (.sequenceToken (.word _ _) (.last (.ofClass _ _ _))) ?_)
      fun _ => congrArg some
    rintro ⟨_, found, _⟩ ⟨-, same⟩
    exact same

theorem reads_bitDecl (b : BitDecl) {rest : List Lexeme} (other : Avoids "-" rest) :
    Reads bitDecl.run b.lexemes rest (·.unplaced = b.unplaced) := by
  refine .named (.map (.located (.sequenceToken (.ofClass _ _ _) (.tokenThen (.word _ _)
    (.tokenThen (.ofClass _ _ _) (.last (reads_lastBit b.last other)))))) ?_) _
  rintro ⟨p, name, _, first, last, _⟩ ⟨rfl, -, rfl, rfl⟩
  rfl

theorem reads_nextBitDecls (bs : List BitDecl) {rest : List Lexeme} :
    Reads (Rule.many nextBitDecl).run (bs.flatMap fun b => .mark "," :: b.lexemes)
      (.mark "\x7d" :: rest) (·.map BitDecl.unplaced = bs.map BitDecl.unplaced) := by
  -- After a bit range comes a comma or the closing brace, and neither continues it.
  refine .many (Avoids "-") (by simp) ?_ (by simp [Lexeme.mark]) (by simp [Lexeme.mark]) ?_
  · intro b _ after other
    refine .map (.sequenceToken (.word _ _) (.last (reads_bitDecl b other))) ?_
    rintro ⟨_, found, _⟩ ⟨-, same⟩
    exact same
  · exact (Skips.word (by simp [Lexeme.mark])).sequence.map

theorem reads_bitDecls (bits : List BitDecl) {rest : List Lexeme} (other : Avoids "\x7b" rest) :
    Reads bitDecls.run (bitLexemes bits) rest
      (·.map BitDecl.unplaced = bits.map BitDecl.unplaced) := by
  cases bits with
  | nil =>
    refine .map ?_ fun _ posted => posted
    exact (Skips.word other).sequence.map.optional rfl
  | cons b bs =>
    have next : Avoids "-" ((bs.flatMap fun b => .mark "," :: b.lexemes) ++ [.mark "\x7d"] ++
        rest) := by
      cases bs <;> simp [Lexeme.mark]
    refine .map (.optional (.map (.sequenceToken (.word _ _) (.andThen (reads_bitDecl b next)
      (.andThen (reads_nextBitDecls bs) (.last (.word _ _))))) ?_) fun _ posted => posted)
      fun _ posted => posted
    rintro ⟨_, first, others, _⟩ ⟨-, same, sameOthers, -⟩
    exact congrArg₂ List.cons same sameOthers

/-! ## Fields and constants -/

theorem reads_fieldDecl (f : FieldDecl) (proper : ∀ l ∈ f.lexemes, l.Proper) {rest : List Lexeme} :
    Reads fieldDecl.run f.lexemes rest (·.unplaced = f.unplaced) := by
  have type : (Lexeme.identifier f.type).Proper := proper _ (by simp [FieldDecl.lexemes])
  refine .named (.map (.located (.sequenceToken (.ofClass _ _ _)
    (.andThen (reads_access f.access ?_) (.andThen (reads_arraySize f.size ?_)
      (.tokenThen (.ofClass _ _ _) (.andThen (reads_bitDecls f.bits ?_)
        (.last (.word _ _)))))))) ?_) _
  · cases f.size with
    | none => exact type.avoids nofun (Lexeme.proper_mark (by simp))
    | some size => simp [sizeLexemes, Lexeme.mark]
  · exact type.avoids nofun (Lexeme.proper_mark (by simp))
  · simp
  · rintro ⟨p, name, access, size, type, bits, _⟩ ⟨rfl, rfl, rfl, rfl, bits, -⟩
    simp [FieldDecl.unplaced, bits]

theorem reads_signedNumber {negative : Bool} {magnitude : String} {rest : List Lexeme}
    (proper : (Lexeme.number magnitude).Proper) :
    Reads signedNumber.run (signedLexemes negative magnitude) rest (· = (negative, magnitude)) := by
  have sign : Reads (Rule.optional (.word "-")).run (if negative then [.mark "-"] else [])
      (.number magnitude :: rest) (·.isSome = negative) := by
    cases negative with
    | true => exact .optional (.word _ _) fun _ _ => rfl
    | false => exact (Skips.word (proper.avoids nofun (Lexeme.proper_mark (by simp)))).optional rfl
  refine .map (.sequence sign (.last (.ofClass _ _ _))) ?_
  rintro ⟨sign, n, _⟩ ⟨rfl, rfl⟩
  rfl

theorem reads_constantDecl (c : ConstantDecl) (proper : ∀ l ∈ c.lexemes, l.Proper)
    {rest : List Lexeme} : Reads constantDecl.run c.lexemes rest (·.unplaced = c.unplaced) := by
  have magnitude : (Lexeme.number c.magnitude).Proper := by
    apply proper
    cases negative : c.negative <;> simp [ConstantDecl.lexemes, signedLexemes, negative]
  refine .named (.map (.located (.sequenceToken (.word _ _) (.tokenThen (.ofClass _ _ _)
    (.tokenThen (.word _ _) (.tokenThen (.ofClass _ _ _) (.tokenThen (.word _ _)
      (.andThen (reads_signedNumber magnitude) (.tokenThen (.word _ _)
        (.last (.word _ _)))))))))) ?_) _
  rintro ⟨p, _, name, _, type, _, signed, _⟩ ⟨-, rfl, -, rfl, -, rfl, -⟩
  rfl

/-- On a field called `const` the rule for constants gets past the name, and past the type if that
    comes next, but finds no equals sign. -/
theorem stumbles_constantDecl (f : FieldDecl) (name : f.name = "const") {rest : List Lexeme} :
    Stumbles constantDecl.run (f.lexemes ++ rest) lookahead := by
  have printed : f.lexemes ++ rest = .identifier "const" :: (accessLexemes f.access ++
      (sizeLexemes f.size ++ .identifier f.type :: (bitLexemes f.bits ++ .mark ";" :: rest))) := by
    simp [FieldDecl.lexemes, name]
  rw [printed]
  show Stumbles _ _ (1 + 1)
  refine .named (.map (.located (.sequenceToken (.word _ _) ?_))) _
  -- The second token is a colon, a bracket or the type; only the type is taken for a name.
  cases f.access with
  | some side =>
    refine .mono (Skips.stumbles (.ofClass ?_)) (Nat.zero_le 1)
    simp [accessLexemes, Lexeme.mark]
  | none =>
    cases f.size with
    | some size =>
      refine .mono (Skips.stumbles (.ofClass ?_)) (Nat.zero_le 1)
      simp [accessLexemes, sizeLexemes, Lexeme.mark]
    | none =>
      have absent : Avoids "=" (bitLexemes f.bits ++ .mark ";" :: rest) := by
        cases f.bits <;> simp [bitLexemes, Lexeme.mark]
      exact .tokenThen (.ofClass _ _ _) (Skips.word absent).stumbles

theorem skips_constantDecl {ls : List Lexeme} (other : Avoids "const" ls) :
    Skips constantDecl.run ls :=
  (Skips.word other).sequence.located.map.named _

/-! ## Registers and documents -/

theorem reads_commentLine (c : Comment) {rest : List Lexeme} :
    Reads commentLine.run [.comment c.text] rest (·.unplaced = c.unplaced) := by
  refine .map (.located (.named (.ofClass _ _ _) _)) ?_
  rintro ⟨p, text⟩ rfl
  rfl

theorem skips_commentLine {ls : List Lexeme} (other : ∀ l ∈ ls.head?, l.tokenClass ≠ .comment) :
    Skips commentLine.run ls :=
  ((Skips.ofClass other).named _).located.map

theorem reads_bodyItem (item : BodyItem) (proper : ∀ l ∈ item.lexemes, l.Proper)
    {rest : List Lexeme} : Reads bodyItem.run item.lexemes rest (·.unplaced = item.unplaced) := by
  refine .named (ReadsFirst.alternatives ?_) _
  cases item with
  | comment c => exact .first (.map (reads_commentLine c) fun _ => congrArg BodyItem.comment)
  | constant c =>
    have comment : Skips (commentLine.map BodyItem.comment).run (c.lexemes ++ rest) :=
      (skips_commentLine (by simp [ConstantDecl.lexemes, Lexeme.identifier])).map
    refine .skip (.first (.map (reads_constantDecl c proper) ?_)) comment
    exact fun _ => congrArg BodyItem.constant
  | field f =>
    have read : ReadsFirst [fieldDecl.map BodyItem.field] f.lexemes rest
        (·.unplaced = (BodyItem.field f).unplaced) :=
      .first (.map (reads_fieldDecl f proper) fun _ => congrArg BodyItem.field)
    have comment : Skips (commentLine.map BodyItem.comment).run (f.lexemes ++ rest) :=
      (skips_commentLine (by simp [FieldDecl.lexemes, Lexeme.identifier])).map
    -- The rule for constants comes first and must not settle the matter.
    by_cases name : f.name = "const"
    · exact (read.stumble (stumbles_constantDecl f name).map).skip comment
    · have other : Avoids "const" (f.lexemes ++ rest) := by
        simpa [FieldDecl.lexemes, Lexeme.identifier] using name
      exact (read.skip (skips_constantDecl other).map).skip comment

/-- No item starts with the closing brace. -/
theorem skips_bodyItem {rest : List Lexeme} : Skips bodyItem.run (.mark "\x7d" :: rest) := by
  refine .named (.alternatives ?_) _
  intro r member
  simp only [List.mem_cons, List.not_mem_nil, or_false] at member
  rcases member with rfl | rfl | rfl
  · exact (skips_commentLine (by simp [Lexeme.mark])).map
  · exact (skips_constantDecl (by simp [Lexeme.mark])).map
  · exact ((Skips.ofClass (by simp [Lexeme.mark])).sequence.located.map.named _).map

theorem BodyItem.lexemes_ne_nil (item : BodyItem) : item.lexemes ≠ [] := by
  cases item <;> exact List.cons_ne_nil _ _

theorem TopItem.lexemes_ne_nil (item : TopItem) : item.lexemes ≠ [] := by
  cases item <;> exact List.cons_ne_nil _ _

theorem reads_registerDecl (r : RegisterDecl) (proper : ∀ l ∈ r.lexemes, l.Proper)
    {rest : List Lexeme} : Reads registerDecl.run r.lexemes rest (·.unplaced = r.unplaced) := by
  have items : Reads (Rule.many bodyItem).run (r.items.flatMap BodyItem.lexemes)
      (.mark "\x7d" :: .mark ";" :: rest)
      (·.map BodyItem.unplaced = r.items.map BodyItem.unplaced) := by
    refine .many (fun _ => True) BodyItem.lexemes_ne_nil ?_ (by simp) trivial skips_bodyItem
    intro item member after _
    refine reads_bodyItem item fun l inside => proper l ?_
    have within := List.mem_flatMap.2 ⟨item, member, inside⟩
    simp only [RegisterDecl.lexemes, List.mem_cons, List.mem_append, within, true_or, or_true]
  refine .named (.map (.located (.sequenceToken (.word _ _) (.tokenThen (.ofClass _ _ _)
    (.tokenThen (.word _ _) (.tokenThen (.ofClass _ _ _) (.tokenThen (.word _ _)
      (.andThen (reads_access r.access ?_) (.tokenThen (.word _ _) (.andThen items
        (.tokenThen (.word _ _) (.last (.word _ _)))))))))))) ?_) _
  · simp
  · rintro ⟨p, _, name, _, number, _, access, _, items, _⟩ ⟨-, rfl, -, rfl, -, rfl, -, items, -⟩
    simp [RegisterDecl.unplaced, items]

theorem reads_topItem (item : TopItem) (proper : ∀ l ∈ item.lexemes, l.Proper)
    {rest : List Lexeme} : Reads topItem.run item.lexemes rest (·.unplaced = item.unplaced) := by
  refine .named (ReadsFirst.alternatives ?_) _
  cases item with
  | comment c => exact .first (.map (reads_commentLine c) fun _ => congrArg TopItem.comment)
  | register r =>
    have comment : Skips (commentLine.map TopItem.comment).run (r.lexemes ++ rest) :=
      (skips_commentLine (by simp [RegisterDecl.lexemes, Lexeme.identifier])).map
    refine .skip (.first (.map (reads_registerDecl r proper) ?_)) comment
    exact fun _ => congrArg TopItem.register

theorem skips_topItem : Skips topItem.run [] := by
  refine .named (.alternatives ?_) _
  intro r member
  simp only [List.mem_cons, List.not_mem_nil, or_false] at member
  rcases member with rfl | rfl
  · exact (skips_commentLine (by simp)).map
  · exact ((Skips.word (avoids_nil _)).sequence.located.map.named _).map

/-- The rule for files reads every tree of proper lexemes to the end. -/
theorem reads_document (d : Document) (proper : ∀ l ∈ d.lexemes, l.Proper) :
    Reads document.run d.lexemes [] (·.unplaced = d.unplaced) := by
  have doc : Reads (Rule.many comment).run (d.doc.flatMap fun text => [.comment text])
      (.identifier "device" :: .identifier d.name :: d.items.flatMap TopItem.lexemes ++ [])
      (·.map id = d.doc.map id) := by
    refine .many (fun _ => True) (by simp) (fun text _ after _ => .ofClass _ _ text) (by simp)
      trivial ?_
    exact .ofClass (by simp [Lexeme.identifier])
  have items : Reads (Rule.many topItem).run (d.items.flatMap TopItem.lexemes) []
      (·.map TopItem.unplaced = d.items.map TopItem.unplaced) := by
    refine .many (fun _ => True) TopItem.lexemes_ne_nil ?_ (by simp) trivial skips_topItem
    intro item member after _
    refine reads_topItem item fun l inside => proper l ?_
    have within := List.mem_flatMap.2 ⟨item, member, inside⟩
    simp only [Document.lexemes, List.mem_cons, List.mem_append, within, or_true]
  rw [Document.lexemes, List.map_eq_flatMap]
  refine .named (.map (.located (.sequence doc (.tokenThen (.word _ _)
    (.tokenThen (.ofClass _ _ _) items.last)))) ?_) _
  rintro ⟨p, doc, _, name, items, _⟩ ⟨doc, -, rfl, items⟩
  simp only [List.map_id] at doc
  simp [Document.unplaced, doc, items]

end RegisterMap.Definition
