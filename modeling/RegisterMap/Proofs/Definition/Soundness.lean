import RegisterMap.Definition.Grammar
import RegisterMap.Proofs.Definition.Layout
import RegisterMap.Proofs.Definition.Rule

/-! # The rules of the grammar are faithful

Each rule, where it matches, has taken exactly the lexemes of what it returns. A rule that keeps
places has taken them at these places, so the tokens fit the layout of its tree
(`laid_document`). -/

namespace RegisterMap.Definition

open Grammar

/-! ## Rules without places -/

theorem faithful_mark {text : String} (member : text ∈ Lexeme.marks) :
    Faithful (Rule.word text).run fun _ => [.mark text] :=
  .word (Lexeme.proper_mark member)

theorem faithful_keyword {text : String} (member : text ∈ Lexeme.keywords) :
    Faithful (Rule.word text).run fun _ => [.identifier text] :=
  .word (Lexeme.proper_keyword member)

theorem faithful_comment : Faithful comment.run fun text => [.comment text] :=
  .ofClass _ _

theorem faithful_identifier : Faithful identifier.run fun text => [.identifier text] :=
  .ofClass _ _

theorem faithful_number : Faithful number.run fun text => [.number text] :=
  .ofClass _ _

theorem faithful_side : Faithful side.run fun side => [sideLexeme side] := by
  apply Shows.alternatives
  intro r member
  simp only [List.mem_cons, List.not_mem_nil, or_false] at member
  rcases member with rfl | rfl
  · exact (faithful_keyword (by simp)).map fun _ => rfl
  · exact (faithful_keyword (by simp)).map fun _ => rfl

theorem faithful_access : Faithful access.run accessLexemes := by
  refine Shows.optional (.map ((faithful_mark (by simp)).sequence
    (faithful_side.andThen .done)) ?_)
  rintro ⟨_, side, _⟩
  rfl

theorem faithful_lastBit : Faithful lastBit.run fun n => [.mark "-", .number n] :=
  ((faithful_mark (by simp)).sequence (faithful_number.andThen .done)).map fun _ => rfl

theorem faithful_arrayLength : Faithful arrayLength.run fun size => [size.lexeme] := by
  apply Shows.alternatives
  intro r member
  simp only [List.mem_cons, List.not_mem_nil, or_false] at member
  rcases member with rfl | rfl
  · exact faithful_number.map fun _ => rfl
  · exact faithful_identifier.map fun _ => rfl

theorem faithful_arraySize : Faithful arraySize.run sizeLexemes := by
  refine Shows.optional (.map ((faithful_mark (by simp)).sequence
    (faithful_arrayLength.andThen ((faithful_mark (by simp)).andThen .done))) ?_)
  rintro ⟨_, size, _⟩
  rfl

theorem faithful_signedNumber :
    Faithful signedNumber.run fun x => signedLexemes x.1 x.2 := by
  refine Shows.map ((faithful_mark (by simp)).optional.sequence
    (faithful_number.andThen .done)) ?_
  rintro ⟨sign, n, _⟩
  cases sign <;> rfl

/-! ## Rules with places -/

/-- How a token is seen in a layout. -/
def Token.laid (t : Token) (layout : Layout) : Prop :=
  ∃ m, layout = [m] ∧ t.FitsAt m

theorem Seen.forall₂ {ts : List Token} {layout : Layout} (seen : Seen Token.laid ts layout) :
    List.Forall₂ Token.FitsAt ts layout := by
  induction seen with
  | nil => exact .nil
  | cons first _ ih =>
    obtain ⟨m, rfl, fits⟩ := first
    exact .cons fits ih

theorem Seen.laid_bare (ts : List Token) :
    Seen Token.laid ts (bare (ts.map Token.lexeme)) := by
  induction ts with
  | nil => exact .nil
  | cons t ts ih => exact .cons ⟨(t.lexeme, none), rfl, rfl, by simp⟩ ih

/-- A rule without places of its own. -/
theorem Shows.bare {α : Type} {run : ParseState → Outcome α × ParseState}
    {print : α → List Lexeme} (faithful : Faithful run print) :
    Shows Token.laid run fun a => bare (print a) where
  matched {s s' a} proper success := by
    obtain ⟨taken, ahead, seen⟩ := faithful.matched proper success
    have shown : taken.map Token.lexeme = print a := by
      rw [List.map_eq_flatMap]
      exact seen.flatMap_eq
    exact ⟨taken, ahead, shown ▸ .laid_bare taken⟩
  noMatch := faithful.noMatch

/-- The place that a rule adds is the one of the first token it takes. -/
theorem Shows.startingAt {α : Type} {r : Rule α} {print : α → Layout}
    (shows : Shows Token.laid r.run print) :
    Shows Token.laid r.located.run fun x => startingAt x.1 (print x.2) where
  matched {s s' x} proper success := by
    obtain ⟨outcome, place⟩ := located_matched success
    obtain ⟨taken, ahead, seen⟩ := shows.matched proper outcome
    refine ⟨taken, ahead, ?_⟩
    generalize print x.2 = layout at seen
    -- What shows nothing has taken nothing, and then there is no place to add.
    cases seen with
    | nil => exact .nil
    | @cons t ts _ ys first rest =>
      obtain ⟨m, rfl, lexeme, -⟩ := first
      have atToken : x.1 = t.position := by
        rw [place, ParseState.position, ahead]
        rfl
      refine .cons ⟨(m.1, some x.1), rfl, lexeme, ?_⟩ rest
      intro p same
      cases same
      exact atToken.symm
  noMatch none := shows.located.noMatch none

theorem laid_commentLine : Shows Token.laid commentLine.run Comment.layout :=
  (faithful_comment.named "Line").bare.startingAt.map fun _ => rfl

theorem laid_bitDecl : Shows Token.laid bitDecl.run BitDecl.layout := by
  refine (Shows.map (.startingAt (Shows.bare (faithful_identifier.sequence
    ((faithful_mark (by simp)).andThen (faithful_number.andThen
      (faithful_lastBit.optional.andThen .done)))))) ?_).named _
  rintro ⟨p, name, _, first, last, _⟩
  cases last <;> rfl

theorem laid_nextBitDecl :
    Shows Token.laid nextBitDecl.run fun b => bare [.mark ","] ++ b.layout := by
  refine ((faithful_mark (by simp)).bare.sequence (laid_bitDecl.andThen .done)).map ?_
  rintro ⟨_, b, _⟩
  simp

theorem laid_bitDecls : Shows Token.laid bitDecls.run bitLayout := by
  have list : Shows Token.laid bitList.run bitLayout := by
    refine ((faithful_mark (by simp)).bare.sequence (laid_bitDecl.andThen
      (laid_nextBitDecl.many.andThen ((faithful_mark (by simp)).bare.andThen .done)))).map ?_
    rintro ⟨_, b, bs, _⟩
    simp [bitLayout]
  refine list.optional.map ?_
  intro bits
  cases bits <;> rfl

theorem laid_fieldDecl : Shows Token.laid fieldDecl.run FieldDecl.layout := by
  refine (Shows.map (.startingAt (faithful_identifier.bare.sequence (faithful_access.bare.andThen
    (faithful_arraySize.bare.andThen (faithful_identifier.bare.andThen (laid_bitDecls.andThen
      ((faithful_mark (by simp)).bare.andThen .done))))))) ?_).named _
  rintro ⟨p, name, access, size, type, bits, _⟩
  simp [FieldDecl.layout, startingAt, bare]

theorem laid_constantDecl : Shows Token.laid constantDecl.run ConstantDecl.layout := by
  refine (Shows.map (.startingAt (Shows.bare ((faithful_keyword (by simp)).sequence
    (faithful_identifier.andThen ((faithful_mark (by simp)).andThen
      (faithful_identifier.andThen ((faithful_mark (by simp)).andThen
        (faithful_signedNumber.andThen ((faithful_mark (by simp)).andThen
          ((faithful_mark (by simp)).andThen .done)))))))))) ?_).named _
  rintro ⟨p, _, name, _, type, _, ⟨negative, magnitude⟩, _⟩
  simp [ConstantDecl.layout, ConstantDecl.lexemes]

theorem laid_bodyItem : Shows Token.laid bodyItem.run BodyItem.layout := by
  apply Shows.named
  apply Shows.alternatives
  intro r member
  simp only [List.mem_cons, List.not_mem_nil, or_false] at member
  rcases member with rfl | rfl | rfl
  · exact laid_commentLine.map fun _ => rfl
  · exact laid_constantDecl.map fun _ => rfl
  · exact laid_fieldDecl.map fun _ => rfl

theorem laid_registerDecl : Shows Token.laid registerDecl.run RegisterDecl.layout := by
  refine (Shows.map (.startingAt ((faithful_keyword (by simp)).bare.sequence
    (faithful_identifier.bare.andThen ((faithful_mark (by simp)).bare.andThen
      (faithful_number.bare.andThen ((faithful_mark (by simp)).bare.andThen
        (faithful_access.bare.andThen ((faithful_mark (by simp)).bare.andThen
          (laid_bodyItem.many.andThen ((faithful_mark (by simp)).bare.andThen
            ((faithful_mark (by simp)).bare.andThen .done))))))))))) ?_).named _
  rintro ⟨p, _, name, _, number, _, access, _, items, _⟩
  simp [RegisterDecl.layout, startingAt, bare]

theorem laid_topItem : Shows Token.laid topItem.run TopItem.layout := by
  apply Shows.named
  apply Shows.alternatives
  intro r member
  simp only [List.mem_cons, List.not_mem_nil, or_false] at member
  rcases member with rfl | rfl
  · exact laid_commentLine.map fun _ => rfl
  · exact laid_registerDecl.map fun _ => rfl

theorem laid_document : Shows Token.laid document.run Document.layout := by
  refine (Shows.map (.startingAt (faithful_comment.many.bare.sequence
    ((faithful_keyword (by simp)).bare.andThen (faithful_identifier.bare.andThen
      (laid_topItem.many.andThen .done))))) ?_).named _
  rintro ⟨p, doc, _, name, items, _⟩
  cases doc <;> simp [Document.layout, startingAt, bare, List.map_eq_flatMap]

end RegisterMap.Definition
