import RegisterMap.Proofs.Definition.Parsing
import RegisterMap.Proofs.Definition.Place

/-! # The comments of a tree

The comments that the tree of a file keeps are the comment tokens of the file, in order and at their
places (`tokens_of_parse`). So a question about the text before a comment can be asked of the
tokens (`followsText_eq_behind`). -/

namespace RegisterMap.Definition

/-- A comment token as the tree keeps it. -/
def Token.comments (t : Token) : List Comment :=
  if t.tokenClass = .comment then [⟨t.position, t.text⟩] else []

def BodyItem.comment? : BodyItem → Option Comment
  | comment c => some c
  | _ => none

def TopItem.comment? : TopItem → Option Comment
  | comment c => some c
  | _ => none

def RegisterDecl.comments (r : RegisterDecl) : List Comment :=
  r.items.filterMap BodyItem.comment?

def TopItem.comments : TopItem → List Comment
  | comment c => [c]
  | register r => r.comments

/-- The comments of a document behind the name of its device. -/
def Document.comments (d : Document) : List Comment :=
  d.items.flatMap TopItem.comments

/-! ## Layouts -/

/-- Tokens that fit the layout keep these comments. -/
def Layout.Keeps (layout : Layout) (cs : List Comment) : Prop :=
  ∀ ts, List.Forall₂ Token.FitsAt ts layout → ts.flatMap Token.comments = cs

theorem Comment.keeps (c : Comment) : c.layout.Keeps [c] := by
  intro ts fits
  cases fits with
  | cons first rest =>
    cases rest
    obtain ⟨lexeme, place⟩ := first
    obtain ⟨tokenClass, text⟩ := Lexeme.mk.inj lexeme
    simp [Token.comments, tokenClass, text, place c.position rfl]

/-- No comment is among the lexemes. -/
def Commentless (ls : List Lexeme) : Prop :=
  ∀ l ∈ ls, l.tokenClass ≠ .comment

@[simp] theorem commentless_nil : Commentless [] := nofun

@[simp] theorem commentless_cons {l : Lexeme} {ls : List Lexeme} :
    Commentless (l :: ls) ↔ l.tokenClass ≠ .comment ∧ Commentless ls :=
  List.forall_mem_cons

@[simp] theorem commentless_append {ls ls' : List Lexeme} :
    Commentless (ls ++ ls') ↔ Commentless ls ∧ Commentless ls' :=
  List.forall_mem_append

@[simp] theorem commentless_flatMap {α : Type} {print : α → List Lexeme} {xs : List α} :
    Commentless (xs.flatMap print) ↔ ∀ x ∈ xs, Commentless (print x) :=
  List.forall_mem_flatMap

namespace Layout.Keeps

variable {front middle back : Layout} {cs ds : List Comment}

theorem of_commentless (commentless : Commentless front.lexemes) : front.Keeps [] := by
  intro ts fits
  refine List.flatMap_eq_nil_iff.2 fun t member => if_neg ?_
  have printed : t.lexeme ∈ front.lexemes :=
    lexemes_of_fits fits ▸ List.mem_map_of_mem member
  exact commentless _ printed

theorem append (first : front.Keeps cs) (second : back.Keeps ds) :
    Layout.Keeps (front ++ back) (cs ++ ds) := by
  intro ts fits
  obtain ⟨us, vs, rfl, fitsFront, fitsBack⟩ := exists_append_of_fits fits
  rw [List.flatMap_append, first us fitsFront, second vs fitsBack]

theorem between (before : Commentless front.lexemes) (keeps : middle.Keeps cs)
    (after : Commentless back.lexemes) : Layout.Keeps (front ++ (middle ++ back)) cs := by
  have whole := (of_commentless before).append (keeps.append (of_commentless after))
  rwa [List.nil_append, List.append_nil] at whole

theorem flatMap {α : Type} {layout : α → Layout} {comments : α → List Comment}
    (each : ∀ x, (layout x).Keeps (comments x)) (xs : List α) :
    Layout.Keeps (xs.flatMap layout) (xs.flatMap comments) := by
  induction xs with
  | nil => exact .of_commentless nofun
  | cons x xs ih => exact (each x).append ih

end Layout.Keeps

/-! ## Trees -/

theorem commentless_access (access : Option Side) : Commentless (accessLexemes access) := by
  rcases access with _ | _ | _ <;> simp [accessLexemes, sideLexeme, Lexeme.mark, Lexeme.identifier]

theorem BitDecl.commentless (b : BitDecl) : Commentless b.lexemes := by
  rcases b with ⟨_, _, _, _ | _⟩ <;>
    simp [BitDecl.lexemes, Lexeme.mark, Lexeme.identifier, Lexeme.number]

theorem commentless_bits (bits : List BitDecl) : Commentless (bitLexemes bits) := by
  cases bits with
  | nil => exact commentless_nil
  | cons b bits => simp [bitLexemes, Lexeme.mark, BitDecl.commentless]

theorem commentless_size (size : Option ArraySize) : Commentless (sizeLexemes size) := by
  rcases size with _ | _ | _ <;>
    simp [sizeLexemes, ArraySize.lexeme, Lexeme.mark, Lexeme.identifier, Lexeme.number]

theorem FieldDecl.commentless (f : FieldDecl) : Commentless f.lexemes := by
  simp [FieldDecl.lexemes, Lexeme.mark, Lexeme.identifier, commentless_access, commentless_size,
    commentless_bits]

theorem ConstantDecl.commentless (c : ConstantDecl) : Commentless c.lexemes := by
  cases sign : c.negative <;>
    simp [ConstantDecl.lexemes, signedLexemes, sign, Lexeme.mark, Lexeme.identifier, Lexeme.number]

theorem BodyItem.keeps (item : BodyItem) : item.layout.Keeps item.comment?.toList := by
  cases item with
  | comment c => exact c.keeps
  | constant c => exact .of_commentless (c.lexemes_layout ▸ c.commentless)
  | field f => exact .of_commentless (f.lexemes_layout ▸ f.commentless)

theorem RegisterDecl.keeps (r : RegisterDecl) : r.layout.Keeps r.comments := by
  have items : Layout.Keeps (r.items.flatMap BodyItem.layout) r.comments := by
    rw [RegisterDecl.comments, List.filterMap_eq_flatMap_toList]
    exact .flatMap BodyItem.keeps r.items
  refine .between ?_ items ?_
  · simp [Lexeme.mark, Lexeme.identifier, Lexeme.number, commentless_access]
  · simp [Lexeme.mark]

theorem TopItem.keeps (item : TopItem) : item.layout.Keeps item.comments := by
  cases item with
  | comment c => exact c.keeps
  | register r => exact r.keeps

/-! ## Files -/

/-- The tokens of a parsed file: those up to the name of the device, and behind them those whose
    comments the items of the tree keep. -/
theorem tokens_of_parse {source : String} {doc : Document} (success : parse source = .ok doc) :
    ∃ head body,
      (scan source.toList).tokens.filter (fun t => t.tokenClass != .blank) = head ++ body ∧
      head.map Token.lexeme =
        doc.doc.map Lexeme.comment ++ [.identifier "device", .identifier doc.name] ∧
      body.flatMap Token.comments = doc.comments := by
  -- The layout of a document is its head, up to the name, and behind it the layouts of its items.
  obtain ⟨head, body, tokens, fitsHead, fitsBody⟩ := exists_append_of_fits (layout_of_parse success)
  refine ⟨head, body, tokens, ?_, Layout.Keeps.flatMap TopItem.keeps doc.items body fitsBody⟩
  rw [lexemes_of_fits fitsHead, lexemes_startingAt, lexemes_bare]

/-- A comment of the tree is a token of the file. -/
theorem exists_token_of_comment {source : String} {doc : Document}
    (success : parse source = .ok doc) {c : Comment} (member : c ∈ doc.comments) :
    ∃ t ∈ (scan source.toList).tokens, t.text = c.text ∧ t.position = c.position := by
  obtain ⟨head, body, tokens, -, comments⟩ := tokens_of_parse success
  rw [← comments] at member
  obtain ⟨t, inside, kept⟩ := List.mem_flatMap.1 member
  unfold Token.comments at kept
  split at kept
  · rw [List.mem_singleton] at kept
    subst kept
    have solid : t ∈ head ++ body := List.mem_append_right head inside
    rw [← tokens] at solid
    exact ⟨t, List.mem_of_mem_filter solid, rfl, rfl⟩
  · cases kept

/-- Whether a token of one of the classes stands before a place on its line. -/
def behind (tokens : List Token) (counts : TokenClass → Bool) (p : Position) : Bool :=
  tokens.any fun t => counts t.tokenClass && t.position.line == p.line &&
    decide (t.position.offset < p.offset)

theorem followsText_eq_behind {source : String} {doc : Document} (success : parse source = .ok doc)
    {c : Comment} (member : c ∈ doc.comments) :
    followsText source.toList c.position.offset =
      behind (scan source.toList).tokens (· != .blank) c.position := by
  obtain ⟨t, scanned, -, place⟩ := exists_token_of_comment success member
  obtain ⟨front, rest, whole⟩ := List.append_of_mem scanned
  rw [← place, Bool.eq_iff_iff, followsText_iff whole]
  simp [behind, and_assoc]

end RegisterMap.Definition
