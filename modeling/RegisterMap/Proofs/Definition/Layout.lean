import RegisterMap.Proofs.Definition.Printing

/-! # The places in a tree

`Document.layout` writes a tree as its lexemes (`Document.lexemes_layout`), and puts the places that
the tree keeps (`Document.places_layout`) where they belong: at the first lexeme of the document and
of each declaration, bit range and comment. -/

namespace RegisterMap.Definition

/-- Lexemes in order, some of them with a place. -/
abbrev Layout := List (Lexeme × Option Position)

/-- Lexemes without places. -/
def bare (ls : List Lexeme) : Layout :=
  ls.map (·, none)

/-- Puts a place at the first lexeme. -/
def startingAt (p : Position) : Layout → Layout
  | [] => []
  | (l, _) :: rest => (l, some p) :: rest

/-- A layout without its places. -/
def Layout.lexemes (layout : Layout) : List Lexeme :=
  layout.map Prod.fst

/-- All places of a layout. -/
def Layout.places (layout : Layout) : List Position :=
  layout.filterMap Prod.snd

/-! ## Trees -/

def Comment.layout (c : Comment) : Layout :=
  startingAt c.position (bare [.comment c.text])

def BitDecl.layout (b : BitDecl) : Layout :=
  startingAt b.position (bare b.lexemes)

/-- The bit ranges of a field, in braces unless there are none. -/
def bitLayout : List BitDecl → Layout
  | [] => []
  | b :: bs =>
    bare [.mark "\x7b"] ++ (b.layout ++
      (bs.flatMap (fun b => bare [.mark ","] ++ b.layout) ++ bare [.mark "\x7d"]))

def FieldDecl.layout (f : FieldDecl) : Layout :=
  startingAt f.position (bare (.identifier f.name :: (accessLexemes f.access ++
    (sizeLexemes f.size ++ [.identifier f.type])))) ++ (bitLayout f.bits ++ bare [.mark ";"])

def ConstantDecl.layout (c : ConstantDecl) : Layout :=
  startingAt c.position (bare c.lexemes)

def BodyItem.layout : BodyItem → Layout
  | comment c => c.layout
  | constant c => c.layout
  | field f => f.layout

def RegisterDecl.layout (r : RegisterDecl) : Layout :=
  startingAt r.position (bare (.identifier "register" :: .identifier r.name :: .mark "(" ::
    .number r.number :: .mark ")" :: (accessLexemes r.access ++ [.mark "\x7b"]))) ++
      (r.items.flatMap BodyItem.layout ++ bare [.mark "\x7d", .mark ";"])

def TopItem.layout : TopItem → Layout
  | comment c => c.layout
  | register r => r.layout

def Document.layout (d : Document) : Layout :=
  startingAt d.position (bare (d.doc.map Lexeme.comment ++
    [.identifier "device", .identifier d.name])) ++ d.items.flatMap TopItem.layout

/-! ## Lexemes -/

@[simp] theorem lexemes_append (front back : Layout) :
    Layout.lexemes (front ++ back) = front.lexemes ++ back.lexemes :=
  List.map_append

@[simp] theorem lexemes_bare (ls : List Lexeme) : (bare ls).lexemes = ls := by
  simp [bare, Layout.lexemes, Function.comp_def]

@[simp] theorem lexemes_startingAt (p : Position) (layout : Layout) :
    (startingAt p layout).lexemes = layout.lexemes := by
  cases layout <;> rfl

theorem lexemes_flatMap {α : Type} (layout : α → Layout) (xs : List α) :
    Layout.lexemes (xs.flatMap layout) = xs.flatMap fun x => (layout x).lexemes :=
  List.map_flatMap

theorem BitDecl.lexemes_layout (b : BitDecl) : b.layout.lexemes = b.lexemes := by
  simp [BitDecl.layout]

theorem lexemes_bitLayout (bits : List BitDecl) : (bitLayout bits).lexemes = bitLexemes bits := by
  cases bits with
  | nil => rfl
  | cons b bits => simp [bitLayout, bitLexemes, lexemes_flatMap, BitDecl.lexemes_layout]

theorem FieldDecl.lexemes_layout (f : FieldDecl) : f.layout.lexemes = f.lexemes := by
  simp [FieldDecl.layout, FieldDecl.lexemes, lexemes_bitLayout]

theorem ConstantDecl.lexemes_layout (c : ConstantDecl) : c.layout.lexemes = c.lexemes := by
  simp [ConstantDecl.layout]

theorem BodyItem.lexemes_layout (item : BodyItem) : item.layout.lexemes = item.lexemes := by
  cases item with
  | comment c => rfl
  | constant c => exact c.lexemes_layout
  | field f => exact f.lexemes_layout

theorem RegisterDecl.lexemes_layout (r : RegisterDecl) : r.layout.lexemes = r.lexemes := by
  simp [RegisterDecl.layout, RegisterDecl.lexemes, lexemes_flatMap, BodyItem.lexemes_layout]

theorem TopItem.lexemes_layout (item : TopItem) : item.layout.lexemes = item.lexemes := by
  cases item with
  | comment c => rfl
  | register r => exact r.lexemes_layout

/-- The layout of a tree has the lexemes of the tree. -/
theorem Document.lexemes_layout (d : Document) : d.layout.lexemes = d.lexemes := by
  simp [Document.layout, Document.lexemes, lexemes_flatMap, TopItem.lexemes_layout]

/-! ## Places -/

def FieldDecl.positions (f : FieldDecl) : List Position :=
  f.position :: f.bits.map BitDecl.position

def BodyItem.positions : BodyItem → List Position
  | comment c => [c.position]
  | constant c => [c.position]
  | field f => f.positions

def RegisterDecl.positions (r : RegisterDecl) : List Position :=
  r.position :: r.items.flatMap BodyItem.positions

def TopItem.positions : TopItem → List Position
  | comment c => [c.position]
  | register r => r.positions

/-- All places that a tree keeps. -/
def Document.positions (d : Document) : List Position :=
  d.position :: d.items.flatMap TopItem.positions

@[simp] theorem places_append (front back : Layout) :
    Layout.places (front ++ back) = front.places ++ back.places :=
  List.filterMap_append

@[simp] theorem places_bare (ls : List Lexeme) : (bare ls).places = [] := by
  simp [bare, Layout.places]

theorem places_flatMap {α : Type} (layout : α → Layout) (xs : List α) :
    Layout.places (xs.flatMap layout) = xs.flatMap fun x => (layout x).places :=
  List.filterMap_flatMap

/-- A place at the first lexeme is the only one. -/
theorem places_startingAt (p : Position) {ls : List Lexeme} (nonempty : ls ≠ []) :
    (startingAt p (bare ls)).places = [p] := by
  cases ls with
  | nil => exact absurd rfl nonempty
  | cons l ls => exact congrArg (p :: ·) (places_bare ls)

theorem BitDecl.places_layout (b : BitDecl) : b.layout.places = [b.position] :=
  places_startingAt b.position (List.cons_ne_nil _ _)

theorem places_bitLayout (bits : List BitDecl) :
    (bitLayout bits).places = bits.map BitDecl.position := by
  cases bits with
  | nil => rfl
  | cons b bits =>
    simp [bitLayout, places_flatMap, BitDecl.places_layout, List.map_eq_flatMap]

theorem FieldDecl.places_layout (f : FieldDecl) : f.layout.places = f.positions := by
  simp [FieldDecl.layout, places_startingAt, places_bitLayout, FieldDecl.positions]

theorem BodyItem.places_layout (item : BodyItem) : item.layout.places = item.positions := by
  cases item with
  | comment c => rfl
  | constant c => exact places_startingAt c.position (List.cons_ne_nil _ _)
  | field f => exact f.places_layout

theorem RegisterDecl.places_layout (r : RegisterDecl) : r.layout.places = r.positions := by
  simp [RegisterDecl.layout, places_startingAt, places_flatMap, BodyItem.places_layout,
    RegisterDecl.positions]

theorem TopItem.places_layout (item : TopItem) : item.layout.places = item.positions := by
  cases item with
  | comment c => rfl
  | register r => exact r.places_layout

/-- The places in the layout of a tree are those that the tree keeps. -/
theorem Document.places_layout (d : Document) : d.layout.places = d.positions := by
  simp [Document.layout, places_startingAt, places_flatMap, TopItem.places_layout,
    Document.positions]

/-! ## Tokens -/

/-- The token is the lexeme, and stands at the place if there is one. -/
def Token.FitsAt (t : Token) (m : Lexeme × Option Position) : Prop :=
  t.lexeme = m.1 ∧ ∀ p ∈ m.2, t.position = p

theorem lexemes_of_fits {ts : List Token} {layout : Layout}
    (fits : List.Forall₂ Token.FitsAt ts layout) : ts.map Token.lexeme = layout.lexemes := by
  induction fits with
  | nil => rfl
  | cons first _ ih => exact congrArg₂ List.cons first.1 ih

/-- Tokens that fit two layouts in a row are those of the first and then those of the second. -/
theorem exists_append_of_fits {ts : List Token} {front back : Layout}
    (fits : List.Forall₂ Token.FitsAt ts (front ++ back)) :
    ∃ us vs, ts = us ++ vs ∧ List.Forall₂ Token.FitsAt us front ∧
      List.Forall₂ Token.FitsAt vs back :=
  ⟨_, _, (List.take_append_drop front.length ts).symm, List.forall₂_take_append ts front back fits,
    List.forall₂_drop_append ts front back fits⟩

end RegisterMap.Definition
