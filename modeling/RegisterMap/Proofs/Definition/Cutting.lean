import RegisterMap.Proofs.Definition.Place

/-! # Cutting a file into tokens

`Cuts cs ls left` describes the cutting of a text without a bound on the number of tokens: at each
place the token is taken that `Prevails` there, and the cutting ends where no class has a token. A
text is cut in one way (`Cuts.unique`), and that is what a scan finds (`cuts_scan`): the bound it
runs with is never reached.

`Position.endOf text` counts the line ends, characters and bytes of a text afresh. The places that a
scan counts from token to token are these (`position_eq_endOf`). -/

namespace RegisterMap.Definition

/-! ## Tokens -/

/-- The text has a token of the class at its start, none of any other class, and no longer one of
    this class. So it does not matter in which order the classes are tried. -/
structure Prevails (c : TokenClass) (x cs : List Char) : Prop where
  token : IsToken c x
  front : x <+: cs
  only : ∀ c' y, IsToken c' y → y <+: cs → c' = c ∧ y.length ≤ x.length

theorem Prevails.unique {c d : TokenClass} {x y cs : List Char} (left : Prevails c x cs)
    (right : Prevails d y cs) : c = d ∧ x = y := by
  obtain ⟨-, shorter⟩ := left.only d y right.token right.front
  obtain ⟨same, longer⟩ := right.only c x left.token left.front
  have inside := List.prefix_of_prefix_length_le left.front right.front longer
  exact ⟨same, inside.eq_of_length (le_antisymm longer shorter)⟩

theorem prevails_of_lexeme? {c : TokenClass} {x cs : List Char}
    (taken : lexeme? cs = some (c, x)) : Prevails c x cs := by
  obtain ⟨token, front, longest⟩ := isToken_of_lexeme? taken
  refine ⟨token, front, fun c' y other within => ?_⟩
  obtain ⟨z, takenToo⟩ := other.exists_lexeme? within
  rw [taken] at takenToo
  cases takenToo
  exact ⟨rfl, longest y other within⟩

theorem lexeme?_eq_none_iff {cs : List Char} :
    lexeme? cs = none ↔ ∀ c x, IsToken c x → ¬ x <+: cs := by
  constructor
  · intro none c x token front
    obtain ⟨y, taken⟩ := token.exists_lexeme? front
    rw [none] at taken
    cases taken
  · intro stuck
    cases outcome : lexeme? cs with
    | none => rfl
    | some found =>
      have prevails : Prevails found.1 found.2 cs := prevails_of_lexeme? outcome
      exact absurd prevails.front (stuck _ _ prevails.token)

/-! ## Cutting -/

/-- Cutting the text by the classes gives the lexemes and ends in front of `left`, where no class
    has a token. -/
inductive Cuts : List Char → List Lexeme → List Char → Prop where
  | stop {cs : List Char} (stuck : ∀ c x, IsToken c x → ¬ x <+: cs) : Cuts cs [] cs
  | next {c : TokenClass} {x cs : List Char} {ls : List Lexeme} {left : List Char}
      (prevails : Prevails c x cs) (rest : Cuts (cs.drop x.length) ls left) :
      Cuts cs (⟨c, String.ofList x⟩ :: ls) left

theorem Cuts.unique {cs left left' : List Char} {ls ls' : List Lexeme} (cut : Cuts cs ls left)
    (again : Cuts cs ls' left') : ls = ls' ∧ left = left' := by
  induction cut generalizing ls' left' with
  | stop stuck =>
    cases again with
    | stop => exact ⟨rfl, rfl⟩
    | next prevails => exact absurd prevails.front (stuck _ _ prevails.token)
  | next prevails _ ih =>
    cases again with
    | stop stuck => exact absurd prevails.front (stuck _ _ prevails.token)
    | next prevailsToo restToo =>
      obtain ⟨rfl, rfl⟩ := prevails.unique prevailsToo
      obtain ⟨rfl, rfl⟩ := ih restToo
      exact ⟨rfl, rfl⟩

theorem cuts_scanFrom {fuel : Nat} {p : Position} {cs : List Char} (enough : cs.length ≤ fuel) :
    Cuts cs ((scanFrom fuel p cs).tokens.map Token.lexeme) (scanFrom fuel p cs).left := by
  fun_induction scanFrom fuel p cs with
  | case1 => exact .stop fun c x token front => token.ne_nil (List.prefix_nil.1 front)
  | case2 p cs nonempty =>
    -- Every character of a text pays for one token.
    exact absurd (List.eq_nil_of_length_eq_zero (Nat.le_zero.1 enough)) nonempty
  | case3 fuel p cs nonempty none => exact .stop (lexeme?_eq_none_iff.1 none)
  | case4 fuel p cs nonempty c x taken rest ih =>
    have prevails := prevails_of_lexeme? taken
    have positive := List.length_pos_iff.2 prevails.token.ne_nil
    refine .next prevails (ih ?_)
    rw [List.length_drop]
    omega

theorem cuts_scan (source : List Char) :
    Cuts source ((scan source).tokens.map Token.lexeme) (scan source).left :=
  cuts_scanFrom le_rfl

/-! ## Places -/

/-- The place where a text ends: its line ends and its characters since the last one, each counted
    from one, and its bytes. -/
def Position.endOf (text : List Char) : Position where
  line := 1 + text.count '\n'
  column := 1 + (lastLine text).length
  offset := (String.ofList text).utf8ByteSize

theorem utf8ByteSize_ofList (cs : List Char) :
    (String.ofList cs).utf8ByteSize = (cs.map Char.utf8Size).sum := by
  induction cs with
  | nil => rfl
  | cons c cs ih =>
    rw [String.ofList_cons, String.utf8ByteSize_append, String.utf8ByteSize_singleton, ih,
      List.map_cons, List.sum_cons]

theorem column_advance (cs : List Char) :
    (({} : Position).advance cs).column = 1 + (lastLine cs).length := by
  induction cs using List.reverseRecOn with
  | nil => rfl
  | append_singleton cs c ih =>
    rw [Position.advance_append, Position.advance, List.foldl_cons, List.foldl_nil,
      Position.after]
    by_cases newline : c = '\n'
    · subst newline
      rw [if_pos rfl, lastLine_append_of_mem (List.mem_singleton_self _)]
      rfl
    · have within : '\n' ∉ [c] := by simpa [eq_comm] using newline
      rw [if_neg newline, lastLine_append_of_not_mem within, ih, List.length_append]
      rfl

theorem advance_eq_endOf (cs : List Char) : ({} : Position).advance cs = .endOf cs := by
  have line := Position.line_advance {} cs
  have offset := Position.offset_advance {} cs
  rw [Nat.zero_add, ← utf8ByteSize_ofList] at offset
  rw [Position.endOf, ← line, ← column_advance, ← offset]

/-- Each token stands where the text of the tokens before it ends. -/
theorem position_eq_endOf {source : List Char} {front rest : List Token} {t : Token}
    (tokens : (scan source).tokens = front ++ t :: rest) :
    t.position = .endOf (spelling front) := by
  have placed := placed_scanFrom source.length {} source
  rw [← scan, tokens] at placed
  rw [placed.position_eq, advance_eq_endOf]

theorem stop_scanFrom (fuel : Nat) (p : Position) (cs : List Char) :
    (scanFrom fuel p cs).stop = p.advance (spelling (scanFrom fuel p cs).tokens) := by
  fun_induction scanFrom fuel p cs with
  | case1 => rfl
  | case2 => rfl
  | case3 => rfl
  | case4 fuel p cs nonempty c x taken rest ih =>
    rw [spelling_cons, Position.advance_append, String.toList_ofList]
    exact ih

/-- A scan that ends early reports the place behind all tokens. -/
theorem stop_scan (source : List Char) :
    (scan source).stop = .endOf (spelling (scan source).tokens) := by
  rw [← advance_eq_endOf]
  exact stop_scanFrom source.length {} source

/-- Stray text is what a scan leaves behind, reported at its place. -/
theorem parse_eq_strayText_iff {source : String} {p : Position} {text : List Char} :
    parse source = .error (.strayText p text) ↔ text ≠ [] ∧ text = (scan source.toList).left ∧
      p = .endOf (spelling (scan source.toList).tokens) := by
  rw [← stop_scan]
  unfold parse
  dsimp only
  split
  · next finished =>
    rw [List.isEmpty_iff] at finished
    refine iff_of_false ?_ fun ⟨nonempty, left, _⟩ => nonempty (left.trans finished)
    split <;> exact nofun
  · next unfinished =>
    rw [List.isEmpty_iff] at unfinished
    constructor
    · intro stray
      cases stray
      exact ⟨unfinished, rfl, rfl⟩
    · rintro ⟨-, rfl, rfl⟩
      rfl

end RegisterMap.Definition
