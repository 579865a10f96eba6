import RegisterMap.Proofs.Definition.Lexeme

/-! # Scanning a written text

`Written ls source` says that a text is the lexemes `ls` one after the other, with white space
between them wherever one likes and at least where two of them would run together. The scanner reads
back exactly the lexemes that were written, and reads only texts that are written that way
(`Written.scan`, `written_of_scan`). -/

namespace RegisterMap.Definition

/-- A token without its place. -/
structure Lexeme where
  tokenClass : TokenClass
  text : String
  deriving DecidableEq, Repr

def Token.lexeme (t : Token) : Lexeme :=
  ⟨t.tokenClass, t.text⟩

@[simp] theorem Token.lexeme_tokenClass (t : Token) : t.lexeme.tokenClass = t.tokenClass := rfl

@[simp] theorem Token.lexeme_text (t : Token) : t.lexeme.text = t.text := rfl

/-- The text belongs to the class, and the class is not white space. -/
structure Lexeme.Proper (l : Lexeme) : Prop where
  solid : l.tokenClass ≠ .blank
  token : IsToken l.tokenClass l.text.toList

/-- A text belongs to the class for which the scanner takes all of it. -/
theorem Lexeme.Proper.of_lexeme? {c : TokenClass} {text : String} (solid : c ≠ .blank)
    (taken : lexeme? text.toList = some (c, text.toList)) : (Lexeme.mk c text).Proper :=
  ⟨solid, (isToken_of_lexeme? taken).1⟩

/-- The tokens of a scan without their places and without white space. -/
def Scan.lexemes (s : Scan) : List Lexeme :=
  (s.tokens.filter fun t => t.tokenClass != .blank).map Token.lexeme

/-- The text consists of the lexemes in order, each with any white space in front of it and apart
    from what follows, and of white space at the end. -/
inductive Written : List Lexeme → List Char → Prop where
  | nil {gap : List Char} (blank : ∀ c ∈ gap, isTokenBlank c = true) : Written [] gap
  | cons {l : Lexeme} {ls : List Lexeme} {gap after : List Char}
      (blank : ∀ c ∈ gap, isTokenBlank c = true) (proper : l.Proper)
      (apart : Apart l.tokenClass l.text.toList after) (rest : Written ls after) :
      Written (l :: ls) (gap ++ (l.text.toList ++ after))

theorem IsToken.ne_nil {c : TokenClass} {x : List Char} (token : IsToken c x) : x ≠ [] := by
  cases token with
  | decimal nonempty _ => exact nonempty
  | blank nonempty _ => exact nonempty
  | _ => exact List.cons_ne_nil _ _

/-- Only white space starts with white space. -/
theorem IsToken.head_solid {c : TokenClass} {x : List Char} (token : IsToken c x)
    (solid : c ≠ .blank) (after : List Char) :
    ∀ e ∈ (x ++ after).head?, isTokenBlank e = false := by
  intro e first
  -- The scanner would take white space here, and it takes a token of the class `c`.
  by_contra blank
  obtain ⟨rest, text⟩ : ∃ rest, x ++ after = e :: rest := by
    cases whole : x ++ after with
    | nil => simp [whole] at first
    | cons d rest =>
      simp only [whole, List.head?_cons, Option.mem_def, Option.some.injEq] at first
      exact ⟨rest, by rw [first]⟩
  obtain ⟨y, taken⟩ := token.exists_lexeme? (List.prefix_append x after)
  rw [text, lexeme?_of_blank (by simpa using blank)] at taken
  cases taken
  exact solid rfl

/-! ## One step of the scan -/

theorem scanFrom_append {fuel : Nat} {p : Position} {c : TokenClass} {x after : List Char}
    (token : IsToken c x) (apart : Apart c x after) :
    scanFrom (fuel + 1) p (x ++ after) =
      { scanFrom fuel (p.advance x) after with
        tokens := ⟨c, String.ofList x, p⟩ :: (scanFrom fuel (p.advance x) after).tokens } := by
  have taken := lexeme?_append_iff.2 ⟨token, apart⟩
  obtain ⟨e, x, rfl⟩ := List.exists_cons_of_ne_nil token.ne_nil
  rw [List.cons_append] at taken ⊢
  rw [scanFrom.eq_3 _ _ _ (List.cons_ne_nil _ _), taken]
  simp

theorem Scan.lexemes_blank (s : Scan) (text : String) (p : Position) :
    Scan.lexemes { s with tokens := ⟨.blank, text, p⟩ :: s.tokens } = s.lexemes := rfl

theorem Scan.lexemes_solid {c : TokenClass} (solid : c ≠ .blank) (s : Scan) (text : String)
    (p : Position) :
    Scan.lexemes { s with tokens := ⟨c, text, p⟩ :: s.tokens } = ⟨c, text⟩ :: s.lexemes := by
  simp [Scan.lexemes, solid, Token.lexeme]

/-- White space in front changes only the places. -/
theorem scanFrom_gap {gap cs : List Char} (blank : ∀ c ∈ gap, isTokenBlank c = true)
    (solid : ∀ e ∈ cs.head?, isTokenBlank e = false) {fuel : Nat}
    (enough : (gap ++ cs).length ≤ fuel) (p : Position) :
    ∃ fuel' p', cs.length ≤ fuel' ∧
      (scanFrom fuel p (gap ++ cs)).left = (scanFrom fuel' p' cs).left ∧
      (scanFrom fuel p (gap ++ cs)).lexemes = (scanFrom fuel' p' cs).lexemes := by
  by_cases empty : gap = []
  · subst empty
    exact ⟨fuel, p, enough, rfl, rfl⟩
  · have token := IsToken.blank empty blank
    have apart : Apart .blank gap cs := by
      apply apart_of_ended
      intro e first
      simp [endsToken, solid e first]
    have positive := List.length_pos_iff.2 empty
    rw [List.length_append] at enough
    obtain ⟨fuel, rfl⟩ : ∃ n, fuel = n + 1 := ⟨fuel - 1, by omega⟩
    rw [scanFrom_append token apart, Scan.lexemes_blank]
    exact ⟨fuel, p.advance gap, by omega, rfl, rfl⟩

/-! ## Whole texts -/

theorem Written.scanFrom {ls : List Lexeme} {cs : List Char} (written : Written ls cs) {fuel : Nat}
    (enough : cs.length ≤ fuel) (p : Position) :
    (scanFrom fuel p cs).left = [] ∧ (scanFrom fuel p cs).lexemes = ls := by
  induction written generalizing fuel p with
  | @nil gap blank =>
    rw [← List.append_nil gap] at enough ⊢
    obtain ⟨fuel', p', -, left, lexemes⟩ := scanFrom_gap blank (by simp) enough p
    rw [left, lexemes]
    cases fuel' <;> exact ⟨rfl, rfl⟩
  | @cons l ls gap after blank proper apart rest ih =>
    obtain ⟨solid, token⟩ := proper
    obtain ⟨fuel', p', enough, left, lexemes⟩ :=
      scanFrom_gap blank (token.head_solid solid after) enough p
    rw [left, lexemes]
    have positive := List.length_pos_iff.2 token.ne_nil
    rw [List.length_append] at enough
    obtain ⟨fuel', rfl⟩ : ∃ n, fuel' = n + 1 := ⟨fuel' - 1, by omega⟩
    have shorter : after.length ≤ fuel' := by omega
    obtain ⟨leftRest, lexemesRest⟩ := ih shorter (p'.advance l.text.toList)
    rw [scanFrom_append token apart, Scan.lexemes_solid solid, lexemesRest, String.ofList_toList]
    exact ⟨leftRest, rfl⟩

/-- The scanner reads back what was written. -/
theorem Written.scan {ls : List Lexeme} {source : List Char} (written : Written ls source) :
    (scan source).left = [] ∧ (scan source).lexemes = ls :=
  written.scanFrom le_rfl _

theorem Written.gap_append {ls : List Lexeme} {gap cs : List Char}
    (blank : ∀ c ∈ gap, isTokenBlank c = true) (written : Written ls cs) :
    Written ls (gap ++ cs) := by
  cases written with
  | nil also =>
    exact .nil fun c member => (List.mem_append.1 member).elim (blank c) (also c)
  | cons also proper apart rest =>
    rw [← List.append_assoc]
    exact .cons (fun c member => (List.mem_append.1 member).elim (blank c) (also c)) proper apart
      rest

theorem written_of_scanFrom {fuel : Nat} {p : Position} {cs : List Char}
    (finished : (scanFrom fuel p cs).left = []) : Written (scanFrom fuel p cs).lexemes cs := by
  fun_induction scanFrom fuel p cs with
  | case1 => exact .nil (by simp)
  | case2 p cs nonempty => exact absurd finished nonempty
  | case3 fuel p cs nonempty none => exact absurd finished nonempty
  | case4 fuel p cs nonempty c x taken rest ih =>
    obtain ⟨token, front, longest⟩ := isToken_of_lexeme? taken
    have written : Written rest.lexemes (cs.drop x.length) := ih finished
    have whole : x ++ cs.drop x.length = cs := (List.prefix_iff_eq_append.1 front)
    -- White space goes to the gap in front of what follows.
    by_cases blank : c = .blank
    · subst blank
      cases token with
      | blank _ proper => exact whole ▸ written.gap_append proper
    · obtain ⟨text, rfl⟩ : ∃ text : String, x = text.toList :=
        ⟨String.ofList x, String.toList_ofList.symm⟩
      have apart : Apart c text.toList (cs.drop text.toList.length) := by
        rwa [Apart, whole]
      have joined : Written (⟨c, text⟩ :: rest.lexemes) ([] ++ (text.toList ++ _)) :=
        .cons (by simp) ⟨blank, token⟩ apart written
      rw [List.nil_append, whole] at joined
      rwa [Scan.lexemes_solid blank, String.ofList_toList]

/-- A text that is scanned to its end is written with the lexemes of the scan. -/
theorem written_of_scan {source : List Char} (finished : (scan source).left = []) :
    Written (scan source).lexemes source :=
  written_of_scanFrom finished

theorem Written.proper {ls : List Lexeme} {cs : List Char} (written : Written ls cs) {l : Lexeme}
    (member : l ∈ ls) : l.Proper := by
  induction written with
  | nil => cases member
  | cons _ proper _ _ ih =>
    rcases List.mem_cons.1 member with rfl | member
    · exact proper
    · exact ih member

/-- White space behind every token is always enough, if a comment has its line end there. -/
theorem written_spaced {spaced : List (Lexeme × List Char)}
    (proper : ∀ e ∈ spaced, e.1.Proper)
    (gaps : ∀ e ∈ spaced, (∀ c ∈ e.2, isTokenBlank c = true) ∧
      e.2.head?.any (endsToken e.1.tokenClass) = true) :
    Written (spaced.map Prod.fst) (spaced.flatMap fun e => e.1.text.toList ++ e.2) := by
  induction spaced with
  | nil => exact .nil (by simp)
  | cons e spaced ih =>
    obtain ⟨token, proper⟩ := List.forall_mem_cons.1 proper
    obtain ⟨⟨blank, ended⟩, gaps⟩ := List.forall_mem_cons.1 gaps
    obtain ⟨c, first, ended⟩ := (Option.any_eq_true _ _).1 ended
    have rest := (ih proper gaps).gap_append blank
    rw [List.map_cons, List.flatMap_cons, List.append_assoc, ← List.nil_append (_ ++ _)]
    refine .cons (by simp) token ?_ rest
    apply apart_of_ended
    intro d head
    rw [List.head?_append, first] at head
    cases head
    exact ended

end RegisterMap.Definition
