import RegisterMap.Definition.Elaboration
import RegisterMap.Proofs.Definition.Scanning

/-! # Places of tokens

The tokens of a scan spell the text that was scanned, and each stands at the place where the text
before it ends (`placed_scanFrom`, `spelling_scanFrom`). A place is a count of line ends and bytes,
so the text before a token can be found from its offset, and whether the line of the token has
anything before it is a question about the tokens there (`followsText_iff`). -/

namespace RegisterMap.Definition

/-! ## Counting -/

namespace Position

variable (p : Position)

theorem advance_append (cs ds : List Char) : p.advance (cs ++ ds) = (p.advance cs).advance ds :=
  List.foldl_append

theorem line_advance (cs : List Char) : (p.advance cs).line = p.line + cs.count '\n' := by
  induction cs generalizing p with
  | nil => rfl
  | cons c cs ih =>
    rw [advance, List.foldl_cons, ← advance, ih, after]
    by_cases newline : c = '\n'
    · rw [if_pos newline, newline, List.count_cons_self]
      exact Nat.add_right_comm _ _ _
    · rw [if_neg newline, List.count_cons_of_ne newline]

theorem offset_advance (cs : List Char) :
    (p.advance cs).offset = p.offset + (cs.map Char.utf8Size).sum := by
  induction cs generalizing p with
  | nil => rfl
  | cons c cs ih =>
    have step : (p.after c).offset = p.offset + c.utf8Size := by
      unfold after
      split <;> rfl
    rw [advance, List.foldl_cons, ← advance, ih, step, List.map_cons, List.sum_cons, Nat.add_assoc]

end Position

theorem textBefore_append (front rest : List Char) :
    textBefore (front.map Char.utf8Size).sum (front ++ rest) = front := by
  induction front with
  | nil => simp [textBefore]
  | cons c front ih =>
    -- A character has at least one byte, so the offset is not used up before it.
    obtain ⟨n, more⟩ : ∃ n, c.utf8Size + (front.map Char.utf8Size).sum = n + 1 :=
      ⟨_, (Nat.sub_add_cancel (Nat.le_add_right_of_le c.utf8Size_pos)).symm⟩
    have left : n + 1 - c.utf8Size = (front.map Char.utf8Size).sum := by omega
    rw [List.map_cons, List.sum_cons, more, List.cons_append, textBefore, left, ih]
    all_goals exact nofun

/-! ## Placed tokens -/

/-- The text that tokens spell. -/
def spelling (ts : List Token) : List Char :=
  ts.flatMap fun t => t.text.toList

theorem spelling_append (ts us : List Token) : spelling (ts ++ us) = spelling ts ++ spelling us :=
  List.flatMap_append

theorem spelling_cons (t : Token) (ts : List Token) :
    spelling (t :: ts) = t.text.toList ++ spelling ts :=
  List.flatMap_cons

/-- Tokens one after the other, the first of them at `p` and each of the others where the one before
    it ends. -/
inductive Placed : Position → List Token → Prop where
  | nil {p : Position} : Placed p []
  | cons {p : Position} {t : Token} {ts : List Token} (place : t.position = p)
      (token : IsToken t.tokenClass t.text.toList) (rest : Placed (p.advance t.text.toList) ts) :
      Placed p (t :: ts)

theorem placed_scanFrom (fuel : Nat) (p : Position) (cs : List Char) :
    Placed p (scanFrom fuel p cs).tokens := by
  fun_induction scanFrom fuel p cs with
  | case1 => exact .nil
  | case2 => exact .nil
  | case3 => exact .nil
  | case4 fuel p cs nonempty c x taken rest ih =>
    have token := (isToken_of_lexeme? taken).1
    have spelled : (String.ofList x).toList = x := String.toList_ofList
    exact .cons rfl (spelled.symm ▸ token) (spelled.symm ▸ ih)

theorem spelling_scanFrom (fuel : Nat) (p : Position) (cs : List Char) :
    spelling (scanFrom fuel p cs).tokens ++ (scanFrom fuel p cs).left = cs := by
  fun_induction scanFrom fuel p cs with
  | case1 => rfl
  | case2 => rfl
  | case3 => rfl
  | case4 fuel p cs nonempty c x taken rest ih =>
    have front := (isToken_of_lexeme? taken).2.1
    rw [spelling_cons, String.toList_ofList, List.append_assoc]
    exact (congrArg (x ++ ·) ih).trans (List.prefix_iff_eq_append.1 front)

namespace Placed

variable {p : Position} {t u : Token} {front rest ts : List Token}

theorem split (placed : Placed p (front ++ rest)) :
    Placed p front ∧ Placed (p.advance (spelling front)) rest := by
  induction front generalizing p with
  | nil => exact ⟨.nil, placed⟩
  | cons t front ih =>
    cases placed with
    | cons place token others =>
      obtain ⟨left, right⟩ := ih others
      refine ⟨.cons place token left, ?_⟩
      rwa [spelling_cons, Position.advance_append]

theorem position_eq (placed : Placed p (front ++ t :: rest)) :
    t.position = p.advance (spelling front) := by
  cases placed.split.2 with
  | cons place => exact place

theorem isToken (placed : Placed p ts) (member : t ∈ ts) :
    IsToken t.tokenClass t.text.toList := by
  induction placed with
  | nil => cases member
  | cons _ token _ ih =>
    rcases List.mem_cons.1 member with rfl | member
    · exact token
    · exact ih member

theorem offset_ge (placed : Placed p ts) (member : t ∈ ts) : p.offset ≤ t.position.offset := by
  obtain ⟨front, rest, rfl⟩ := List.append_of_mem member
  rw [placed.position_eq, Position.offset_advance]
  omega

theorem line_le (placed : Placed p ts) (member : t ∈ ts) :
    t.position.line ≤ (p.advance (spelling ts)).line := by
  obtain ⟨front, rest, rfl⟩ := List.append_of_mem member
  rw [placed.position_eq, spelling_append, Position.advance_append,
    Position.line_advance _ (spelling (t :: rest))]
  omega

/-- No token is empty, so offsets tell which of two tokens comes first. -/
theorem offset_lt_iff (placed : Placed p (front ++ t :: rest)) (member : u ∈ front ++ t :: rest) :
    u.position.offset < t.position.offset ↔ u ∈ front := by
  have place := placed.position_eq
  obtain ⟨left, right⟩ := placed.split
  constructor
  · intro before
    refine (List.mem_append.1 member).resolve_right fun behind => ?_
    have later := right.offset_ge behind
    rw [← place] at later
    omega
  · intro inside
    obtain ⟨first, last, rfl⟩ := List.append_of_mem inside
    have token := left.isToken inside
    obtain ⟨c, cs, text⟩ := List.exists_cons_of_ne_nil token.ne_nil
    have positive := c.utf8Size_pos
    rw [place, left.position_eq, spelling_append, Position.advance_append,
      Position.offset_advance _ (spelling (u :: last)), spelling_cons, text]
    simp only [List.cons_append, List.map_cons, List.sum_cons]
    omega

end Placed

/-! ## Lines -/

theorem isBlank_of_isTokenBlank {c : Char} (blank : isTokenBlank c = true) :
    Text.isBlank c = true := by
  have range := (isTokenBlank_iff c).1 blank
  simp only [List.mem_cons, List.not_mem_nil, or_false] at range
  simp only [Text.isBlank, Bool.or_eq_true, Bool.and_eq_true, decide_eq_true_eq, beq_iff_eq]
  omega

theorem isBlank_eq_false {c : Char} (above : 32 < c.toNat) (below : c.toNat < 127) :
    Text.isBlank c = false := by
  rw [← Bool.not_eq_true]
  simp only [Text.isBlank, Bool.or_eq_true, Bool.and_eq_true, decide_eq_true_eq, beq_iff_eq]
  omega

theorem isDigitOf_below {base : Nat} {c : Char} (proper : isDigitOf base c = true) :
    c.toNat < 127 := by
  have nine : c ≤ '9' ↔ c.toNat ≤ 57 := Iff.rfl
  have lower : c ≤ 'z' ↔ c.toNat ≤ 122 := Iff.rfl
  have upper : c ≤ 'Z' ↔ c.toNat ≤ 90 := Iff.rfl
  unfold isDigitOf Numeral.digitValue? at proper
  simp only [nine, lower, upper] at proper
  split at proper
  · next d digit => split_ifs at digit <;> omega
  · cases proper

/-- Every token but white space starts with a visible character. -/
theorem IsToken.exists_visible {c : TokenClass} {x : List Char} (token : IsToken c x)
    (solid : c ≠ .blank) : ∃ e cs, x = e :: cs ∧ Text.isBlank e = false := by
  cases token with
  | comment => exact ⟨_, _, rfl, rfl⟩
  | identifier start =>
    have range := (isIdentifierStart_iff _).1 start
    exact ⟨_, _, rfl, isBlank_eq_false (by omega) (by omega)⟩
  | based => exact ⟨_, _, rfl, rfl⟩
  | decimal nonempty proper =>
    obtain ⟨e, cs, rfl⟩ := List.exists_cons_of_ne_nil nonempty
    have digit := proper e (by simp)
    exact ⟨e, cs, rfl, isBlank_eq_false (isDigitOf_above digit) (isDigitOf_below digit)⟩
  | punctuation mark =>
    have range := (isPunctuation_iff _).1 mark
    simp only [List.mem_cons, List.not_mem_nil, or_false] at range
    exact ⟨_, _, rfl, isBlank_eq_false (by omega) (by omega)⟩
  | blank => exact absurd rfl solid

/-- Every token but white space is within one line. -/
theorem IsToken.newline_not_mem {c : TokenClass} {x : List Char} (token : IsToken c x)
    (solid : c ≠ .blank) : '\n' ∉ x := by
  intro member
  have ends := endsToken_newline solid
  rw [token.endsToken_eq_false member] at ends
  cases ends

theorem IsToken.isBlank {x : List Char} (token : IsToken .blank x) {c : Char} (member : c ∈ x) :
    Text.isBlank c = true := by
  cases token with
  | blank _ proper => exact isBlank_of_isTokenBlank (proper c member)

/-- What stands behind the last line end of a text. -/
def lastLine (cs : List Char) : List Char :=
  (cs.reverse.takeWhile (· != '\n')).reverse

theorem mem_lastLine {cs : List Char} {c : Char} (member : c ∈ lastLine cs) : c ∈ cs := by
  rw [lastLine, List.mem_reverse] at member
  exact List.mem_reverse.1 (List.takeWhile_subset _ member)

theorem lastLine_append_of_not_mem {cs ds : List Char} (within : '\n' ∉ ds) :
    lastLine (cs ++ ds) = lastLine cs ++ ds := by
  have all : ∀ c ∈ ds.reverse, (c != '\n') = true := by
    intro c member
    rw [bne_iff_ne]
    rintro rfl
    exact within (List.mem_reverse.1 member)
  rw [lastLine, List.reverse_append, List.takeWhile_append_of_pos all, List.reverse_append,
    List.reverse_reverse, lastLine]

theorem lastLine_append_of_mem {cs ds : List Char} (ends : '\n' ∈ ds) :
    lastLine (cs ++ ds) = lastLine ds := by
  have shorter : (ds.reverse.takeWhile (· != '\n')).length ≠ ds.reverse.length := by
    intro whole
    have all := List.takeWhile_eq_self_iff.1
      ((List.takeWhile_prefix (· != '\n')).eq_of_length whole) '\n' (List.mem_reverse.2 ends)
    exact absurd rfl (bne_iff_ne.1 all)
  rw [lastLine, List.reverse_append, List.takeWhile_append, if_neg shorter, lastLine]

/-- Something visible stands on the last line exactly if a token stands there. -/
theorem Placed.visible_iff {p : Position} {ts : List Token} (placed : Placed p ts) :
    ((lastLine (spelling ts)).any fun c => !Text.isBlank c) = true ↔
      ∃ t ∈ ts, t.tokenClass ≠ .blank ∧
        t.position.line = (p.advance (spelling ts)).line := by
  induction ts using List.reverseRecOn with
  | nil => simp [spelling, lastLine]
  | append_singleton ts t ih =>
    obtain ⟨front, -⟩ := placed.split
    have place := placed.position_eq
    have token := placed.isToken (List.mem_append_right ts (List.mem_singleton_self t))
    have text : spelling (ts ++ [t]) = spelling ts ++ t.text.toList := by
      simp [spelling]
    rw [text, Position.advance_append, Position.line_advance _ t.text.toList]
    by_cases solid : t.tokenClass = .blank
    · have blank : t.text.toList.any (fun c => !Text.isBlank c) = false := by
        rw [solid] at token
        simp only [List.any_eq_false, Bool.not_eq_true', Bool.not_eq_false]
        exact fun c => token.isBlank
      by_cases ends : '\n' ∈ t.text.toList
      · -- The white space starts a new line and nothing else stands on it.
        rw [lastLine_append_of_mem ends]
        have positive := List.count_pos_iff.2 ends
        refine iff_of_false ?_ ?_
        · rw [List.any_eq_true]
          rintro ⟨c, member, visible⟩
          exact List.any_eq_false.1 blank c (mem_lastLine member) visible
        · rintro ⟨u, member, visible, line⟩
          rcases List.mem_append.1 member with member | member
          · have above := front.line_le member
            omega
          · exact visible (List.mem_singleton.1 member ▸ solid)
      · rw [lastLine_append_of_not_mem ends, List.any_append, blank, Bool.or_false, ih front,
          List.count_eq_zero_of_not_mem ends, Nat.add_zero]
        simp [solid]
    · -- A visible token stands on the line where it ends.
      have within := token.newline_not_mem solid
      obtain ⟨e, cs, spelled, visible⟩ := token.exists_visible solid
      rw [lastLine_append_of_not_mem within, List.count_eq_zero_of_not_mem within, Nat.add_zero]
      refine iff_of_true ?_ ⟨t, by simp, solid, by rw [place]⟩
      rw [List.any_append, spelled, List.any_cons, visible]
      simp

/-- Text stands before a token on its line exactly if another token does. -/
theorem followsText_iff {source : List Char} {front rest : List Token} {t : Token}
    (tokens : (scan source).tokens = front ++ t :: rest) :
    followsText source t.position.offset = true ↔
      ∃ u ∈ (scan source).tokens, u.tokenClass ≠ .blank ∧ u.position.line = t.position.line ∧
        u.position.offset < t.position.offset := by
  have placed := placed_scanFrom source.length {} source
  have text := spelling_scanFrom source.length {} source
  rw [← scan, tokens] at placed text
  have place := placed.position_eq
  have before : textBefore t.position.offset source = spelling front := by
    rw [place, Position.offset_advance, Nat.zero_add]
    rw [← text]
    rw [spelling_append, List.append_assoc]
    exact textBefore_append _ _
  have line : (textBefore t.position.offset source).reverse.takeWhile (· != '\n') =
      (lastLine (spelling front)).reverse := by
    rw [before, lastLine, List.reverse_reverse]
  rw [followsText, line, List.any_reverse, placed.split.1.visible_iff, ← place, tokens]
  constructor
  · rintro ⟨u, member, solid, same⟩
    have inside := List.mem_append_left (t :: rest) member
    exact ⟨u, inside, solid, same, (placed.offset_lt_iff inside).2 member⟩
  · rintro ⟨u, inside, solid, same, before⟩
    exact ⟨u, (placed.offset_lt_iff inside).1 before, solid, same⟩

end RegisterMap.Definition
