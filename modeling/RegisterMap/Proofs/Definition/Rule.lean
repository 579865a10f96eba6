import RegisterMap.Definition.Rule
import RegisterMap.Proofs.Definition.Scanning

/-! # What grammar rules read

Two judgements about the run of a rule, each with one lemma for each way to build rules.

`Shows view run print`: whenever the run matches, the tokens it took from those ahead, each as
`view` allows to see it, are its result printed, and where it does not apply it takes nothing. A
rule is `Faithful` if this is so for the lexemes of the tokens.

`Reads run ls rest post`: with the lexemes `ls` and then `rest` ahead, the run matches, takes
exactly `ls`, and its result satisfies `post`. A choice reads what one of its alternatives reads if
the alternatives before it are out of the way there: they do not apply (`Skips`), or they fail
before the failure is final (`Stumbles`). -/

namespace RegisterMap.Definition

/-! ## States -/

namespace ParseState

/-- The lexemes ahead. -/
def lexemes (s : ParseState) : List Lexeme :=
  s.ahead.map Token.lexeme

@[simp] theorem note_ahead (s : ParseState) (e : Unexpected) : (s.note e).ahead = s.ahead := by
  unfold note
  split <;> rfl

@[simp] theorem note_cursor (s : ParseState) (e : Unexpected) : (s.note e).cursor = s.cursor := by
  unfold note
  split <;> rfl

@[simp] theorem accept_ahead (s branch : ParseState) : (s.accept branch).ahead = branch.ahead := by
  unfold accept
  split <;> rfl

@[simp] theorem accept_cursor (s branch : ParseState) :
    (s.accept branch).cursor = branch.cursor := by
  unfold accept
  split <;> rfl

/-- A branch that is given up leaves the tokens ahead as they were. -/
theorem giveUp_ahead {s branch s' : ParseState} {e : Unexpected}
    (given : s.giveUp branch e = (s', false)) : s'.ahead = s.ahead ∧ s'.cursor = s.cursor := by
  unfold giveUp at given
  dsimp only at given
  split at given
  · cases given
  · cases given
    split_ifs <;> exact ⟨rfl, rfl⟩

/-- A failure within the lookahead is given up. -/
theorem giveUp_within {s branch : ParseState} (e : Unexpected)
    (within : branch.cursor ≤ s.cursor + lookahead) : (s.giveUp branch e).2 = false := by
  unfold giveUp
  rw [if_neg (by omega)]

theorem lexemes_congr {s s' : ParseState} (same : s.ahead = s'.ahead) :
    s.lexemes = s'.lexemes := by
  rw [lexemes, lexemes, same]

end ParseState

/-! ## Matches -/

section Matches

variable {α β : Type} {r : Rule α} {k : Continuation β} {s s' : ParseState}

theorem token_matched {expected : String} {accepts : Token → Bool} {text : String}
    (success : (Rule.token expected accepts).run s = (.matched text, s')) :
    ∃ t, s.ahead = t :: s'.ahead ∧ accepts t = true ∧ t.text = text := by
  simp only [Rule.token] at success
  split at success
  · next t ts ahead =>
    split at success <;> cases success
    next accepted => exact ⟨t, ahead, accepted, rfl⟩
  · cases success

theorem map_matched {f : α → β} {b : β} (success : (r.map f).run s = (.matched b, s')) :
    ∃ a, r.run s = (.matched a, s') ∧ f a = b := by
  simp only [Rule.map] at success
  split at success <;> cases success
  next a outcome => exact ⟨a, outcome, rfl⟩

theorem named_matched {name : String} {a : α}
    (success : (r.named name).run s = (.matched a, s')) : r.run s = (.matched a, s') := by
  simp only [Rule.named] at success
  split at success
  · cases success
  · exact success

theorem located_matched {x : Position × α} (success : r.located.run s = (.matched x, s')) :
    r.run s = (.matched x.2, s') ∧ x.1 = s.position := by
  obtain ⟨a, outcome, rfl⟩ := map_matched (r := r) success
  exact ⟨outcome, rfl⟩

/-- A sequence that matches is a match of its first node and one of the nodes after it. -/
theorem sequence_matched {x : α × β} (success : (r.sequence k).run s = (.matched x, s')) :
    ∃ s₁, r.run s = (.matched x.1, s₁) ∧ k.run s₁ = (.matched x.2, s') := by
  simp only [Rule.sequence] at success
  split at success
  · cases success
  · cases success
  · next a s₁ outcome =>
    split at success <;> cases success
    next b rest => exact ⟨s₁, outcome, rest⟩

theorem andThen_matched {x : α × β}
    (success : (Continuation.andThen r k).run s = (.matched x, s')) :
    ∃ s₁, r.run s = (.matched x.1, s₁) ∧ k.run s₁ = (.matched x.2, s') := by
  simp only [Continuation.andThen] at success
  split at success
  · cases success
  · cases success
  · next a s₁ outcome =>
    split at success <;> cases success
    next b rest => exact ⟨s₁, outcome, rest⟩

end Matches

/-! ## What a rule takes -/

section Showing

variable {ι α β : Type} {view : Token → List ι → Prop}

/-- Tokens are seen one by one, each as one of the lists that `view` allows for it. -/
inductive Seen (view : Token → List ι → Prop) : List Token → List ι → Prop where
  | nil : Seen view [] []
  | cons {t : Token} {ts : List Token} {xs ys : List ι} (first : view t xs)
      (rest : Seen view ts ys) : Seen view (t :: ts) (xs ++ ys)

/-- The view that shows each token in one way. -/
def through (f : Token → List ι) (t : Token) (xs : List ι) : Prop :=
  f t = xs

namespace Seen

variable {t : Token} {ts us : List Token} {xs ys : List ι}

theorem singleton (first : view t xs) : Seen view [t] xs := by
  have alone : Seen view [t] (xs ++ []) := .cons first .nil
  rwa [List.append_nil] at alone

theorem append (front : Seen view ts xs) (back : Seen view us ys) :
    Seen view (ts ++ us) (xs ++ ys) := by
  induction front with
  | nil => exact back
  | cons first _ ih =>
    rw [List.append_assoc]
    exact .cons first ih

theorem flatMap_eq {f : Token → List ι} (seen : Seen (through f) ts xs) : ts.flatMap f = xs := by
  induction seen with
  | nil => rfl
  | cons first _ ih => rw [List.flatMap_cons, first, ih]

end Seen

/-- From the first state to the second, tokens were taken that can be seen as `shown`. -/
def Took (view : Token → List ι → Prop) (s s' : ParseState) (shown : List ι) : Prop :=
  ∃ taken, s.ahead = taken ++ s'.ahead ∧ Seen view taken shown

namespace Took

variable {s s' s₁ s₁' : ParseState} {shown shown' : List ι}

theorem nothing (same : s'.ahead = s.ahead) : Took view s s' [] :=
  ⟨[], same.symm, .nil⟩

theorem append (first : Took view s s₁ shown) (second : Took view s₁ s' shown') :
    Took view s s' (shown ++ shown') := by
  obtain ⟨taken, ahead, seen⟩ := first
  obtain ⟨taken', ahead', seen'⟩ := second
  exact ⟨taken ++ taken', by rw [ahead, ahead', List.append_assoc], seen.append seen'⟩

theorem congr (took : Took view s s' shown) (left : s₁.ahead = s.ahead)
    (right : s₁'.ahead = s'.ahead) : Took view s₁ s₁' shown := by
  unfold Took
  rw [left, right]
  exact took

theorem proper_after (took : Took view s s' shown) (proper : ∀ l ∈ s.lexemes, l.Proper) :
    ∀ l ∈ s'.lexemes, l.Proper := by
  obtain ⟨taken, ahead, -⟩ := took
  intro l member
  apply proper
  rw [ParseState.lexemes, ahead, List.map_append]
  exact List.mem_append_right _ member

end Took

/-- What the run takes from proper tokens shows its result, and where it does not apply it takes
    nothing. -/
structure Shows (view : Token → List ι → Prop) (run : ParseState → Outcome α × ParseState)
    (print : α → List ι) : Prop where
  matched {s s' : ParseState} {a : α} (proper : ∀ l ∈ s.lexemes, l.Proper)
    (success : run s = (.matched a, s')) : Took view s s' (print a)
  noMatch {s s' : ParseState} (none : run s = (.noMatch, s')) : s'.ahead = s.ahead

namespace Shows

variable {print : α → List ι}

theorem token {expected : String} {accepts : Token → Bool} {print : String → List ι}
    (printed : ∀ t : Token, t.lexeme.Proper → accepts t = true → view t (print t.text)) :
    Shows view (Rule.token expected accepts).run print where
  matched {s s' a} proper success := by
    obtain ⟨t, ahead, accepted, rfl⟩ := token_matched success
    have inside : t.lexeme ∈ s.lexemes := by simp [ParseState.lexemes, ahead]
    exact ⟨[t], ahead, .singleton (printed t (proper _ inside) accepted)⟩
  noMatch {s s'} none := by
    simp only [Rule.token] at none
    split at none
    · split at none <;> cases none
      rfl
    · cases none
      rfl

theorem map {r : Rule α} (shows : Shows view r.run print) {f : α → β} {print' : β → List ι}
    (printed : ∀ a, print' (f a) = print a) : Shows view (r.map f).run print' where
  matched {s s' b} proper success := by
    obtain ⟨a, outcome, rfl⟩ := map_matched success
    exact (printed a).symm ▸ shows.matched proper outcome
  noMatch {s s'} none := by
    simp only [Rule.map] at none
    split at none <;> cases none
    next outcome => exact shows.noMatch outcome

theorem named {r : Rule α} (shows : Shows view r.run print) (name : String) :
    Shows view (r.named name).run print where
  matched {s s' a} proper success := shows.matched proper (named_matched success)
  noMatch {s s'} none := by
    simp only [Rule.named] at none
    split at none
    · cases none
    · exact shows.noMatch none

theorem located {r : Rule α} (shows : Shows view r.run print) :
    Shows view r.located.run fun a => print a.2 where
  matched {s s' x} proper success := shows.matched proper (located_matched success).1
  noMatch {s s'} none := by
    have mapped : Shows view (r.map fun a => (s.position, a)).run fun a => print a.2 :=
      shows.map fun _ => rfl
    exact mapped.noMatch none

theorem firstOf {rs : List (Rule α)} (shows : ∀ r ∈ rs, Shows view r.run print)
    (first : Option Unexpected) (deep : Nat) : Shows view (Rule.firstOf first deep rs) print := by
  -- What failed so far only decides about errors, so the induction is over any such memory.
  induction rs generalizing first deep with
  | nil =>
    constructor
    · intro s s' a proper success
      cases first <;> cases success
    · intro s s' none
      cases first <;> cases none
      rfl
  | cons r rs ih =>
    obtain ⟨head, tail⟩ := List.forall_mem_cons.1 shows
    constructor
    · intro s s' a proper success
      rw [Rule.firstOf] at success
      split at success
      · next b branch outcome =>
        cases success
        exact (head.matched proper outcome).congr rfl (s.accept_ahead branch)
      · exact (ih tail first deep).matched proper success
      · split at success
        · cases success
        · next s₁ given =>
          -- The state goes on with what it remembers, but with the same tokens ahead.
          have same := (ParseState.giveUp_ahead given).1
          rw [← ParseState.lexemes_congr same] at proper
          split at success <;>
            exact ((ih tail _ _).matched proper success).congr same.symm rfl
    · intro s s' none
      rw [Rule.firstOf] at none
      split at none
      · cases none
      · exact (ih tail first deep).noMatch none
      · split at none
        · cases none
        · next s₁ given =>
          rw [← (ParseState.giveUp_ahead given).1]
          split at none <;> exact (ih tail _ _).noMatch none

theorem alternatives {rs : List (Rule α)} (shows : ∀ r ∈ rs, Shows view r.run print) :
    Shows view (Rule.alternatives rs).run print :=
  firstOf shows none 0

theorem optional {r : Rule α} (shows : Shows view r.run print) :
    Shows view (Rule.optional r).run fun o => o.elim [] print := by
  constructor
  · intro s s' a proper success
    simp only [Rule.optional] at success
    split at success
    · next b branch outcome =>
      cases success
      exact (shows.matched proper outcome).congr rfl (s.accept_ahead branch)
    · next branch outcome =>
      cases success
      exact .nothing ((s.accept_ahead branch).trans (shows.noMatch outcome))
    · split at success <;> cases success
      next given =>
      exact .nothing ((ParseState.giveUp_ahead given).1.trans (s.note_ahead _))
  · intro s s' none
    simp only [Rule.optional] at none
    split at none
    · cases none
    · cases none
    · split at none <;> cases none

/-- A repetition applies everywhere. -/
theorem repeated_ne_noMatch (r : Rule α) (fuel : Nat) (s s' : ParseState) :
    Rule.repeated r fuel s ≠ (.noMatch, s') := by
  intro none
  induction fuel generalizing s with
  | zero => cases none
  | succ fuel ih =>
    rw [Rule.repeated] at none
    split at none
    · cases none
    · split at none <;> cases none
    · split at none
      · cases none
      · exact ih _ none

theorem repeated {r : Rule α} (shows : Shows view r.run print) (fuel : Nat) :
    Shows view (Rule.repeated r fuel) fun as => as.flatMap print := by
  induction fuel with
  | zero =>
    constructor
    · intro s s' as proper success
      cases success
      exact .nothing rfl
    · intro s s' none
      cases none
  | succ fuel ih =>
    constructor
    · intro s s' as proper success
      rw [Rule.repeated] at success
      split at success
      · next branch outcome =>
        cases success
        exact .nothing ((s.accept_ahead branch).trans (shows.noMatch outcome))
      · split at success <;> cases success
        next given =>
        exact .nothing ((ParseState.giveUp_ahead given).1.trans (s.note_ahead _))
      · next a branch outcome =>
        -- One round took a result, and the rounds after it show what they took of the rest.
        have first : Took view s (s.accept branch) (print a) :=
          (shows.matched proper outcome).congr rfl (s.accept_ahead branch)
        split at success
        · next as' s₁ rest =>
          cases success
          rw [List.flatMap_cons]
          exact first.append (ih.matched (first.proper_after proper) rest)
        · next other => exact absurd success (other _ _)
    · intro s s' none
      exact absurd none (repeated_ne_noMatch r _ s s')

theorem many {r : Rule α} (shows : Shows view r.run print) :
    Shows view (Rule.many r).run fun as => as.flatMap print :=
  ⟨fun proper success => (shows.repeated _).matched proper success,
    fun none => (shows.repeated _).noMatch none⟩

end Shows

/-- The same for the later nodes of a sequence, which apply everywhere: they match or fail. -/
structure ShowsAfter (view : Token → List ι → Prop) (k : Continuation α) (print : α → List ι) :
    Prop where
  matched {s s' : ParseState} {a : α} (proper : ∀ l ∈ s.lexemes, l.Proper)
    (success : k.run s = (.matched a, s')) : Took view s s' (print a)
  commits (s s' : ParseState) : k.run s ≠ (.noMatch, s')

theorem ShowsAfter.done : ShowsAfter view Continuation.done fun _ => [] := by
  constructor
  · intro s s' a proper success
    cases success
    exact .nothing rfl
  · intro s s' none
    cases none

namespace Shows

variable {print : α → List ι} {print' : β → List ι} {r : Rule α} {k : Continuation β}

theorem andThen (first : Shows view r.run print) (after : ShowsAfter view k print') :
    ShowsAfter view (.andThen r k) fun x => print x.1 ++ print' x.2 := by
  constructor
  · intro s s' x proper success
    obtain ⟨s₁, outcome, rest⟩ := andThen_matched success
    have took := first.matched proper outcome
    exact took.append (after.matched (took.proper_after proper) rest)
  · intro s s' none
    simp only [Continuation.andThen] at none
    split at none
    · cases none
    · cases none
    · split at none
      · cases none
      · next rest => exact after.commits _ _ rest
      · cases none

theorem sequence (first : Shows view r.run print) (after : ShowsAfter view k print') :
    Shows view (r.sequence k).run fun x => print x.1 ++ print' x.2 := by
  constructor
  · intro s s' x proper success
    obtain ⟨s₁, outcome, rest⟩ := sequence_matched success
    have took := first.matched proper outcome
    exact took.append (after.matched (took.proper_after proper) rest)
  · intro s s' none
    simp only [Rule.sequence] at none
    split at none
    · next outcome =>
      cases none
      exact first.noMatch outcome
    · cases none
    · split at none
      · cases none
      · next rest => exact absurd rest (after.commits _ _)
      · cases none

end Shows

end Showing

/-! ## Faithful rules -/

/-- The result of the run, printed, is the lexemes it takes. -/
abbrev Faithful {α : Type} (run : ParseState → Outcome α × ParseState)
    (print : α → List Lexeme) : Prop :=
  Shows (through fun t => [t.lexeme]) run print

namespace Faithful

variable {α : Type}

/-- A word has one class, so its text says all about it. -/
theorem word {c : TokenClass} {text : String} (proper : (Lexeme.mk c text).Proper) :
    Faithful (Rule.word text).run fun _ => [⟨c, text⟩] := by
  apply Shows.token
  intro t properAlso same
  rw [beq_iff_eq] at same
  subst same
  have tokenClass : c = t.tokenClass := proper.token.class_unique properAlso.token
  rw [tokenClass]
  rfl

theorem ofClass (expected : String) (c : TokenClass) :
    Faithful (Rule.ofClass expected c).run fun text => [⟨c, text⟩] := by
  apply Shows.token
  intro t _ same
  rw [beq_iff_eq] at same
  rw [← same]
  rfl

end Faithful

/-! ## Rules that read given lexemes -/

section Reading

variable {α β : Type}

/-- With `ls` and then `rest` ahead, the run matches and takes exactly `ls`. -/
def Reads (run : ParseState → Outcome α × ParseState) (ls rest : List Lexeme) (post : α → Prop) :
    Prop :=
  ∀ s : ParseState, s.lexemes = ls ++ rest → ∃ a s', run s = (.matched a, s') ∧ post a ∧
    s'.lexemes = rest ∧ s'.cursor = s.cursor + ls.length

/-- With `ls` ahead, the run does not apply. -/
def Skips (run : ParseState → Outcome α × ParseState) (ls : List Lexeme) : Prop :=
  ∀ s : ParseState, s.lexemes = ls → ∃ s', run s = (.noMatch, s') ∧ s'.ahead = s.ahead ∧
    s'.cursor = s.cursor

/-- With `ls` ahead, the run fails after at most `n` tokens. -/
def Stumbles (run : ParseState → Outcome α × ParseState) (ls : List Lexeme) (n : Nat) : Prop :=
  ∀ s : ParseState, s.lexemes = ls → ∃ e s', run s = (.failed e, s') ∧ s'.cursor ≤ s.cursor + n

variable {run : ParseState → Outcome α × ParseState} {r : Rule α} {rs : List (Rule α)}
  {k : Continuation β} {ls ls' rest : List Lexeme} {post : α → Prop} {post' : β → Prop} {f : α → β}
  {n : Nat}

theorem ParseState.exists_ahead {s : ParseState} {l : Lexeme} (words : s.lexemes = l :: rest) :
    ∃ t ts, s.ahead = t :: ts ∧ t.lexeme = l ∧ ts.map Token.lexeme = rest := by
  rw [ParseState.lexemes] at words
  exact List.map_eq_cons_iff.1 words

theorem Reads.token {expected : String} {accepts : Token → Bool} {l : Lexeme}
    (accepted : ∀ t : Token, t.lexeme = l → accepts t = true) :
    Reads (Rule.token expected accepts).run [l] rest (· = l.text) := by
  intro s words
  obtain ⟨t, ts, ahead, rfl, after⟩ := s.exists_ahead words
  refine ⟨t.text, { s with ahead := ts, cursor := s.cursor + 1 }, ?_, rfl, after, rfl⟩
  simp [Rule.token, ahead, accepted t rfl]

theorem Skips.token {expected : String} {accepts : Token → Bool}
    (refused : ∀ t : Token, t.lexeme ∈ ls.head? → accepts t = false) :
    Skips (Rule.token expected accepts).run ls := by
  rintro s rfl
  refine ⟨s, ?_, rfl, rfl⟩
  cases ahead : s.ahead with
  | nil => simp [Rule.token, ahead]
  | cons t ts => simp [Rule.token, ahead, refused t (by simp [ParseState.lexemes, ahead])]

theorem Reads.word (c : TokenClass) (text : String) :
    Reads (Rule.word text).run [⟨c, text⟩] rest (· = text) :=
  .token fun t same => by simp [Token.lexeme] at same; simp [same]

/-- The lexemes do not start with the word. -/
def Avoids (text : String) (ls : List Lexeme) : Prop :=
  ∀ l ∈ ls.head?, l.text ≠ text

@[simp] theorem avoids_nil (text : String) : Avoids text [] := by
  simp [Avoids]

@[simp] theorem avoids_cons (text : String) (l : Lexeme) (ls : List Lexeme) :
    Avoids text (l :: ls) ↔ l.text ≠ text := by
  simp [Avoids]

theorem Skips.word {text : String} (other : Avoids text ls) : Skips (Rule.word text).run ls :=
  .token fun t head => by simpa using other _ head

theorem Reads.ofClass (expected : String) (c : TokenClass) (text : String) :
    Reads (Rule.ofClass expected c).run [⟨c, text⟩] rest (· = text) :=
  .token fun t same => by simp [Token.lexeme] at same; simp [same]

theorem Skips.ofClass {expected : String} {c : TokenClass}
    (other : ∀ l ∈ ls.head?, l.tokenClass ≠ c) : Skips (Rule.ofClass expected c).run ls :=
  .token fun t head => by simpa using other _ head

theorem Reads.map (reads : Reads r.run ls rest post) (holds : ∀ a, post a → post' (f a)) :
    Reads (r.map f).run ls rest post' := by
  intro s words
  obtain ⟨a, s', success, posted, after, cursor⟩ := reads s words
  exact ⟨f a, s', by simp [Rule.map, success], holds a posted, after, cursor⟩

theorem Skips.map (skips : Skips r.run ls) : Skips (r.map f).run ls := by
  intro s words
  obtain ⟨s', none, same⟩ := skips s words
  exact ⟨s', by simp [Rule.map, none], same⟩

theorem Stumbles.mono {m : Nat} (stumbles : Stumbles run ls m) (le : m ≤ n) :
    Stumbles run ls n := by
  intro s words
  obtain ⟨e, s', failed, within⟩ := stumbles s words
  exact ⟨e, s', failed, by omega⟩

theorem Stumbles.map (stumbles : Stumbles r.run ls n) : Stumbles (r.map f).run ls n := by
  intro s words
  obtain ⟨e, s', failed, within⟩ := stumbles s words
  exact ⟨e, s', by simp [Rule.map, failed], within⟩

theorem Reads.named (reads : Reads r.run ls rest post) (name : String) :
    Reads (r.named name).run ls rest post := by
  intro s words
  obtain ⟨a, s', success, result⟩ := reads s words
  exact ⟨a, s', by simp [Rule.named, success], result⟩

theorem Skips.named (skips : Skips r.run ls) (name : String) : Skips (r.named name).run ls := by
  intro s words
  obtain ⟨s', none, same⟩ := skips s words
  exact ⟨s', by simp [Rule.named, none], same⟩

theorem Stumbles.named (stumbles : Stumbles r.run ls n) (name : String) :
    Stumbles (r.named name).run ls n := by
  intro s words
  obtain ⟨e, s', failed, within⟩ := stumbles s words
  exact ⟨e, s'.note e, by simp [Rule.named, failed], by simpa using within⟩

theorem Reads.located (reads : Reads r.run ls rest post) :
    Reads r.located.run ls rest fun x => post x.2 := by
  intro s words
  have mapped : Reads (r.map fun a => (s.position, a)).run ls rest fun x => post x.2 :=
    reads.map fun _ posted => posted
  exact mapped s words

theorem Skips.located (skips : Skips r.run ls) : Skips r.located.run ls :=
  fun s words => skips.map s words

theorem Stumbles.located (stumbles : Stumbles r.run ls n) : Stumbles r.located.run ls n :=
  fun s words => stumbles.map s words

/-! ### Choices -/

/-- The choice among the alternatives reads the lexemes, whatever failed before it. -/
def ReadsFirst (rs : List (Rule α)) (ls rest : List Lexeme) (post : α → Prop) : Prop :=
  ∀ first deep, Reads (Rule.firstOf first deep rs) ls rest post

theorem Reads.first (reads : Reads r.run ls rest post) : ReadsFirst (r :: rs) ls rest post := by
  intro first deep s words
  obtain ⟨a, branch, success, posted, after, cursor⟩ := reads s words
  refine ⟨a, s.accept branch, by simp [Rule.firstOf, success], posted, ?_, ?_⟩
  · rw [ParseState.lexemes_congr (s.accept_ahead branch), after]
  · rw [s.accept_cursor, cursor]

theorem ReadsFirst.skip (later : ReadsFirst rs ls rest post) (skips : Skips r.run (ls ++ rest)) :
    ReadsFirst (r :: rs) ls rest post := by
  intro first deep s words
  obtain ⟨s', none, -⟩ := skips s words
  simp only [Rule.firstOf, none]
  exact later first deep s words

theorem ReadsFirst.stumble (later : ReadsFirst rs ls rest post)
    (stumbles : Stumbles r.run (ls ++ rest) lookahead) : ReadsFirst (r :: rs) ls rest post := by
  intro first deep s words
  obtain ⟨e, branch, failed, within⟩ := stumbles s words
  obtain ⟨s₁, given⟩ : ∃ s₁, s.giveUp branch e = (s₁, false) :=
    ⟨_, Prod.ext rfl (ParseState.giveUp_within e within)⟩
  obtain ⟨ahead, cursor⟩ := ParseState.giveUp_ahead given
  have words₁ : s₁.lexemes = ls ++ rest := (ParseState.lexemes_congr ahead).trans words
  simp only [Rule.firstOf, failed, given]
  rw [← cursor]
  -- Whether or not this failure is remembered as the deepest, the later alternatives read on.
  split
  · exact later _ _ s₁ words₁
  · exact later _ _ s₁ words₁

theorem ReadsFirst.alternatives (reads : ReadsFirst rs ls rest post) :
    Reads (Rule.alternatives rs).run ls rest post :=
  reads none 0

theorem Skips.alternatives (skips : ∀ r ∈ rs, Skips r.run ls) :
    Skips (Rule.alternatives rs).run ls := by
  intro s words
  refine ⟨s, ?_, rfl, rfl⟩
  -- Alternatives that do not apply leave no failure behind, so the choice does not apply either.
  change Rule.firstOf none 0 rs s = _
  induction rs with
  | nil => rfl
  | cons r rs ih =>
    obtain ⟨head, tail⟩ := List.forall_mem_cons.1 skips
    obtain ⟨s', none, -⟩ := head s words
    simp only [Rule.firstOf, none]
    exact ih tail

theorem Reads.optional {postOption : Option α → Prop} (reads : Reads r.run ls rest post)
    (holds : ∀ a, post a → postOption (some a)) :
    Reads (Rule.optional r).run ls rest postOption := by
  intro s words
  obtain ⟨a, branch, success, posted, after, cursor⟩ := reads s words
  refine ⟨some a, s.accept branch, by simp [Rule.optional, success], holds a posted, ?_, ?_⟩
  · rw [ParseState.lexemes_congr (s.accept_ahead branch), after]
  · rw [s.accept_cursor, cursor]

theorem Skips.optional {postOption : Option α → Prop} (skips : Skips r.run rest)
    (holds : postOption none) : Reads (Rule.optional r).run [] rest postOption := by
  intro s words
  obtain ⟨branch, none, ahead, cursor⟩ := skips s words
  refine ⟨_, s.accept branch, by simp only [Rule.optional, none], holds, ?_, ?_⟩
  · rw [ParseState.lexemes_congr (s.accept_ahead branch), ParseState.lexemes_congr ahead]
    exact words
  · rw [s.accept_cursor, cursor]
    rfl

/-! ### Sequences -/

theorem Reads.andThen (first : Reads r.run ls (ls' ++ rest) post)
    (after : Reads k.run ls' rest post') :
    Reads (Continuation.andThen r k).run (ls ++ ls') rest fun x => post x.1 ∧ post' x.2 := by
  intro s words
  rw [List.append_assoc] at words
  obtain ⟨a, s₁, success, posted, words₁, cursor⟩ := first s words
  obtain ⟨b, s₂, success', posted', words₂, cursor'⟩ := after s₁ words₁
  refine ⟨(a, b), s₂, by simp [Continuation.andThen, success, success'], ⟨posted, posted'⟩,
    words₂, ?_⟩
  rw [cursor', cursor, List.length_append, Nat.add_assoc]

theorem Reads.sequence (first : Reads r.run ls (ls' ++ rest) post)
    (after : Reads k.run ls' rest post') :
    Reads (r.sequence k).run (ls ++ ls') rest fun x => post x.1 ∧ post' x.2 := by
  intro s words
  rw [List.append_assoc] at words
  obtain ⟨a, s₁, success, posted, words₁, cursor⟩ := first s words
  obtain ⟨b, s₂, success', posted', words₂, cursor'⟩ := after s₁ words₁
  refine ⟨(a, b), s₂, by simp [Rule.sequence, success, success'], ⟨posted, posted'⟩, words₂, ?_⟩
  rw [cursor', cursor, List.length_append, Nat.add_assoc]

/-- The last node of a sequence. -/
theorem Reads.last (reads : Reads r.run ls rest post) :
    Reads (Continuation.andThen r .done).run ls rest fun x => post x.1 := by
  intro s words
  obtain ⟨a, s', success, posted, after⟩ := reads s words
  exact ⟨(a, ()), s', by simp [Continuation.andThen, Continuation.done, success], posted, after⟩

/-- A sequence that starts with a single token, and the same later in a sequence. -/
theorem Reads.sequenceToken {l : Lexeme} (first : Reads r.run [l] (ls ++ rest) post)
    (after : Reads k.run ls rest post') :
    Reads (r.sequence k).run (l :: ls) rest fun x => post x.1 ∧ post' x.2 :=
  first.sequence after

theorem Reads.tokenThen {l : Lexeme} (first : Reads r.run [l] (ls ++ rest) post)
    (after : Reads k.run ls rest post') :
    Reads (Continuation.andThen r k).run (l :: ls) rest fun x => post x.1 ∧ post' x.2 :=
  first.andThen after

theorem Skips.sequence (skips : Skips r.run ls) : Skips (r.sequence k).run ls := by
  intro s words
  obtain ⟨s', none, same⟩ := skips s words
  exact ⟨s', by simp [Rule.sequence, none], same⟩

/-- A later node that does not apply is a failure. -/
theorem Skips.stumbles (skips : Skips r.run ls) :
    Stumbles (Continuation.andThen r k).run ls 0 := by
  intro s words
  obtain ⟨s', none, -, cursor⟩ := skips s words
  refine ⟨s'.unexpected (" ".intercalate (r.expected :: k.expected)), s', ?_, cursor.le⟩
  simp [Continuation.andThen, none]

theorem Stumbles.tokenThen {l : Lexeme} (first : Reads r.run [l] rest post)
    (after : Stumbles k.run rest n) :
    Stumbles (Continuation.andThen r k).run (l :: rest) (n + 1) := by
  intro s words
  obtain ⟨a, s₁, success, -, words₁, cursor⟩ := first s words
  obtain ⟨e, s₂, failed, within⟩ := after s₁ words₁
  rw [List.length_singleton] at cursor
  exact ⟨e, s₂, by simp [Continuation.andThen, success, failed], by omega⟩

theorem Stumbles.sequenceToken {l : Lexeme} (first : Reads r.run [l] rest post)
    (after : Stumbles k.run rest n) : Stumbles (r.sequence k).run (l :: rest) (n + 1) := by
  intro s words
  obtain ⟨a, s₁, success, -, words₁, cursor⟩ := first s words
  obtain ⟨e, s₂, failed, within⟩ := after s₁ words₁
  rw [List.length_singleton] at cursor
  exact ⟨e, s₂, by simp [Rule.sequence, success, failed], by omega⟩

/-! ### Repetitions -/

/-- A list of items is read one by one. What an item needs of the lexemes behind it (`guard`) holds
    if another item or the end of the repetition follows. -/
theorem Reads.repeated {γ : Type} {key : α → γ} {print : α → List Lexeme} {items : List α}
    (guard : List Lexeme → Prop)
    (reads : ∀ i ∈ items, ∀ after, guard after → Reads r.run (print i) after (key · = key i))
    (starts : ∀ i ∈ items, ∀ after, guard (print i ++ after)) (ends : guard rest)
    (skips : Skips r.run rest) {fuel : Nat} (enough : items.length < fuel) :
    Reads (Rule.repeated r fuel) (items.flatMap print) rest
      fun as => as.map key = items.map key := by
  induction items generalizing fuel with
  | nil =>
    intro s words
    obtain ⟨fuel, rfl⟩ : ∃ n, fuel = n + 1 := ⟨fuel - 1, by omega⟩
    obtain ⟨branch, none, ahead, cursor⟩ := skips s words
    refine ⟨[], s.accept branch, by simp [Rule.repeated, none], rfl, ?_, by simp [cursor]⟩
    rw [ParseState.lexemes_congr (s.accept_ahead branch), ParseState.lexemes_congr ahead, words]
    rfl
  | cons i items ih =>
    intro s words
    obtain ⟨readsHead, readsTail⟩ := List.forall_mem_cons.1 reads
    obtain ⟨-, startsTail⟩ := List.forall_mem_cons.1 starts
    obtain ⟨fuel, rfl⟩ : ∃ n, fuel = n + 1 := ⟨fuel - 1, by omega⟩
    -- Behind the first item comes the next one or the end of the repetition.
    have guarded : guard (items.flatMap print ++ rest) := by
      cases items with
      | nil => exact ends
      | cons j items =>
        rw [List.flatMap_cons, List.append_assoc]
        exact startsTail j List.mem_cons_self _
    rw [List.flatMap_cons, List.append_assoc] at words
    obtain ⟨a, branch, success, posted, words₁, cursor⟩ := readsHead _ guarded s words
    have words₂ : (s.accept branch).lexemes = items.flatMap print ++ rest :=
      (ParseState.lexemes_congr (s.accept_ahead branch)).trans words₁
    obtain ⟨as, s₂, success', posted', words₃, cursor'⟩ :=
      ih readsTail startsTail (by simpa using enough) _ words₂
    refine ⟨a :: as, s₂, by simp [Rule.repeated, success, success'], ?_, words₃, ?_⟩
    · exact congrArg₂ List.cons posted posted'
    · rw [cursor', s.accept_cursor, cursor, List.flatMap_cons, List.length_append, Nat.add_assoc]

theorem Reads.many {γ : Type} {key : α → γ} {print : α → List Lexeme} {items : List α}
    (guard : List Lexeme → Prop) (nonempty : ∀ i, print i ≠ [])
    (reads : ∀ i ∈ items, ∀ after, guard after → Reads r.run (print i) after (key · = key i))
    (starts : ∀ i ∈ items, ∀ after, guard (print i ++ after)) (ends : guard rest)
    (skips : Skips r.run rest) :
    Reads (Rule.many r).run (items.flatMap print) rest fun as => as.map key = items.map key := by
  intro s words
  -- Every item takes a token, so the tokens ahead bound the number of rounds.
  have count : items.length ≤ (items.flatMap print).length := by
    have each : ∀ n ∈ items.map fun i => (print i).length, 1 ≤ n := by
      intro n member
      obtain ⟨i, -, rfl⟩ := List.mem_map.1 member
      exact List.length_pos_iff.2 (nonempty i)
    rw [List.length_flatMap, ← List.length_map fun i => (print i).length]
    exact List.length_le_sum_of_one_le _ each
  have enough : items.length < s.ahead.length + 1 := by
    have total := congrArg List.length words
    rw [ParseState.lexemes, List.length_map, List.length_append] at total
    omega
  exact Reads.repeated guard reads starts ends skips enough s words

end Reading

end RegisterMap.Definition
