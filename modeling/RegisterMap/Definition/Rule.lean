import RegisterMap.Definition.Token
import RegisterMap.Text.Quoted

/-! # Grammar rules

A rule says what it expects, for messages, and how it runs on the tokens. A run ends in one of
three ways: the rule does not apply here, it matched, or it failed after it had begun to match.

Alternatives, options and repetitions run on a copy of the state, their branch. A failed branch is
given up and the next choice tried, as long as the branch did not get further than `lookahead`
tokens beyond where it started; a branch that got further settles the matter, and its failure is
the failure of the whole. Beside this, the state remembers the deepest failure that was given up:
if the parse as a whole stops early, that one explains it best. -/

namespace RegisterMap.Definition

/-- A token where none of the expected ones stands. -/
structure Unexpected where
  position : Position
  token : String
  /-- What was expected, or nothing if only the end of the file could have followed. -/
  expected : String
  deriving DecidableEq, Repr

def Unexpected.message (e : Unexpected) : String :=
  if e.expected = "" then "unexpected token " ++ Text.quoted e.token
  else "unexpected token " ++ Text.quoted e.token ++ " (expected " ++ e.expected ++ ")"

/-- Where a parse stands. -/
structure ParseState where
  /-- The tokens ahead. -/
  ahead : List Token
  /-- The place after the last token. -/
  stop : Position
  /-- How many tokens are behind. -/
  cursor : Nat := 0
  /-- The deepest failure given up so far, and how many tokens were behind it. -/
  deepest : Option Unexpected := none
  depth : Nat := 0
  deriving Repr

/-- How far beyond its start a branch may fail and still be given up, in tokens. -/
def lookahead : Nat := 2

namespace ParseState

/-- The failure at the token ahead. -/
def unexpected (s : ParseState) (expected : String) : Unexpected :=
  match s.ahead with
  | t :: _ => ⟨t.position, t.text, expected⟩
  | [] => ⟨s.stop, "<EOF>", expected⟩

/-- The place of the token ahead. -/
def position (s : ParseState) : Position :=
  match s.ahead with
  | t :: _ => t.position
  | [] => s.stop

/-- Remembers a failure if it is at least as deep as the one remembered. -/
def note (s : ParseState) (e : Unexpected) : ParseState :=
  if s.depth ≤ s.cursor then { s with deepest := some e, depth := s.cursor } else s

/-- Goes on where a branch stands. -/
def accept (s branch : ParseState) : ParseState :=
  if s.depth ≤ branch.depth then branch
  else { branch with deepest := s.deepest, depth := s.depth }

/-- The state after a branch failed, and whether the failure is final. -/
def giveUp (s branch : ParseState) (e : Unexpected) : ParseState × Bool :=
  let noted :=
    if s.depth < branch.depth then { s with deepest := branch.deepest, depth := branch.depth }
    else if s.depth ≤ branch.cursor then
      { s with deepest := some e, depth := max branch.cursor branch.depth }
    else s
  if s.cursor + lookahead < branch.cursor then (noted.accept branch, true) else (noted, false)

end ParseState

/-- The outcome of running a rule. -/
inductive Outcome (α : Type) where
  | noMatch
  | matched (result : α)
  | failed (error : Unexpected)
  deriving Repr

/-- A rule of the grammar. -/
structure Rule (α : Type) where
  expected : String
  run : ParseState → Outcome α × ParseState

/-- The later nodes of a sequence. They have to match. -/
structure Continuation (α : Type) where
  expected : List String
  run : ParseState → Outcome α × ParseState

namespace Rule

/-- The same rule with another result. -/
def map {α β : Type} (f : α → β) (r : Rule α) : Rule β where
  expected := r.expected
  run s := match r.run s with
    | (.noMatch, s) => (.noMatch, s)
    | (.matched a, s) => (.matched (f a), s)
    | (.failed e, s) => (.failed e, s)

/-- One token that satisfies a condition. -/
def token (expected : String) (accepts : Token → Bool) : Rule String where
  expected := expected
  run s := match s.ahead with
    | t :: ts =>
      if accepts t then (.matched t.text, { s with ahead := ts, cursor := s.cursor + 1 })
      else (.noMatch, s)
    | [] => (.noMatch, s)

/-- A token with a fixed text, whatever its class. -/
def word (text : String) : Rule String :=
  token (Text.quoted text) fun t => t.text == text

/-- Any token of a class. -/
def ofClass (expected : String) (c : TokenClass) : Rule String :=
  token expected fun t => t.tokenClass == c

/-- A rule with a name of its own. Its failure is noted where it happened. -/
def named {α : Type} (name : String) (r : Rule α) : Rule α where
  expected := name
  run s := match r.run s with
    | (.failed e, s) => (.failed e, s.note e)
    | other => other

/-- A rule with the place where it starts. -/
def located {α : Type} (r : Rule α) : Rule (Position × α) where
  expected := r.expected
  run s := (r.map fun a => (s.position, a)).run s

/-- The outcome of a list of alternatives, given the deepest failure among those tried before. -/
def firstOf {α : Type} (first : Option Unexpected) (deep : Nat) :
    List (Rule α) → ParseState → Outcome α × ParseState
  | [], s =>
    match first with
    | some e => (.failed e, s.note e)
    | none => (.noMatch, s)
  | r :: rs, s =>
    match r.run s with
    | (.matched a, branch) => (.matched a, s.accept branch)
    | (.noMatch, _) => firstOf first deep rs s
    | (.failed e, branch) =>
      match s.giveUp branch e with
      | (s, true) => (.failed e, s)
      | (s, false) =>
        if deep ≤ branch.cursor then firstOf (some e) branch.cursor rs s
        else firstOf first deep rs s

/-- The first alternative that matches. -/
def alternatives {α : Type} (rs : List (Rule α)) : Rule α where
  expected := "(" ++ " | ".intercalate (rs.map Rule.expected) ++ ")"
  run := firstOf none 0 rs

/-- The rule or nothing. -/
def optional {α : Type} (r : Rule α) : Rule (Option α) where
  expected := r.expected ++ "?"
  run s := match r.run s with
    | (.matched a, branch) => (.matched (some a), s.accept branch)
    | (.noMatch, branch) => (.matched none, s.accept branch)
    | (.failed e, branch) =>
      match (s.note e).giveUp branch e with
      | (s, true) => (.failed e, s)
      | (s, false) => (.matched none, s)

/-- At most `fuel` matches of a rule in a row. -/
def repeated {α : Type} (r : Rule α) : (fuel : Nat) → ParseState → Outcome (List α) × ParseState
  | 0, s => (.matched [], s)
  | fuel + 1, s =>
    match r.run s with
    | (.noMatch, branch) => (.matched [], s.accept branch)
    | (.failed e, branch) =>
      match (s.note e).giveUp branch e with
      | (s, true) => (.failed e, s)
      | (s, false) => (.matched [], s)
    | (.matched a, branch) =>
      match repeated r fuel (s.accept branch) with
      | (.matched as, s) => (.matched (a :: as), s)
      | other => other

/-- Any number of matches in a row. Each takes a token, so there are at most as many as tokens
    ahead, and one more run shows that no other follows. -/
def many {α : Type} (r : Rule α) : Rule (List α) where
  expected := r.expected ++ "*"
  run s := repeated r (s.ahead.length + 1) s

end Rule

namespace Continuation

/-- The end of a sequence. -/
def done : Continuation Unit where
  expected := []
  run s := (.matched (), s)

/-- A node and the nodes after it. -/
def andThen {α β : Type} (r : Rule α) (k : Continuation β) : Continuation (α × β) where
  expected := r.expected :: k.expected
  run s := match r.run s with
    | (.noMatch, s) => (.failed (s.unexpected (" ".intercalate (r.expected :: k.expected))), s)
    | (.failed e, s) => (.failed e, s)
    | (.matched a, s) =>
      match k.run s with
      | (.matched b, s) => (.matched (a, b), s)
      | (.noMatch, s) => (.noMatch, s)
      | (.failed e, s) => (.failed e, s)

end Continuation

/-- A sequence of nodes. It does not apply where its first node does not; after that, all have to
    match. -/
def Rule.sequence {α β : Type} (r : Rule α) (k : Continuation β) : Rule (α × β) where
  expected := "(" ++ " ".intercalate (r.expected :: k.expected) ++ ")"
  run s := match r.run s with
    | (.noMatch, s) => (.noMatch, s)
    | (.failed e, s) => (.failed e, s)
    | (.matched a, s) =>
      match k.run s with
      | (.matched b, s) => (.matched (a, b), s)
      | (.noMatch, s) => (.noMatch, s)
      | (.failed e, s) => (.failed e, s)

end RegisterMap.Definition
