import RegisterMap.Yaml.Token

/-! # Nodes of a YAML document

The tokens of a document form a tree of scalars, sequences and mappings. A reference stands for the
node that its anchor marked before, so that the tree has no references left. Only the first document
of a text counts. -/

namespace RegisterMap.Yaml

/-- A node of a document. -/
inductive Node where
  /-- A text, with its tag if it has one. A plain text without a tag may stand for something else
      than a text: it is `implicit`. -/
  | scalar (tag : String) (implicit : Bool) (text : String)
  | sequence (items : List Node)
  /-- Keys and values in turn. -/
  | mapping (children : List Node)
  deriving Repr

/-- The node of a place where nothing stands. -/
def Node.empty : Node :=
  .scalar "" true ""

/-- The tokens still to come, what anchors stand for, and what the handles of tags stand for. An
    anchor of a node that is not complete stands for nothing yet. -/
structure Source where
  tokens : List Token
  anchors : List (String × Option Node) := []
  handles : List (String × String) := []

namespace Source

/-- The next token. -/
def peek (s : Source) : Token :=
  s.tokens.headD .streamEnd

/-- The source without its next token. -/
def drop (s : Source) : Source :=
  { s with tokens := s.tokens.tail }

/-- The meaning of a tag. -/
def tag? (s : Source) (handle suffix : String) : Option String :=
  if handle = "" then some suffix
  else (s.handles.lookup handle).map (· ++ suffix)

/-- Reads the anchor and the tag in front of a node, in either order. -/
def properties? (s : Source) : Option (Option String × String × Source) :=
  match s.peek with
  | .anchor name =>
    match s.drop.peek with
    | .tag handle suffix => (s.tag? handle suffix).map (some name, ·, s.drop.drop)
    | _ => some (some name, "", s.drop)
  | .tag handle suffix =>
    match s.drop.peek with
    | .anchor name => (s.tag? handle suffix).map (some name, ·, s.drop.drop)
    | _ => (s.tag? handle suffix).map (none, ·, s.drop)
  | _ => some (none, "", s)

/-- Marks a node that begins, or one that is complete. -/
def mark (s : Source) (anchor : Option String) (node : Option Node) : Source :=
  match anchor with
  | none => s
  | some name => { s with anchors := (name, node) :: s.anchors }

end Source

mutual

/-- Reads a node. Outside of brackets it may be a block, and as a part of a mapping also a sequence
    that is not indented. -/
def node? (block flush : Bool) : (fuel : Nat) → Source → Option (Node × Source)
  | 0, _ => none
  | fuel + 1, s =>
    match s.peek with
    | .reference name =>
      match s.anchors.lookup name with
      | some (some node) => some (node, s.drop)
      | _ => none
    | _ =>
      match s.properties? with
      | none => none
      | some (anchor, tag, s) =>
        match content? block flush tag anchor.isSome fuel (s.mark anchor none) with
        | none => none
        | some (node, s) => some (node, s.mark anchor (some node))

/-- Reads a node after its properties. -/
def content? (block flush : Bool) (tag : String) (anchored : Bool) :
    (fuel : Nat) → Source → Option (Node × Source)
  | 0, _ => none
  | fuel + 1, s =>
    match s.peek with
    | .scalar text plain => some (.scalar tag ((tag == "" && plain) || tag == "!") text, s.drop)
    | .entry => if flush then flushEntries? fuel s [] else blank s
    | .flowSequence => flowItems? true fuel s.drop []
    | .flowMapping => flowPairs? true fuel s.drop []
    | .blockSequence => if block then blockEntries? fuel s.drop [] else blank s
    | .blockMapping => if block then blockPairs? fuel s.drop [] else blank s
    | _ => blank s
where
  /-- Properties alone stand for an empty node. -/
  blank (s : Source) : Option (Node × Source) :=
    if anchored || tag != "" then some (.scalar tag (tag == "") "", s) else none

/-- Reads the entries of an indented sequence; `acc` holds those before, the last one first. -/
def blockEntries? : (fuel : Nat) → Source → (acc : List Node) → Option (Node × Source)
  | 0, _, _ => none
  | fuel + 1, s, acc =>
    match s.peek with
    | .entry =>
      let s := s.drop
      if s.peek = .entry ∨ s.peek = .blockEnd then blockEntries? fuel s (.empty :: acc)
      else
        match node? true false fuel s with
        | none => none
        | some (n, s) => blockEntries? fuel s (n :: acc)
    | .blockEnd => some (.sequence acc.reverse, s.drop)
    | _ => none

/-- Reads the entries of a sequence that is as deep as the mapping it belongs to. -/
def flushEntries? : (fuel : Nat) → Source → (acc : List Node) → Option (Node × Source)
  | 0, _, _ => none
  | fuel + 1, s, acc =>
    match s.peek with
    | .entry =>
      let s := s.drop
      if s.peek = .entry ∨ s.peek = .key ∨ s.peek = .value ∨ s.peek = .blockEnd then
        flushEntries? fuel s (.empty :: acc)
      else
        match node? true false fuel s with
        | none => none
        | some (n, s) => flushEntries? fuel s (n :: acc)
    | _ => some (.sequence acc.reverse, s)

/-- Reads the pairs of an indented mapping; `acc` holds keys and values before, the last one
    first. -/
def blockPairs? : (fuel : Nat) → Source → (acc : List Node) → Option (Node × Source)
  | 0, _, _ => none
  | fuel + 1, s, acc =>
    match s.peek with
    | .key =>
      match part? fuel s.drop with
      | none => none
      | some (k, s) =>
        match (if s.peek = .value then part? fuel s.drop else some (.empty, s)) with
        | none => none
        | some (v, s) => blockPairs? fuel s (v :: k :: acc)
    | .blockEnd => some (.mapping acc.reverse, s.drop)
    | _ => none

/-- Reads a key or a value of an indented mapping, which may be empty. -/
def part? : (fuel : Nat) → Source → Option (Node × Source)
  | 0, _ => none
  | fuel + 1, s =>
    if s.peek = .key ∨ s.peek = .value ∨ s.peek = .blockEnd then some (.empty, s)
    else node? true true fuel s

/-- Reads the items of a sequence in brackets, which are separated by commas. An item may be a
    single pair. -/
def flowItems? (first : Bool) : (fuel : Nat) → Source → (acc : List Node) → Option (Node × Source)
  | 0, _, _ => none
  | fuel + 1, s, acc =>
    if s.peek = .flowSequenceEnd then some (.sequence acc.reverse, s.drop)
    else if !first && s.peek != .comma then none
    else
      let s := if first then s else s.drop
      if s.peek = .flowSequenceEnd then some (.sequence acc.reverse, s.drop)
      else
        match (if s.peek = .key then flowPair? fuel s.drop else node? false false fuel s) with
        | none => none
        | some (n, s) => flowItems? false fuel s (n :: acc)

/-- Reads a single pair in a sequence, after its question mark or the place of its key. If the key is
    empty the token after it is lost. -/
def flowPair? : (fuel : Nat) → Source → Option (Node × Source)
  | 0, _ => none
  | fuel + 1, s =>
    let ends (t : Token) : Bool := t == .comma || t == .flowSequenceEnd
    match (if s.peek = .value ∨ ends s.peek then some (.empty, s.drop)
        else node? false false fuel s) with
    | none => none
    | some (k, s) =>
      match (if s.peek = .value then
          if ends s.drop.peek then some (.empty, s.drop) else node? false false fuel s.drop
        else some (.empty, s)) with
      | none => none
      | some (v, s) => some (.mapping [k, v], s)

/-- Reads the pairs of a mapping in brackets, which are separated by commas. A key may stand
    alone. -/
def flowPairs? (first : Bool) : (fuel : Nat) → Source → (acc : List Node) → Option (Node × Source)
  | 0, _, _ => none
  | fuel + 1, s, acc =>
    let ends (t : Token) : Bool := t == .comma || t == .flowMappingEnd
    if s.peek = .flowMappingEnd then some (.mapping acc.reverse, s.drop)
    else if !first && s.peek != .comma then none
    else
      let s := if first then s else s.drop
      if s.peek = .flowMappingEnd then some (.mapping acc.reverse, s.drop)
      else if s.peek = .key then
        let s := s.drop
        match (if s.peek = .value ∨ ends s.peek then some (.empty, s)
            else node? false false fuel s) with
        | none => none
        | some (k, s) =>
          match (if s.peek = .value then
              if ends s.drop.peek then some (.empty, s.drop) else node? false false fuel s.drop
            else some (.empty, s)) with
          | none => none
          | some (v, s) => flowPairs? false fuel s (v :: k :: acc)
      else
        match node? false false fuel s with
        | none => none
        | some (k, s) => flowPairs? false fuel s (.empty :: k :: acc)

end

/-- Reads the directives in front of a document. Each may come once, and only version 1.1 is
    understood. -/
def directives? : (versionSeen : Bool) → (handles : List (String × String)) → List Token →
    Option (List (String × String) × List Token)
  | seen, handles, .version major minor :: rest =>
    if seen || major != 1 || minor != 1 then none else directives? true handles rest
  | seen, handles, .shorthand handle expansion :: rest =>
    if (handles.lookup handle).isSome then none
    else directives? seen ((handle, expansion) :: handles) rest
  | _, handles, rest => some (handles, rest)

/-- The handles that every document knows. -/
def commonHandles : List (String × String) :=
  [("!", "!"), ("!!", "tag:yaml.org,2002:")]

/-- Whether a document has no content before a token. -/
def endsDocument : Token → Bool
  | .version .. => true
  | .shorthand .. => true
  | .documentStart => true
  | .documentEnd => true
  | .streamEnd => true
  | _ => false

/-- The first document of a text, or nothing if there is none. -/
def document? (text : String) : Option (Option Node) :=
  let all := tokens text.toList
  match directives? false [] all with
  | none => none
  | some (handles, rest) =>
    let source : Source := { tokens := rest, handles := handles ++ commonHandles }
    if all.head? = some .streamEnd then some none
    else
      if rest.length < all.length ∧ source.peek ≠ .documentStart then none
      else
        let started := source.peek = .documentStart
        let source := if started then source.drop else source
        if started ∧ endsDocument source.peek then some (some .empty)
        else
          match node? true false (4 * rest.length + 4) source with
          | none => none
          | some (n, s) => if s.peek = .fault then none else some (some n)

end RegisterMap.Yaml
