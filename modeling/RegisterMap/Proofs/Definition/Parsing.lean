import RegisterMap.Proofs.Definition.Completeness
import RegisterMap.Proofs.Definition.Soundness

/-! # Parsing definition files

The parser accepts exactly the texts that are written with the lexemes of a tree, and returns that
tree. -/

namespace RegisterMap.Definition

theorem parseTokens_eq_ok_iff {tokens : List Token} {stop : Position} {doc : Document} :
    parseTokens tokens stop = .ok doc ↔
      ∃ s, Grammar.document.run { ahead := tokens, stop := stop } = (.matched doc, s) ∧
        s.lexemes = [] := by
  unfold parseTokens
  constructor
  · intro success
    split at success
    · next found s outcome =>
      split at success
      · next finished =>
        cases success
        refine ⟨s, outcome, ?_⟩
        rw [ParseState.lexemes, List.isEmpty_iff.1 finished, List.map_nil]
      · split at success
        · split at success <;> cases success
        · cases success
    · cases success
    · cases success
  · rintro ⟨s, outcome, finished⟩
    rw [outcome]
    rw [ParseState.lexemes, List.map_eq_nil_iff] at finished
    simp [finished]

/-- Where the grammar starts on a scanned text. -/
def Scan.start (scanned : Scan) : ParseState where
  ahead := scanned.tokens.filter fun t => t.tokenClass != .blank
  stop := scanned.stop

theorem Scan.start_lexemes (scanned : Scan) : scanned.start.lexemes = scanned.lexemes := rfl

theorem parse_eq_ok_iff {source : String} {doc : Document} :
    parse source = .ok doc ↔ (scan source.toList).left = [] ∧
      ∃ s, Grammar.document.run (scan source.toList).start = (.matched doc, s) ∧
        s.lexemes = [] := by
  rw [Scan.start, ← parseTokens_eq_ok_iff]
  unfold parse
  dsimp only
  constructor
  · intro success
    split at success
    · next finished =>
      refine ⟨List.isEmpty_iff.1 finished, ?_⟩
      split at success <;> cases success
      next outcome => exact outcome
    · cases success
  · rintro ⟨finished, outcome⟩
    rw [finished, outcome]
    rfl

/-- A tree that is written down is parsed. -/
theorem Written.parse {doc : Document} {source : String}
    (written : Written doc.lexemes source.toList) :
    ∃ read, parse source = .ok read ∧ read.unplaced = doc.unplaced := by
  obtain ⟨finished, lexemes⟩ := written.scan
  -- The rule for documents reads the tree with nothing left behind it.
  have ahead : (Definition.scan source.toList).start.lexemes = doc.lexemes ++ [] := by
    rw [Scan.start_lexemes, lexemes, List.append_nil]
  obtain ⟨read, s, success, same, rest, -⟩ :=
    reads_document doc (fun _ => written.proper) _ ahead
  exact ⟨read, parse_eq_ok_iff.2 ⟨finished, s, success, rest⟩, same⟩

/-- The tree of a parsed file is the tokens of the file, white space apart, and its places are those
    of the tokens. -/
theorem layout_of_parse {source : String} {doc : Document} (success : parse source = .ok doc) :
    List.Forall₂ Token.FitsAt
      ((scan source.toList).tokens.filter fun t => t.tokenClass != .blank) doc.layout := by
  obtain ⟨finished, s, read, rest⟩ := parse_eq_ok_iff.1 success
  have proper : ∀ l ∈ (scan source.toList).start.lexemes, l.Proper :=
    fun _ => (written_of_scan finished).proper
  obtain ⟨taken, ahead, seen⟩ := laid_document.matched proper read
  rw [ParseState.lexemes, List.map_eq_nil_iff] at rest
  rw [rest, List.append_nil] at ahead
  subst ahead
  exact seen.forall₂

/-- A parsed text is its tree written down. -/
theorem written_of_parse {doc : Document} {source : String} (success : parse source = .ok doc) :
    (scan source.toList).lexemes = doc.lexemes ∧ Written doc.lexemes source.toList := by
  have written := written_of_scan (parse_eq_ok_iff.1 success).1
  have lexemes : (scan source.toList).lexemes = doc.lexemes := by
    rw [← Document.lexemes_layout]
    exact lexemes_of_fits (layout_of_parse success)
  exact ⟨lexemes, lexemes ▸ written⟩

/-- The parser accepts exactly the grammar and loses nothing but places and white space. -/
theorem parse_accepts_exactly_written_trees :
    (∀ (doc : Document) (source : String), Written doc.lexemes source.toList →
      ∃ read, parse source = .ok read ∧ read.unplaced = doc.unplaced) ∧
    (∀ (source : String) (doc : Document), parse source = .ok doc →
      (scan source.toList).lexemes = doc.lexemes ∧ Written doc.lexemes source.toList) ∧
    (∀ (doc : Document) (spaced : List (Lexeme × List Char)),
      spaced.map Prod.fst = doc.lexemes → (∀ l ∈ doc.lexemes, l.Proper) →
      (∀ e ∈ spaced, (∀ c ∈ e.2, isTokenBlank c = true) ∧
        e.2.head?.any (endsToken e.1.tokenClass) = true) →
      Written doc.lexemes (spaced.flatMap fun e => e.1.text.toList ++ e.2)) := by
  refine ⟨fun doc source => Written.parse, fun source doc => written_of_parse, ?_⟩
  intro doc spaced same proper gaps
  rw [← same]
  refine written_spaced ?_ gaps
  intro e member
  exact proper e.1 (same ▸ List.mem_map_of_mem member)

/-- A file with a field that is called like the word before a constant. -/
def keywordFile : String :=
  "// d\ndevice register\nregister r(0x1):w\x7bconst const=int8(-5);" ++
    "const:w[const]r\x7ba:0-3\x7d;\x7d;//e"

/-- The tree of that file, without its places. -/
def keywordTree : Document where
  position := {}
  doc := ["// d"]
  name := "register"
  items :=
    [.register ⟨{}, "r", "0x1", some .write,
      [.constant ⟨{}, "const", "int8", true, "5"⟩,
        .field ⟨{}, "const", some .write, some (.name "const"), "r", [⟨{}, "a", "0", some "3"⟩]⟩]⟩,
     .comment ⟨{}, "//e"⟩]

theorem parse_keywordFile :
    Written keywordTree.lexemes keywordFile.toList ∧
      (∃ read, parse keywordFile = .ok read ∧ read.unplaced = keywordTree ∧
        read.lexemes = keywordTree.lexemes) ∧
      Written keywordTree.lexemes
        ((keywordTree.lexemes.map (·, ['\n'])).flatMap fun e => e.1.text.toList ++ e.2) := by
  obtain ⟨complete, sound, spaced⟩ := parse_accepts_exactly_written_trees
  -- The scanner finds the lexemes of the tree, so the text is one way to write them.
  have lexemes : (scan keywordFile.toList).lexemes = keywordTree.lexemes := by decide +kernel
  have finished : (scan keywordFile.toList).left = [] := by decide +kernel
  have written : Written keywordTree.lexemes keywordFile.toList :=
    lexemes ▸ written_of_scan finished
  obtain ⟨read, success, same⟩ := complete _ _ written
  have kept := (sound _ _ success).1
  refine ⟨written, ⟨read, success, same, kept.symm.trans lexemes⟩, ?_⟩
  refine spaced _ _ (by simp [Function.comp_def]) (fun _ => written.proper) ?_
  intro e member
  obtain ⟨l, inside, rfl⟩ := List.mem_map.1 member
  exact ⟨by simp [isTokenBlank], endsToken_newline (written.proper inside).solid⟩

end RegisterMap.Definition
