import RegisterMap.Definition.Elaboration
import RegisterMap.Generated.Sample
import RegisterMap.Proofs.Generated.Refinement

/-! # The written-out package is the generated one

The sample package is what the generator makes of its definition, statement by statement; so its
types implement the registers of that definition for the same reason as those of any generated
package. -/

namespace RegisterMap.Generated

theorem Accepted.exists_of_mem_types {d : Device} {p : Package} (accepted : Accepted d p)
    {t : TypeDef} (member : t ∈ p.types) :
    ∃ i r, d.find? t.register = some i ∧ d.registers[i]? = some r ∧
      p.type? t.name = some t ∧ t.Implements p d i r := by
  obtain ⟨i, r, own, rfl⟩ := accepted.exists_typeOf member
  exact ⟨i, r, Device.find?_of_own accepted.consistent.names own, own, accepted.type?_eq own,
    accepted.implements own⟩

/-- Loading a text is loading its characters. -/
def loadChars (cs : List Char) : Except Definition.LoadError Device :=
  let scanned := Definition.scan cs
  let parsed : Except Definition.SyntaxError Definition.Document :=
    if scanned.left.isEmpty then
      match Definition.parseTokens (scanned.tokens.filter fun t => t.tokenClass != .blank)
        scanned.stop with
      | .ok doc => .ok doc
      | .error e => .error (.unexpected e)
    else
      .error (.strayText scanned.stop scanned.left)
  match parsed with
  | .error e => .error (.malformed e)
  | .ok doc =>
    match doc.device? cs with
    | .error (p, fault) => .error (.declaration p fault)
    | .ok device =>
      match device.validate with
      | .error e => .error (.inconsistent e)
      | .ok () => .ok device

theorem load_eq_loadChars (source : String) :
    Definition.load source = loadChars source.toList := rfl

/-- Loading and generating give back the package as it is written out. -/
theorem exists_generate_sample :
    ∃ d, Definition.load sampleDefinition = .ok d ∧
      generate d "testregs" = .ok samplePackage := by
  have shown : ((loadChars sampleDefinition.toList).toOption.bind fun d =>
      (generate d "testregs").toOption) = some samplePackage := by
    -- The text is taken apart line by line first: a long text is slow to turn into characters.
    rw [sampleDefinition, String.toList_intercalate]
    decide +kernel
  obtain ⟨d, loaded, made⟩ := exists_ok_of_bind shown
  exact ⟨d, (load_eq_loadChars _).trans loaded, toOption_eq_some_iff.1 made⟩

/-- Each type of the written-out package implements the register it is named after, in the device
    that its definition gives. -/
theorem samplePackage_implements_definition :
    ∃ d, Definition.load sampleDefinition = .ok d ∧
      ∀ t ∈ [sampleRW, sampleR, sampleW, sampleBlock],
        ∃ i r, d.find? t.register = some i ∧ d.registers[i]? = some r ∧
          samplePackage.type? t.name = some t ∧ t.Implements samplePackage d i r := by
  obtain ⟨d, loaded, generated⟩ := exists_generate_sample
  refine ⟨d, loaded, ?_⟩
  intro t member
  exact (Accepted.of_generate generated).exists_of_mem_types member

theorem sampleBlock_implements :
    ∃ d i r, Definition.load sampleDefinition = .ok d ∧ d.find? "Block" = some i ∧
      d.registers[i]? = some r ∧ sampleBlock.Implements samplePackage d i r := by
  obtain ⟨d, loaded, each⟩ := samplePackage_implements_definition
  obtain ⟨i, r, found, own, -, implements⟩ := each sampleBlock (by simp)
  exact ⟨d, i, r, loaded, found, own, implements⟩

end RegisterMap.Generated
