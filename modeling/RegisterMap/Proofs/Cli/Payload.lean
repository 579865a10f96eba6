import RegisterMap.Cli.Program
import RegisterMap.Proofs.Bytes.HexText
import RegisterMap.Proofs.Definition.Loading
import RegisterMap.Proofs.Group.Assignment
import RegisterMap.Proofs.Packet

/-! # Payloads on the command line

The line that `encode` prints is the payload of the register after the assignments, and `decode`
reads it back: cut at its blanks or not, and whatever bytes follow. What makes `encode` fail is
known from the register and the arguments, each taken for itself. -/

namespace RegisterMap.Cli

open Files

/-! ## Assignments in arguments -/

theorem assign_of_divided {arguments : List String} {assignments : List (String × String)}
    (divided : arguments.map assignment? = assignments.map some) (g : Group) :
    assign g arguments = (g.assignAll? assignments).mapError .group := by
  induction assignments generalizing arguments g with
  | nil =>
    rw [List.map_nil, List.map_eq_nil_iff] at divided
    subst divided
    rfl
  | cons a assignments ih =>
    obtain ⟨text, rest, rfl, first, others⟩ := List.map_eq_cons_iff.1 divided
    simp only [assign, first, Group.assignAll?, List.foldlM_cons]
    cases g.setText? a.1 a.2 with
    | error e => rfl
    | ok next => exact ih others next

theorem assign_of_undivided {arguments : List String} {a : String} (member : a ∈ arguments)
    (undivided : assignment? a = none) (g : Group) : ∃ e, assign g arguments = .error e := by
  induction arguments generalizing g with
  | nil => cases member
  | cons text rest ih =>
    unfold assign
    cases divided : assignment? text with
    | none => exact ⟨_, rfl⟩
    | some assignment =>
      dsimp only
      cases g.setText? assignment.1 assignment.2 with
      | error e => exact ⟨_, rfl⟩
      | ok next =>
        cases member with
        | head =>
          rw [undivided] at divided
          cases divided
        | tail _ member => exact ih member next

theorem exists_divided {arguments : List String}
    (divided : ∀ a ∈ arguments, assignment? a ≠ none) :
    ∃ assignments : List (String × String),
      arguments.map assignment? = assignments.map some := by
  induction arguments with
  | nil => exact ⟨[], rfl⟩
  | cons text rest ih =>
    obtain ⟨first, others⟩ := List.forall_mem_cons.1 divided
    obtain ⟨a, here⟩ := Option.ne_none_iff_exists'.1 first
    obtain ⟨assignments, after⟩ := ih others
    exact ⟨a :: assignments, by simp [here, after]⟩

/-- The arguments are assignments, and all of them succeed. -/
theorem assign_eq_ok_iff {g h : Group} {arguments : List String} :
    assign g arguments = .ok h ↔
      ∃ assignments, arguments.map assignment? = assignments.map some ∧
        g.assignAll? assignments = .ok h := by
  constructor
  · intro assigned
    have all : ∀ a ∈ arguments, assignment? a ≠ none := by
      intro a member undivided
      obtain ⟨e, failed⟩ := assign_of_undivided member undivided g
      rw [failed] at assigned
      cases assigned
    obtain ⟨assignments, divided⟩ := exists_divided all
    rw [assign_of_divided divided] at assigned
    cases outcome : g.assignAll? assignments with
    | error e =>
      rw [outcome] at assigned
      cases assigned
    | ok after =>
      rw [outcome] at assigned
      cases assigned
      exact ⟨assignments, divided, outcome⟩
  · rintro ⟨assignments, divided, assigned⟩
    rw [assign_of_divided divided, assigned]
    rfl

/-- Whether arguments can be assigned is decided for each of them, on a new group. -/
theorem exists_assign_iff {d : Device} {r : Register} {g : Group} (isOf : g.IsOf d r)
    (arguments : List String) :
    (∃ after, assign g arguments = .ok after) ↔
      ∀ a ∈ arguments, ∃ path value after, assignment? a = some (path, value) ∧
        g.setText? path value = .ok after := by
  constructor
  · rintro ⟨after, assigned⟩ a member
    obtain ⟨assignments, divided, all⟩ := assign_eq_ok_iff.1 assigned
    have listed : assignment? a ∈ assignments.map some := divided ▸ List.mem_map_of_mem member
    obtain ⟨⟨path, value⟩, inside, here⟩ := List.mem_map.1 listed
    obtain ⟨next, set⟩ := (isOf.exists_assignAll?_iff isOf assignments).1 ⟨after, all⟩ _ inside
    exact ⟨path, value, next, here.symm, set⟩
  · intro each
    have divided : ∀ a ∈ arguments, assignment? a ≠ none := by
      intro a member
      obtain ⟨path, value, -, here, -⟩ := each a member
      simp [here]
    obtain ⟨assignments, divided⟩ := exists_divided divided
    have all : ∀ b ∈ assignments, ∃ after, g.setText? b.1 b.2 = .ok after := by
      intro b member
      have listed : some b ∈ arguments.map assignment? := divided ▸ List.mem_map_of_mem member
      obtain ⟨a, inside, here⟩ := List.mem_map.1 listed
      obtain ⟨path, value, after, there, set⟩ := each a inside
      rw [here] at there
      cases there
      exact ⟨after, set⟩
    obtain ⟨after, assigned⟩ := (isOf.exists_assignAll?_iff isOf assignments).2 all
    exact ⟨after, assign_eq_ok_iff.2 ⟨assignments, divided, assigned⟩⟩

/-! ## Encoding and decoding -/

theorem side_direction (side : Side) : side.direction.side = side := by
  cases side <;> rfl

theorem sideOf_eq {op : String} {side : Side} (accepted : parseSide? op = some side) :
    sideOf op = .ok side := by
  simp [sideOf, accepted]

theorem groupOf_eq {d : Device} {register : String} {i : Nat}
    (found : d.find? register = some i) : groupOf d register = .ok (d.newGroup i) := by
  simp [groupOf, Device.newGroup?, found]

section

variable {d : Device} {i : Nat} {r : Register} {register op : String} {side : Side}

theorem encode_of_unknown (unknown : d.find? register = none) (arguments : List String) :
    encode d register op arguments = .error (.unknownRegister d.name register) := by
  simp [encode, groupOf, Device.newGroup?, unknown, bind, Except.bind]

theorem encode_eq_ok_iff (consistent : d.Consistent) (own : d.registers[i]? = some r)
    (found : d.find? register = some i) (accepted : parseSide? op = some side)
    {arguments : List String} {payload : Bytes} :
    encode d register op arguments = .ok payload ↔
      ∃ g, assign (d.newGroup i) arguments = .ok g ∧ r.direction.includes side = true ∧
        payload = g.cells.bytes := by
  simp only [encode, groupOf_eq found, sideOf_eq accepted, bind_eq_ok_iff, Except.ok.injEq,
    exists_eq_left']
  apply exists_congr
  intro g
  apply and_congr_right
  intro assigned
  obtain ⟨assignments, -, all⟩ := assign_eq_ok_iff.1 assigned
  have isOf := (consistent.isOf_newGroup own).of_assignAll? all
  have grown : ∀ n, (List.replicate n (0 : UInt8)).length = n := fun _ => List.length_replicate
  have outcome := Layer.prependInto_eq (l := .ofGroup g side.direction) isOf consistent own rfl
    grown []
  simp only [Layer.serialize, Layer.prepend, List.flatten_nil, outcome]
  simp only [Layer.ofGroup, side_direction, List.append_nil]
  by_cases included : r.direction.includes side = true
  · simp [included, eq_comm]
  · simp [included]

/-- The arguments that cannot be assigned, and a side that the register lacks, are all that makes
    encoding fail. -/
theorem encode_ne_ok_iff_of_found (consistent : d.Consistent) (own : d.registers[i]? = some r)
    (found : d.find? register = some i) (accepted : parseSide? op = some side)
    (arguments : List String) :
    (∀ payload, encode d register op arguments ≠ .ok payload) ↔
      (∃ a ∈ arguments, assignment? a = none) ∨
      (∃ a ∈ arguments, ∃ path value e, assignment? a = some (path, value) ∧
        (d.newGroup i).setText? path value = .error e) ∨
      r.direction.includes side = false := by
  have success : (∃ payload, encode d register op arguments = .ok payload) ↔
      (∃ g, assign (d.newGroup i) arguments = .ok g) ∧ r.direction.includes side = true := by
    simp only [encode_eq_ok_iff consistent own found accepted]
    constructor
    · rintro ⟨payload, g, assigned, included, -⟩
      exact ⟨⟨g, assigned⟩, included⟩
    · rintro ⟨⟨g, assigned⟩, included⟩
      exact ⟨_, g, assigned, included, rfl⟩
  rw [← not_exists, success, exists_assign_iff (consistent.isOf_newGroup own)]
  constructor
  · intro fails
    by_cases included : r.direction.includes side = true
    · have some : ¬ ∀ a ∈ arguments, ∃ path value after, assignment? a = some (path, value) ∧
          (d.newGroup i).setText? path value = .ok after := fun each => fails ⟨each, included⟩
      push Not at some
      obtain ⟨a, member, bad⟩ := some
      cases divided : assignment? a with
      | none => exact .inl ⟨a, member, divided⟩
      | some assignment =>
        obtain ⟨path, value⟩ := assignment
        cases set : (d.newGroup i).setText? path value with
        | error e => exact .inr (.inl ⟨a, member, path, value, e, divided, set⟩)
        | ok after => exact absurd set (bad path value after divided)
    · exact .inr (.inr (Bool.eq_false_iff.2 included))
  · rintro (⟨a, member, undivided⟩ | ⟨a, member, path, value, e, divided, failed⟩ | excluded)
      ⟨each, included⟩
    · obtain ⟨path, value, after, divided, -⟩ := each a member
      rw [undivided] at divided
      cases divided
    · obtain ⟨path', value', after, dividedToo, set⟩ := each a member
      rw [divided] at dividedToo
      cases dividedToo
      rw [failed] at set
      cases set
    · rw [excluded] at included
      cases included

/-- The same for any text in place of a register. -/
theorem encode_ne_ok_iff (consistent : d.Consistent) (accepted : parseSide? op = some side)
    (register : String) (arguments : List String) :
    (∀ payload, encode d register op arguments ≠ .ok payload) ↔
      (∀ r ∈ d.registers, r.name ≠ register) ∨
      (∃ a ∈ arguments, assignment? a = none) ∨
      (∃ i r, d.registers[i]? = some r ∧ r.name = register ∧ ∃ a ∈ arguments, ∃ path value e,
        assignment? a = some (path, value) ∧ (d.newGroup i).setText? path value = .error e) ∨
      (∃ r ∈ d.registers, r.name = register ∧ r.direction.includes side = false) := by
  cases found : d.find? register with
  | none =>
    have unknown : ∀ r ∈ d.registers, r.name ≠ register := by
      simpa [Device.find?] using found
    refine iff_of_true ?_ (.inl unknown)
    simp [encode_of_unknown found]
  | some i =>
    obtain ⟨r, own, rfl⟩ := Device.own_of_find? found
    have member := List.mem_of_getElem? own
    rw [encode_ne_ok_iff_of_found consistent own found accepted]
    constructor
    · rintro (undivided | failed | excluded)
      · exact .inr (.inl undivided)
      · exact .inr (.inr (.inl ⟨i, r, own, rfl, failed⟩))
      · exact .inr (.inr (.inr ⟨r, member, rfl, excluded⟩))
    · rintro (unknown | undivided | ⟨j, s, other, same, failed⟩ | ⟨s, other, same, excluded⟩)
      · exact absurd rfl (unknown r member)
      · exact .inl undivided
      · obtain ⟨rfl, rfl⟩ := Device.eq_of_same_name consistent.names own other same
        exact .inr (.inl failed)
      · obtain ⟨j, other⟩ := List.mem_iff_getElem?.1 other
        obtain ⟨rfl, rfl⟩ := Device.eq_of_same_name consistent.names own other same
        exact .inr (.inr excluded)

theorem decode_eq (consistent : d.Consistent) (own : d.registers[i]? = some r)
    (found : d.find? register = some i) (accepted : parseSide? op = some side)
    (included : r.direction.includes side = true) {g : Group} (isOf : g.IsOf d r)
    {texts : List String} {extra : Bytes}
    (spelled : HexText.Spells texts (g.cells.bytes ++ extra)) :
    decode d register op texts = .ok (g, extra) := by
  have fresh := consistent.isOf_newGroup own
  have read := Layer.decode_bytes_append (l := .ofGroup (d.newGroup i) side.direction) fresh
    consistent own rfl (by rwa [Layer.ofGroup, side_direction]) isOf extra
  simp [decode, groupOf_eq found, sideOf_eq accepted, spelled.parse_eq, Layer.packet, read, bind,
    Except.bind]

end

/-! ## The commands -/

theorem exists_withDevice_eq {config : Config} {files : Workspace} {source : String} {d : Device}
    (read : files.read config.definitions = .ok source) (loaded : Definition.load source = .ok d)
    (use : Device → Outcome) : ∃ m, withDevice config files use = (use d).after m := by
  simp only [withDevice, read, loaded]
  exact ⟨_, rfl⟩

section

variable {config : Config} {files : Workspace} {source : String} {d : Device}
  {register op : String}

theorem runEncode_of_error (read : files.read config.definitions = .ok source)
    (loaded : Definition.load source = .ok d) {arguments : List String} {e : CommandError}
    (failed : encode d register op arguments = .error e) :
    (runEncode config files register op arguments).error = some e ∧
      (runEncode config files register op arguments).output = "" := by
  obtain ⟨m, outcome⟩ := exists_withDevice_eq read loaded _
  rw [runEncode, outcome, failed]
  exact ⟨rfl, rfl⟩

theorem runEncode_of_ok (read : files.read config.definitions = .ok source)
    (loaded : Definition.load source = .ok d) {arguments : List String} {payload : Bytes}
    (encoded : encode d register op arguments = .ok payload) :
    (runEncode config files register op arguments).error = none ∧
      (runEncode config files register op arguments).output =
        Numeral.spacedHex payload ++ "\n" := by
  obtain ⟨m, outcome⟩ := exists_withDevice_eq read loaded _
  rw [runEncode, outcome, encoded]
  exact ⟨rfl, by simp [Outcome.after, unlines]⟩

theorem runEncode_error_ne_none_iff (read : files.read config.definitions = .ok source)
    (loaded : Definition.load source = .ok d) {arguments : List String} :
    (runEncode config files register op arguments).error ≠ none ↔
      ∀ payload, encode d register op arguments ≠ .ok payload := by
  cases outcome : encode d register op arguments with
  | error e => simp [(runEncode_of_error read loaded outcome).1]
  | ok payload => simp [(runEncode_of_ok read loaded outcome).1]

theorem runDecode_of_ok (read : files.read config.definitions = .ok source)
    (loaded : Definition.load source = .ok d) {texts : List String} {g : Group} {extra : Bytes}
    (decoded : decode d register op texts = .ok (g, extra)) :
    (runDecode config files register op texts).error = none ∧
      (runDecode config files register op texts).output = unlines g.report := by
  obtain ⟨m, outcome⟩ := exists_withDevice_eq read loaded _
  rw [runDecode, outcome, decoded]
  exact ⟨rfl, rfl⟩

end

/-- The line that `encode` prints is the payload of the register after the assignments, and
    `decode` shows the same values from it, also if it is cut into words or more bytes follow. -/
theorem decode_reads_what_encode_prints {config : Config} {files : Workspace} {source : String}
    {d : Device} (read : files.read config.definitions = .ok source)
    (loaded : Definition.load source = .ok d) {op : String} {side : Side}
    (accepted : parseSide? op = some side) (register : String) (arguments : List String) :
    ((runEncode config files register op arguments).error = none →
      ∃ i r assignments g payload, d.registers[i]? = some r ∧ r.name = register ∧
        arguments.map assignment? = assignments.map some ∧
        (d.newGroup i).assignAll? assignments = .ok g ∧
        Group.HoldsLast d r.fields (d.newGroup i) assignments g ∧
        g.serialize side (List.replicate (d.registerSize i) 0) =
          ⟨d.registerSize i, payload, none⟩ ∧
        (runEncode config files register op arguments).output = Numeral.spacedHex payload ++ "\n" ∧
        ∀ words more extra, " ".intercalate words = Numeral.spacedHex payload →
          HexText.Spells more extra →
          (runDecode config files register op (words ++ more)).error = none ∧
          (runDecode config files register op (words ++ more)).output =
            unlines (g.values.map fun e => e.1 ++ " = " ++ e.2.text)) ∧
    ((runEncode config files register op arguments).error ≠ none ↔
      (∀ r ∈ d.registers, r.name ≠ register) ∨
      (∃ a ∈ arguments, assignment? a = none) ∨
      (∃ i r, d.registers[i]? = some r ∧ r.name = register ∧ ∃ a ∈ arguments, ∃ path value e,
        assignment? a = some (path, value) ∧ (d.newGroup i).setText? path value = .error e) ∨
      (∃ r ∈ d.registers, r.name = register ∧ r.direction.allows (.serialize side) = false)) ∧
    ((runEncode config files register op arguments).error ≠ none →
      (runEncode config files register op arguments).output = "") := by
  have consistent := Device.Consistent.of_validate (Definition.validate_of_load loaded)
  refine ⟨?_, ?_, ?_⟩
  · intro success
    obtain ⟨payload, encoded⟩ : ∃ payload, encode d register op arguments = .ok payload := by
      by_contra fails
      rw [not_exists] at fails
      exact (runEncode_error_ne_none_iff read loaded).2 fails success
    cases found : d.find? register with
    | none =>
      rw [encode_of_unknown found] at encoded
      cases encoded
    | some i =>
      obtain ⟨r, own, name⟩ := Device.own_of_find? found
      obtain ⟨g, assigned, included, rfl⟩ :=
        (encode_eq_ok_iff consistent own found accepted).1 encoded
      obtain ⟨assignments, divided, all⟩ := assign_eq_ok_iff.1 assigned
      have fresh := consistent.isOf_newGroup own
      have isOf := fresh.of_assignAll? all
      refine ⟨i, r, assignments, g, _, own, name, divided, all, fresh.holdsLast all, ?_,
        (runEncode_of_ok read loaded encoded).2, ?_⟩
      · simp [isOf.serialize_eq consistent own, included, Transfer.written,
          isOf.length_bytes consistent own]
      · intro words more extra line spelled
        exact runDecode_of_ok read loaded (decode_eq consistent own found accepted included isOf
          ((HexText.spells_words line).append spelled))
  · rw [runEncode_error_ne_none_iff read loaded]
    exact encode_ne_ok_iff consistent accepted register arguments
  · intro failed
    cases outcome : encode d register op arguments with
    | error e => exact (runEncode_of_error read loaded outcome).2
    | ok payload => exact absurd (runEncode_of_ok read loaded outcome).1 failed

/-- A definition file with one register, and a configuration that names it. -/
def levelFile : String :=
  "device probe register level(1):w \x7b x [2]uint8; y int16; \x7d;"

def levelFiles : Workspace := { files := [(["regs.pa"], .text levelFile)] }

def levelConfig : Config :=
  { path := "config", logLevel := "error", definitions := "regs.pa", dbPath := "snapshots.db" }

theorem level_encoded_and_decoded :
    (∃ g : Group,
      (runEncode levelConfig levelFiles "level" "W" ["x[1]=7", "y=-2", "x[1]=8"]).output =
        "00 08 FF FE" ++ "\n" ∧
      (runDecode levelConfig levelFiles "level" "W" (["00 08", "FF FE"] ++ ["aa:b", "B"])).output =
        unlines (g.values.map fun e => e.1 ++ " = " ++ e.2.text)) ∧
    (runEncode levelConfig levelFiles "level" "W" ["x[1]=7", "y"]).error ≠ none ∧
    (runEncode levelConfig levelFiles "level" "W" ["x[1]=7", "y"]).output = "" := by
  have read : levelFiles.read levelConfig.definitions = .ok levelFile := by decide +kernel
  have named : parseSide? "W" = some .write := by decide +kernel
  obtain ⟨d, loaded⟩ : ∃ d, Definition.load levelFile = .ok d :=
    exists_ok_of_isSome (by decide +kernel)
  have commands := decode_reads_what_encode_prints read loaded named "level"
  refine ⟨?_, ?_⟩
  · have success : (runEncode levelConfig levelFiles "level" "W"
        ["x[1]=7", "y=-2", "x[1]=8"]).error.isNone = true := by decide +kernel
    have line : (runEncode levelConfig levelFiles "level" "W"
        ["x[1]=7", "y=-2", "x[1]=8"]).output = "00 08 FF FE" ++ "\n" := by decide +kernel
    obtain ⟨_, _, _, g, payload, _, _, _, _, _, _, printed, decoded⟩ :=
      (commands ["x[1]=7", "y=-2", "x[1]=8"]).1 (Option.isNone_iff_eq_none.1 success)
    have words : "00 08 FF FE" = Numeral.spacedHex payload :=
      (String.append_left_inj _).1 (line.symm.trans printed)
    exact ⟨g, line, (decoded ["00 08", "FF FE"] ["aa:b", "B"] [0xaa, 0xbb] words rfl).2⟩
  · have failed : (runEncode levelConfig levelFiles "level" "W" ["x[1]=7", "y"]).error ≠ none :=
      (commands ["x[1]=7", "y"]).2.1.2 (.inr (.inl ⟨"y", by simp, rfl⟩))
    exact ⟨failed, (commands ["x[1]=7", "y"]).2.2 failed⟩

end RegisterMap.Cli
