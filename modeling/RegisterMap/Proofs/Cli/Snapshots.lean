import RegisterMap.Proofs.Cli.Payload
import RegisterMap.Proofs.Snapshot.Numbering
import RegisterMap.Proofs.Snapshot.Session

/-! # Snapshots on the command line

`Saved` holds of what saves can leave in a database, each of them with definitions of its own.

The values that `snapshot show` prints below the line of a record are looked up by the number that
the register of the record's name has now. They are the values of the record itself as long as the
register has kept its number. If it was numbered anew, they are those of whatever record of that
name is stored under the new number. -/

namespace RegisterMap.Cli

open Files Snapshot

/-! ## Saving -/

/-- The contents that a sequence of saves can leave in a database. Each save finds the database
    among files of its own. The lengths of its arguments and of the text of its time are numbers of
    63 bits, as the lengths of all texts in memory are. -/
inductive Saved : Database → Prop where
  | start : Saved {}
  | save {before after : Database} (earlier : Saved before) (env : Environment) (config : Config)
      (files opened : Workspace) (location : Location) (device register op : String)
      (texts : List String) (name : (Utf8.encode register).length < 2 ^ 63)
      (digits : (texts.flatMap String.toList).length < 2 ^ 63)
      (time : (Utf8.encode env.now.text).length < 2 ^ 63)
      (found : files.openDatabase config.dbPath = .ok (opened, location, before))
      (left :
        (runSnapshotSave env config files device register op texts).files.contentAt? location =
          some (.database after)) : Saved after

theorem contentAt?_put (w : Workspace) (location : Location) (content : Content) :
    (w.put location content).contentAt? location = some content := by
  simp [Workspace.contentAt?, Workspace.put]

/-- A file that is opened as a database holds what was opened, if it holds a database at all. -/
theorem eq_of_openDatabase {files opened : Workspace} {path : String} {location : Location}
    {db held : Database} (found : files.openDatabase path = .ok (opened, location, db))
    (content : files.contentAt? location = some (.database held)) : held = db := by
  unfold Workspace.openDatabase at found
  cases writable : files.writable path with
  | error e => simp [writable] at found
  | ok place =>
    simp only [writable] at found
    cases there : files.contentAt? place with
    | none =>
      simp only [there, Except.ok.injEq, Prod.mk.injEq] at found
      rw [← found.2.1, there] at content
      cases content
    | some c =>
      cases c with
      | text s =>
        simp only [there] at found
        split_ifs at found
        simp only [Except.ok.injEq, Prod.mk.injEq] at found
        rw [← found.2.1, there] at content
        cases content
      | database kept =>
        simp only [there, Except.ok.injEq, Prod.mk.injEq] at found
        rw [← found.2.1, there] at content
        cases content
        exact found.2.2

theorem withStore_eq {config : Config} {files opened : Workspace} {location : Location}
    {db prepared : Database} {device : String}
    (found : files.openDatabase config.dbPath = .ok (opened, location, db))
    (ready : prepare db [device] = .ok prepared)
    (use : Workspace → (Database → Workspace) → Database → Outcome) :
    withStore config files device use =
      use (opened.put location (.database prepared))
        (fun db => opened.put location (.database db)) prepared := by
  simp only [withStore, found, ready]

/-- What is saved is a reachable group of the named register, with a payload as long as its texts
    allow. -/
theorem exists_saveCall {d : Device} (valid : d.validate = .ok ()) {register op : String}
    {texts : List String} (name : (Utf8.encode register).length < 2 ^ 63)
    (digits : (texts.flatMap String.toList).length < 2 ^ 63) {g : Group} {side : Side}
    (decoded : decodeExactly d register op texts = .ok (g, side)) (device : String)
    (now : Instant) :
    ∃ c : SaveCall, c.group = g ∧ c.direction = side.direction ∧ c.now = now ∧
      c.included = true := by
  have consistent := Device.Consistent.of_validate valid
  simp only [decodeExactly, bind_eq_ok_iff] at decoded
  obtain ⟨fresh, grouped, chosen, -, decoded⟩ := decoded
  cases found : d.find? register with
  | none => simp [groupOf, Device.newGroup?, found] at grouped
  | some i =>
    obtain ⟨r, own, named⟩ := Device.own_of_find? found
    rw [groupOf_eq found] at grouped
    cases grouped
    cases read : HexText.parse texts with
    | error e => simp [read] at decoded
    | ok data =>
      simp only [read] at decoded
      split_ifs at decoded with length
      have size := (consistent.isOf_newGroup own).size_eq consistent own
      cases failed : ((d.newGroup i).deserialize chosen data).failure with
      | some e => simp [failed] at decoded
      | none =>
        simp only [failed, Except.ok.injEq, Prod.mk.injEq] at decoded
        obtain ⟨rfl, rfl⟩ := decoded
        obtain ⟨included, -⟩ := (consistent.isOf_newGroup own).exists_deserialize_eq failed
        have bound : d.registerSize i < 2 ^ 63 := by
          have := HexText.length_le_of_parse read
          omega
        refine ⟨{ device, group := ((d.newGroup i).deserialize chosen data).result
                  schema := ⟨d, i, r, valid, own, named ▸ name, bound⟩
                  reachable := ⟨[.deserialize chosen data], rfl⟩
                  direction := chosen.direction, now }, rfl, rfl, rfl, ?_⟩
        rw [SaveCall.included, side_direction]
        exact included

/-- A stored record is read with the number it was given, if it is read at all. -/
theorem id_of_decode?_record (c : SaveCall)
    (time : (Utf8.encode c.now.text).length < 2 ^ 64) (s : Snapshot.Record)
    (decoded : Record.decode? c.record.encode = some s) : s.id = c.record.id := by
  rw [(c.storable time).decode?_encode] at decoded
  obtain ⟨saved, -, rfl⟩ := Option.map_eq_some_iff.1 decoded
  rfl

theorem files_withDevice_cases (config : Config) (files : Workspace) (use : Device → Outcome) :
    (withDevice config files use).files = files ∨
      ∃ d, d.validate = .ok () ∧ (withDevice config files use).files = (use d).files := by
  unfold withDevice
  cases files.read config.definitions with
  | error e => exact .inl rfl
  | ok source =>
    cases loaded : Definition.load source with
    | error e => exact .inl (by simp only [loaded]; rfl)
    | ok d => exact .inr ⟨d, Definition.validate_of_load loaded, by simp only [loaded]; rfl⟩

/-- A save leaves the files alone, or leaves a database that is still numbered. -/
theorem files_runSnapshotSave_cases {before : Database} (numbered : before.Numbered)
    {env : Environment} {config : Config} {files opened : Workspace} {location : Location}
    (device : String) {register : String} (op : String) {texts : List String}
    (name : (Utf8.encode register).length < 2 ^ 63)
    (digits : (texts.flatMap String.toList).length < 2 ^ 63)
    (time : (Utf8.encode env.now.text).length < 2 ^ 63)
    (found : files.openDatabase config.dbPath = .ok (opened, location, before)) :
    (runSnapshotSave env config files device register op texts).files = files ∨
      ∃ after : Database, after.Numbered ∧
        (runSnapshotSave env config files device register op texts).files =
          opened.put location (.database after) := by
  obtain untouched | ⟨d, valid, used⟩ := files_withDevice_cases config files _
  · exact .inl untouched
  · cases decoded : decodeExactly d register op texts with
    | error e =>
      refine .inl (used.trans ?_)
      simp only [decoded]
      rfl
    | ok result =>
      obtain ⟨g, side⟩ := result
      obtain ⟨c, rfl, direction, now, included⟩ :=
        exists_saveCall valid name digits decoded device env.now
      have recorded : record? c.group side.direction env.now = .ok c.record := by
        rw [← direction, ← now, c.record?_eq]
        exact if_pos included
      obtain ⟨prepared, ready, numbered⟩ := numbered.exists_prepare (snapshotDevice d device)
      obtain ⟨after, stored, numbered⟩ := numbered.exists_store (snapshotDevice d device)
        (id_of_decode?_record c (now ▸ time.trans (by decide)))
      refine .inr ⟨after, numbered, used.trans ?_⟩
      simp only [decoded, withStore_eq found ready, recorded, stored]
      rfl

theorem Saved.numbered {db : Database} (saved : Saved db) : db.Numbered := by
  induction saved with
  | start => exact Database.numbered_empty
  | save _ env config files opened location device register op texts name digits time found left
      numbered =>
    obtain untouched | ⟨after, numbered, changed⟩ :=
      files_runSnapshotSave_cases numbered device op name digits time found
    · rw [untouched] at left
      rwa [eq_of_openDatabase found left]
    · rw [changed, contentAt?_put] at left
      cases left
      exact numbered

/-! ## Showing -/

/-- The lines show the values that the payload of a record gives to the register of its name. -/
def ShowsValues (d : Device) (r : Snapshot.Record) (lines : List String) : Prop :=
  ∃ i s g, d.registers[i]? = some s ∧ s.name = r.register ∧
    (d.newGroup i).deserialize r.direction.side r.payload = ⟨d.registerSize i, g, none⟩ ∧
    lines = g.values.map fun e => "  " ++ (e.1 ++ " = " ++ e.2.text)

section

variable {db : Database} {d : Device} {device : String} {records : List Snapshot.Record}

/-- What is shown with a record is looked up by the number of its register. -/
theorem lines_findValues_cases (numbered : db.Numbered) (consistent : d.Consistent)
    (listed : Snapshot.list db device = .ok records) (r : Snapshot.Record) :
    (findValues db d device r).lines = [] ∨
      ∃ s ∈ d.registers, s.name = r.register ∧
        ∃ stored ∈ records, stored.register = r.register ∧ stored.id = s.id ∧
          ShowsValues d stored (findValues db d device r).lines := by
  unfold findValues Device.newGroup?
  cases found : d.find? r.register with
  | none => exact .inl rfl
  | some i =>
    obtain ⟨s, own, named⟩ := Device.own_of_find? found
    simp only [Option.map_some, Snapshot.load, (consistent.isOf_newGroup own).id_eq]
    cases held : Snapshot.find db device s.id with
    | error e => exact .inl rfl
    | ok stored =>
      obtain ⟨member, same⟩ := (find_eq_ok_iff numbered listed).1 held
      dsimp only
      cases restored : restore (d.newGroup i) stored with
      | error e => exact .inl rfl
      | ok g =>
        obtain ⟨name, -, read⟩ := (restore_eq_ok_iff consistent own).1 restored
        refine .inr ⟨s, List.mem_of_getElem? own, named, stored, member, name.symm.trans named,
          same, i, s, g, own, name, read, ?_⟩
        simp [Finding.lines, Group.report]

/-- A register that kept its number shows the values of the record, if it takes the payload. -/
theorem showsValues_findValues (numbered : db.Numbered) (consistent : d.Consistent)
    (listed : Snapshot.list db device = .ok records) {r : Snapshot.Record} (member : r ∈ records)
    {i : Nat} {s : Register} (own : d.registers[i]? = some s) (named : s.name = r.register)
    (kept : s.id = r.id) (length : r.payload.length = d.registerSize i)
    (included : s.direction.includes r.direction.side = true) :
    ShowsValues d r (findValues db d device r).lines := by
  have fresh := consistent.isOf_newGroup own
  have held : Snapshot.find db device s.id = .ok r :=
    (find_eq_ok_iff numbered listed).2 ⟨member, kept.symm⟩
  have success := (fresh.deserialize_failure_iff consistent own).2 ⟨included, length.ge⟩
  obtain ⟨-, -, g, read, -⟩ := fresh.exists_deserialize_eq success
  rw [fresh.size_eq consistent own] at read
  have restored := (restore_eq_ok_iff consistent own).2 ⟨named, length, read⟩
  refine ⟨i, s, g, own, named, read, ?_⟩
  simp [findValues, Device.newGroup?, ← named, Device.find?_of_own consistent.names own,
    Snapshot.load, fresh.id_eq, held, restored, Finding.lines, Group.report]

end

/-- Every block of lines that `snapshot show` prints below the line of a record is empty or shows
    the values of a listed record of the same name: the one under the number that the register of
    that name has now. It is the record above the lines if the register has kept its number. -/
theorem show_looks_up_values_by_number {config : Config} {files opened : Workspace}
    {location : Location} {source : String} {d : Device} {db : Database}
    (read : files.read config.definitions = .ok source) (loaded : Definition.load source = .ok d)
    (found : files.openDatabase config.dbPath = .ok (opened, location, db)) (saved : Saved db)
    (env : Environment) (device : String) :
    ∃ prepared, prepare db [snapshotDevice d device] = .ok prepared ∧
    ((∃ e, Snapshot.list prepared (snapshotDevice d device) = .error e ∧
        (runSnapshotShow env config files device).error = some (.store e) ∧
        (runSnapshotShow env config files device).output = "") ∨
      ∃ (records : List Snapshot.Record) (lines : Snapshot.Record → List String),
        Snapshot.list prepared (snapshotDevice d device) = .ok records ∧
        (runSnapshotShow env config files device).error = none ∧
        (runSnapshotShow env config files device).output =
          unlines (records.flatMap fun r => recordLine env.showTime r :: lines r) ∧
        ∀ r ∈ records,
          (lines r = [] ∨ ∃ s ∈ d.registers, s.name = r.register ∧
            ∃ stored ∈ records, stored.register = r.register ∧ stored.id = s.id ∧
              ShowsValues d stored (lines r)) ∧
          (∀ i s, d.registers[i]? = some s → s.name = r.register → s.id = r.id →
            (lines r = [] ∨ ShowsValues d r (lines r)) ∧
            (r.payload.length = d.registerSize i →
              s.direction.includes r.direction.side = true → ShowsValues d r (lines r)))) := by
  have consistent := Device.Consistent.of_validate (Definition.validate_of_load loaded)
  obtain ⟨prepared, ready, numbered⟩ := saved.numbered.exists_prepare (snapshotDevice d device)
  refine ⟨prepared, ready, ?_⟩
  obtain ⟨m, outcome⟩ := exists_withDevice_eq read loaded _
  rw [runSnapshotShow, outcome]
  simp only [withStore_eq found ready, showRecords]
  cases listed : Snapshot.list prepared (snapshotDevice d device) with
  | error e => exact .inl ⟨e, rfl, rfl, rfl⟩
  | ok records =>
    refine .inr ⟨records, fun r => (findValues prepared d (snapshotDevice d device) r).lines, rfl,
      rfl, ?_, ?_⟩
    · simp only [Outcome.after, List.flatMap_map]
    · intro r member
      have looked := lines_findValues_cases numbered consistent listed r
      refine ⟨looked, ?_⟩
      intro i s own named kept
      refine ⟨?_, showsValues_findValues numbered consistent listed member own named kept⟩
      -- Only one record is listed under the number.
      obtain empty | ⟨s', member', named', stored, listedToo, -, number, shown⟩ := looked
      · exact .inl empty
      · obtain ⟨j, other⟩ := List.mem_iff_getElem?.1 member'
        obtain ⟨-, rfl⟩ :=
          Device.eq_of_same_name consistent.names own other (named'.trans named.symm)
        have both := (find_eq_ok_iff numbered listed).2 ⟨member, rfl⟩
        rw [(find_eq_ok_iff numbered listed).2 ⟨listedToo, number.trans kept⟩] at both
        cases both
        exact .inr shown

/-! ## A register that is numbered anew -/

/-- A definition file with one register of the given number. -/
def numberedFile (number : String) : String :=
  "device probe register level(" ++ number ++ ") \x7b x uint8; \x7d;"

def noon : Environment := { home := none, now := ⟨43200, 0⟩, showTime := fun _ => "noon" }

/-- The snapshot of a register whose value is its number. -/
def levelRecord (number : UInt8) : Snapshot.Record :=
  { register := "level", id := number, direction := .readOnly, payload := [number],
    saved := noon.now }

def levelDatabase (numbers : List UInt8) : Database :=
  ⟨[("dev_probe", .bucket ⟨numbers.map fun n => (n, (levelRecord n).encode)⟩)]⟩

/-- A database beside a definition file. -/
def numberedFiles (db : Database) (number : String) : Workspace :=
  { files := [(["snapshots.db"], .database db), (["regs.pa"], .text (numberedFile number))] }

theorem openDatabase_numberedFiles (db : Database) (number : String) :
    (numberedFiles db number).openDatabase levelConfig.dbPath =
      .ok (numberedFiles db number, ["snapshots.db"], db) := by
  rfl

theorem saved_levelDatabase : Saved (levelDatabase [1, 2]) := by
  have first : Saved (levelDatabase [1]) :=
    .save .start noon levelConfig (numberedFiles {} "1") _ _ "" "level" "read" ["01"]
      (by decide +kernel) (by decide +kernel) (by decide +kernel)
      (openDatabase_numberedFiles _ _) (by decide +kernel)
  exact .save first noon levelConfig (numberedFiles (levelDatabase [1]) "2") _ _ "" "level" "read"
    ["02"] (by decide +kernel) (by decide +kernel) (by decide +kernel)
    (openDatabase_numberedFiles _ _) (by decide +kernel)

theorem level_shown_by_number :
    Saved (levelDatabase [1, 2]) ∧
      ∃ (d : Device) (records : List Snapshot.Record) (lines : Snapshot.Record → List String),
        (runSnapshotShow noon levelConfig (numberedFiles (levelDatabase [1, 2]) "2") "").output =
          unlines (records.flatMap fun r => recordLine noon.showTime r :: lines r) ∧
        ∀ r ∈ records, lines r = [] ∨
          ∃ stored ∈ records, stored.register = r.register ∧ ShowsValues d stored (lines r) := by
  have read : (numberedFiles (levelDatabase [1, 2]) "2").read levelConfig.definitions =
      .ok (numberedFile "2") := rfl
  obtain ⟨d, loaded⟩ : ∃ d, Definition.load (numberedFile "2") = .ok d :=
    exists_ok_of_isSome (by decide +kernel)
  have success : (runSnapshotShow noon levelConfig (numberedFiles (levelDatabase [1, 2]) "2")
      "").error.isNone = true := by decide +kernel
  obtain ⟨-, -, ⟨e, -, failed, -⟩ | ⟨records, lines, -, -, output, each⟩⟩ :=
    show_looks_up_values_by_number read loaded (openDatabase_numberedFiles _ _)
      saved_levelDatabase noon ""
  · rw [failed] at success
    cases success
  · refine ⟨saved_levelDatabase, d, records, lines, output, ?_⟩
    intro r member
    obtain empty | ⟨-, -, -, stored, listed, name, -, shown⟩ := (each r member).1
    · exact .inl empty
    · exact .inr ⟨stored, listed, name, shown⟩

/-- The register was saved under two numbers, and the line of the first record stands above the
    values of the second one. Its own payload gives the register another value. -/
theorem renumbered_register_mixes_up_values :
    Saved (levelDatabase [1, 2]) ∧
      (runSnapshotShow noon levelConfig (numberedFiles (levelDatabase [1, 2]) "2") "").output =
        unlines ["level (1) r saved noon: 01", "  x = 2 (0x02)",
          "level (2) r saved noon: 02", "  x = 2 (0x02)"] ∧
      (Definition.load (numberedFile "2")).toOption.map
          (fun d => ((d.newGroup 0).deserialize .read [0x01]).result.report) =
        some ["x = 1 (0x01)"] :=
  ⟨saved_levelDatabase, by decide +kernel, by decide +kernel⟩

end RegisterMap.Cli
