import RegisterMap.Proofs.Bytes.Utf8
import RegisterMap.Proofs.Calendar.Timestamp
import RegisterMap.Proofs.Cbor.RoundTrip
import RegisterMap.Snapshot.Record

/-! # Stored records can be read back

A record is stored as five entries, and each of them is read back as it was written. What can go
wrong is the time of saving, whose text is always written but cannot always be read. So a stored
record is read as its time is (`Record.Storable.decode?_encode`), and as the record itself if the
time lies in the years 0 to 9999. -/

namespace RegisterMap.Snapshot

/-- The parts of the record have a stored form: its texts and payload have a length of 64 bits, and
    its direction has one side. -/
structure Record.Storable (r : Record) : Prop where
  register : (Utf8.encode r.register).length < 2 ^ 64
  direction : ∃ side : Side, r.direction = side.direction
  payload : r.payload.length < 2 ^ 64
  saved : (Utf8.encode r.saved.text).length < 2 ^ 64

/-! ## Parts -/

theorem length_encode_text_lt {saved : Instant} (dated : saved.Dated) :
    (Utf8.encode saved.text).length < 2 ^ 64 := by
  have chars := Instant.length_text_le dated
  have bytes := Utf8.length_encode_ofList_le saved.text.toList
  rw [String.ofList_toList] at bytes
  omega

/-- The item that stands for a time of saving. -/
def savedItem (saved : Instant) : Cbor.Item :=
  if saved = .unset then .simple 22 else .text (Utf8.encode saved.text)

theorem writes_saved {saved : Instant} (small : (Utf8.encode saved.text).length < 2 ^ 64) :
    Cbor.Writes (writeSaved saved) (savedItem saved) := by
  unfold writeSaved savedItem
  split
  · exact Cbor.writes_null
  · exact Cbor.writes_text small

theorem readInstant?_savedItem {saved : Instant} (dated : saved.Dated) :
    readInstant? (savedItem saved) = some saved := by
  unfold savedItem
  split
  · next unset =>
    rw [unset]
    rfl
  · show (Utf8.decode? (Utf8.encode saved.text)).bind Instant.parse? = some saved
    rw [Utf8.decode?_encode, Option.bind_some, Instant.parse?_text dated]

theorem Record.put?_register (r : Record) (name : String) :
    r.put? (.number 1) (.text (Utf8.encode name)) = some { r with register := name } := by
  show (Utf8.decode? (Utf8.encode name)).map ({ r with register := · }) = _
  rw [Utf8.decode?_encode, Option.map_some]

theorem readByte?_unsigned (b : UInt8) : readByte? (.unsigned b.toNat) = some b := by
  show (if b.toNat < 256 then some (UInt8.ofNat b.toNat) else none) = some b
  rw [if_pos b.toNat_lt, UInt8.ofNat_toNat]

theorem Record.put?_id (r : Record) (id : UInt8) :
    r.put? (.number 2) (.unsigned id.toNat) = some { r with id := id } := by
  show (readByte? (.unsigned id.toNat)).map ({ r with id := · }) = _
  rw [readByte?_unsigned, Option.map_some]

theorem Record.put?_direction (r : Record) (side : Side) :
    r.put? (.number 3) (.unsigned side.direction.number) =
      some { r with direction := side.direction } := by
  cases side <;> rfl

theorem Record.put?_payload (r : Record) (payload : Bytes) :
    r.put? (.number 4) (.bytes payload) = some { r with payload := payload } := rfl

theorem Record.put?_saved (r : Record) (saved : Instant) :
    r.put? (.number 5) (savedItem saved) =
      (readInstant? (savedItem saved)).map ({ r with saved := · }) := by
  have fits : (savedItem saved).tagsFit = true := by
    unfold savedItem
    split <;> rfl
  exact if_pos fits

/-! ## Records -/

/-- The items of a stored record, each key before its value. -/
def Record.items (r : Record) : List Cbor.Item :=
  [.unsigned 1, .text (Utf8.encode r.register), .unsigned 2, .unsigned r.id.toNat,
    .unsigned 3, .unsigned r.direction.number, .unsigned 4, .bytes r.payload,
    .unsigned 5, savedItem r.saved]

theorem Record.Storable.decode?_items {r : Record} (storable : r.Storable) :
    Cbor.decode? r.encode = some (.map (Cbor.pairs r.items)) := by
  have written : List.Forall₂ Cbor.Writes
      [Cbor.writeUnsigned 1, Cbor.writeText (Utf8.encode r.register),
        Cbor.writeUnsigned 2, Cbor.writeUnsigned r.id.toNat,
        Cbor.writeUnsigned 3, Cbor.writeUnsigned r.direction.number,
        Cbor.writeUnsigned 4, Cbor.writeBytes r.payload,
        Cbor.writeUnsigned 5, writeSaved r.saved] r.items := by
    have id := r.id.toNat_lt
    have direction : r.direction.number < 256 := by
      obtain ⟨side, same⟩ := storable.direction
      rw [same]
      cases side <;> decide
    refine .cons (Cbor.writes_unsigned (by omega)) (.cons (Cbor.writes_text storable.register)
      (.cons (Cbor.writes_unsigned (by omega)) (.cons (Cbor.writes_unsigned (by omega))
      (.cons (Cbor.writes_unsigned (by omega)) (.cons (Cbor.writes_unsigned (by omega))
      (.cons (Cbor.writes_unsigned (by omega)) (.cons (Cbor.writes_bytes storable.payload)
      (.cons (Cbor.writes_unsigned (by omega)) (.cons (writes_saved storable.saved) .nil)))))))))
  rw [← Cbor.decode?_map written 5 rfl (by decide)]
  simp only [Record.encode, List.flatten_cons, List.flatten_nil, List.append_nil, List.append_assoc]

theorem Record.putEntries?_cons {r next : Record} {key : Key} {item : Cbor.Item}
    (put : r.put? key item = some next) {seen : List Key} {k : Cbor.Item}
    (named : Key.ofItem? k = some key) (fresh : key ∉ seen) (rest : List (Cbor.Item × Cbor.Item)) :
    r.putEntries? seen ((k, item) :: rest) = next.putEntries? (key :: seen) rest := by
  rw [Record.putEntries?, named]
  simp only [if_neg fresh, put]

theorem Record.putEntries?_singleton (r : Record) (key : Key) {seen : List Key} {k : Cbor.Item}
    (named : Key.ofItem? k = some key) (fresh : key ∉ seen) (item : Cbor.Item) :
    r.putEntries? seen [(k, item)] = r.put? key item := by
  rw [Record.putEntries?, named]
  simp only [if_neg fresh]
  cases r.put? key item <;> rfl

/-- A stored record is read as far as its time can be read. -/
theorem Record.Storable.decode?_encode {r : Record} (storable : r.Storable) :
    Record.decode? r.encode =
      (readInstant? (savedItem r.saved)).map ({ r with saved := · }) := by
  obtain ⟨side, direction⟩ := storable.direction
  rw [Record.decode?, storable.decode?_items]
  show Record.putEntries? {} [] (Cbor.pairs r.items) = _
  simp only [Record.items, Cbor.pairs, direction]
  -- One entry after the other, each of which sets its part.
  rw [putEntries?_cons (put?_register _ _) rfl (by decide),
    putEntries?_cons (put?_id _ _) rfl (by decide),
    putEntries?_cons (put?_direction _ _) rfl (by decide),
    putEntries?_cons (put?_payload _ _) rfl (by decide),
    putEntries?_singleton _ (.number 5) rfl (by decide), put?_saved]

theorem Record.Storable.decode?_of_dated {r : Record} (storable : r.Storable)
    (dated : r.saved.Dated) : Record.decode? r.encode = some r := by
  rw [storable.decode?_encode, readInstant?_savedItem dated]
  rfl

end RegisterMap.Snapshot
