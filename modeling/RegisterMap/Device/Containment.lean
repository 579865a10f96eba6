import RegisterMap.Device.Basic

/-! # Registers inside registers

`Device.contains d i target` searches the registers reachable from `i` through register fields. The
search is depth first. It marks each register it enters and never enters one twice, so it visits
every register of the table at most once, whatever the sharing and the cycles. -/

namespace RegisterMap.Device

/-- The registers the fields of a register hold, in the order of the fields. -/
def holds (d : Device) (i : Nat) : List Nat :=
  (d.fieldsOf i).filterMap Field.register

/-- Runs a search on one start after the other until one succeeds, and passes the marks on. -/
def searchEach (search : Nat → List Nat → Bool × List Nat) :
    List Nat → (marked : List Nat) → Bool × List Nat
  | [], marked => (false, marked)
  | i :: is, marked =>
    match search i marked with
    | (true, marked) => (true, marked)
    | (false, marked) => searchEach search is marked

/-- Searches for `target` from `i`. Returns whether it was found, and the registers entered. -/
def search (d : Device) (target : Nat) : (fuel : Nat) → (i : Nat) → (marked : List Nat) →
    Bool × List Nat
  | 0, _, marked => (false, marked)
  | fuel + 1, i, marked =>
    if i = target then (true, marked)
    else if marked.contains i then (false, marked)
    else searchEach (d.search target fuel) (d.holds i) (i :: marked)

/-- Whether the register at `target` is the one at `i` or nested somewhere inside it. -/
def contains (d : Device) (i target : Nat) : Bool :=
  (d.search target (d.table.length + 2) i []).1

end RegisterMap.Device
