import RegisterMap.Proofs.Group.Slots

/-! # Assignments by text

Whether a text can be assigned to a path is decided by the register and not by the values that its
group holds. So a list of assignments succeeds or fails as its members do on a new group, and after
a list that succeeds each element holds what the last assignment to it says. -/

namespace RegisterMap

/-! ## One assignment -/

namespace Cells.Fits

variable {d : Device} {fs : List Field} {cells : Cells}

theorem get?_eq (fits : Fits d fs cells) (path : List Char) :
    cells.get? path = (d.slot? fs path).bind cells.at? := by
  obtain ⟨nowhere, absent⟩ | ⟨slot, v, found, holds, present⟩ := fits.resolve path
  · simp [nowhere, absent]
  · simp [found, holds, present]

/-- The slot that a path leads to is there, and it holds what the path finds. -/
theorem exists_at? (fits : Fits d fs cells) {path : List Char} {slot : Slot}
    (leads : d.slot? fs path = some slot) :
    ∃ v, cells.at? slot = some v ∧ cells.get? path = some v := by
  obtain ⟨nowhere, -⟩ | ⟨place, v, here, holds, found⟩ := fits.resolve path
  · rw [leads] at nowhere
    cases nowhere
  · cases leads.symm.trans here
    exact ⟨v, holds, found⟩

theorem get?_set (fits : Fits d fs cells) {path : List Char} {old v : Value}
    (found : cells.get? path = some old) (isOf : v.IsOf old.kind) (other : List Char) :
    (cells.set path v).get? other =
      if d.slot? fs other = d.slot? fs path then some v else cells.get? other := by
  rw [fits.get?_eq] at found
  obtain ⟨slot, leads, holds⟩ := Option.bind_eq_some_iff.1 found
  rw [(fits.set (by rw [fits.get?_eq, found]) isOf).get?_eq, fits.get?_eq other, leads]
  cases d.slot? fs other with
  | none => simp
  | some place => simp [fits.at?_set leads]

end Cells.Fits

namespace Group

variable {d : Device} {r : Register} {g h : Group}

theorem get?_eq_ok_iff {path : String} {v : Value} :
    g.get? path = .ok v ↔ g.cells.get? path.toList = some v := by
  unfold get?
  cases g.cells.get? path.toList with
  | none => simp
  | some held => simp

theorem setText?_eq_ok_iff {path text : String} :
    g.setText? path text = .ok h ↔
      ∃ old v, g.get? path = .ok old ∧ Value.parse? old.kind text = .ok v ∧
        h = { g with cells := g.cells.set path.toList v } := by
  unfold setText? setWith?
  cases g.get? path with
  | error e => simp
  | ok old =>
    cases made : Value.parse? old.kind text with
    | error e => simp [made]
    | ok v => simp [made, eq_comm]

namespace IsOf

theorem get?_congr (left : g.IsOf d r) (right : h.IsOf d r) {path : String}
    (same : g.cells.get? path.toList = h.cells.get? path.toList) : g.get? path = h.get? path := by
  simp only [get?, same, left.header, right.header]

/-- All groups of a register have values of the same kinds at the same paths. -/
theorem exists_get?_eq (left : g.IsOf d r) (right : h.IsOf d r) {path : String} {old : Value}
    (found : g.get? path = .ok old) : ∃ held, h.get? path = .ok held ∧ held.kind = old.kind := by
  rw [get?_eq_ok_iff, left.fits.get?_eq] at found
  obtain ⟨slot, leads, holds⟩ := Option.bind_eq_some_iff.1 found
  have kind := left.fits.kindAt?_eq holds
  obtain ⟨held, holdsToo, present⟩ := right.fits.exists_at? leads
  refine ⟨held, get?_eq_ok_iff.2 present, ?_⟩
  rw [right.fits.kindAt?_eq holdsToo] at kind
  exact Option.some.inj kind

theorem exists_setText?_eq (left : g.IsOf d r) (right : h.IsOf d r) {path text : String}
    (possible : ∃ after, g.setText? path text = .ok after) :
    ∃ after, h.setText? path text = .ok after := by
  obtain ⟨after, assigned⟩ := possible
  obtain ⟨old, v, found, made, -⟩ := setText?_eq_ok_iff.1 assigned
  obtain ⟨held, present, kind⟩ := left.exists_get?_eq right found
  exact ⟨_, setText?_eq_ok_iff.2 ⟨held, v, present, kind ▸ made, rfl⟩⟩

theorem of_setText? (isOf : g.IsOf d r) {path text : String}
    (assigned : g.setText? path text = .ok h) : h.IsOf d r := by
  have kept := isOf.call (.setText path text)
  simpa [Group.call, assigned, Except.toOption] using kept

/-- After an assignment, the paths that lead to the same element hold the new value. -/
theorem get?_of_setText? (isOf : g.IsOf d r) {path text : String}
    (assigned : g.setText? path text = .ok h) :
    (∃ old v, g.get? path = .ok old ∧ Value.parse? old.kind text = .ok v ∧ h.get? path = .ok v) ∧
      ∀ other : String, d.slot? r.fields path.toList ≠ d.slot? r.fields other.toList →
        h.get? other = g.get? other := by
  have after := isOf.of_setText? assigned
  obtain ⟨old, v, found, made, rfl⟩ := setText?_eq_ok_iff.1 assigned
  have reads := isOf.fits.get?_set (get?_eq_ok_iff.1 found) (Value.isOf_parse made)
  refine ⟨⟨old, v, found, made, get?_eq_ok_iff.2 ?_⟩, ?_⟩
  · rw [reads, if_pos rfl]
  · intro other apart
    apply after.get?_congr isOf
    rw [reads, if_neg (Ne.symm apart)]

end IsOf

/-! ## Lists of assignments -/

/-- Assigns texts to paths one after the other, as long as this succeeds. -/
def assignAll? (g : Group) (assignments : List (String × String)) : Except GroupError Group :=
  assignments.foldlM (fun g a => g.setText? a.1 a.2) g

theorem assignAll?_cons_eq_ok_iff {a : String × String} {rest : List (String × String)} :
    g.assignAll? (a :: rest) = .ok h ↔
      ∃ next, g.setText? a.1 a.2 = .ok next ∧ next.assignAll? rest = .ok h := by
  simp only [assignAll?, List.foldlM_cons]
  exact bind_eq_ok_iff

theorem assignAll?_append_eq_ok_iff {front back : List (String × String)} :
    g.assignAll? (front ++ back) = .ok h ↔
      ∃ next, g.assignAll? front = .ok next ∧ next.assignAll? back = .ok h := by
  simp only [assignAll?, List.foldlM_append]
  exact bind_eq_ok_iff

/-- Each element of `g` holds what the last assignment to it says, or what it held at the start. -/
structure HoldsLast (d : Device) (fs : List Field) (start : Group)
    (assignments : List (String × String)) (g : Group) : Prop where
  assigned : ∀ before path text after, assignments = before ++ (path, text) :: after →
    (∀ a ∈ after, d.slot? fs a.1.toList ≠ d.slot? fs path.toList) →
    ∃ old v, start.get? path = .ok old ∧ Value.parse? old.kind text = .ok v ∧ g.get? path = .ok v
  kept : ∀ path : String, (∀ a ∈ assignments, d.slot? fs a.1.toList ≠ d.slot? fs path.toList) →
    g.get? path = start.get? path

namespace IsOf

theorem of_assignAll? (isOf : g.IsOf d r) {assignments : List (String × String)}
    (assigned : g.assignAll? assignments = .ok h) : h.IsOf d r := by
  induction assignments generalizing g with
  | nil =>
    cases assigned
    exact isOf
  | cons a rest ih =>
    obtain ⟨next, first, others⟩ := assignAll?_cons_eq_ok_iff.1 assigned
    exact ih (isOf.of_setText? first) others

/-- A list of assignments succeeds if each of them does by itself, on any group of the register. -/
theorem exists_assignAll?_iff (isOf : g.IsOf d r) (start : h.IsOf d r)
    (assignments : List (String × String)) :
    (∃ after, g.assignAll? assignments = .ok after) ↔
      ∀ a ∈ assignments, ∃ after, h.setText? a.1 a.2 = .ok after := by
  induction assignments generalizing g with
  | nil => exact iff_of_true ⟨g, rfl⟩ (by simp)
  | cons a rest ih =>
    rw [List.forall_mem_cons]
    constructor
    · rintro ⟨after, assigned⟩
      obtain ⟨next, first, others⟩ := assignAll?_cons_eq_ok_iff.1 assigned
      exact ⟨isOf.exists_setText?_eq start ⟨next, first⟩,
        (ih (isOf.of_setText? first)).1 ⟨after, others⟩⟩
    · rintro ⟨first, others⟩
      obtain ⟨next, first⟩ := start.exists_setText?_eq isOf first
      obtain ⟨after, others⟩ := (ih (isOf.of_setText? first)).2 others
      exact ⟨after, assignAll?_cons_eq_ok_iff.2 ⟨next, first, others⟩⟩

theorem get?_of_assignAll? (isOf : g.IsOf d r) {assignments : List (String × String)}
    (assigned : g.assignAll? assignments = .ok h) {path : String}
    (apart : ∀ a ∈ assignments, d.slot? r.fields a.1.toList ≠ d.slot? r.fields path.toList) :
    h.get? path = g.get? path := by
  induction assignments generalizing g with
  | nil =>
    cases assigned
    rfl
  | cons a rest ih =>
    obtain ⟨next, first, others⟩ := assignAll?_cons_eq_ok_iff.1 assigned
    obtain ⟨apartFirst, apart⟩ := List.forall_mem_cons.1 apart
    rw [ih (isOf.of_setText? first) others apart]
    exact (isOf.get?_of_setText? first).2 path apartFirst

theorem holdsLast (isOf : g.IsOf d r) {assignments : List (String × String)}
    (assigned : g.assignAll? assignments = .ok h) : HoldsLast d r.fields g assignments h where
  assigned := by
    -- Those before it do not change the kind, and those after it do not touch the element.
    rintro before path text after rfl apart
    obtain ⟨next, first, others⟩ := assignAll?_append_eq_ok_iff.1 assigned
    obtain ⟨last, here, rest⟩ := assignAll?_cons_eq_ok_iff.1 others
    have isOfNext := isOf.of_assignAll? first
    obtain ⟨⟨held, v, found, made, stored⟩, -⟩ := isOfNext.get?_of_setText? here
    obtain ⟨old, present, kind⟩ := isOfNext.exists_get?_eq isOf found
    refine ⟨old, v, present, kind ▸ made, ?_⟩
    rw [(isOfNext.of_setText? here).get?_of_assignAll? rest apart, stored]
  kept _ apart := isOf.get?_of_assignAll? assigned apart

end IsOf

end Group

end RegisterMap
