import RegisterMap.Proofs.Group.Assignment

/-! # The listed values and their slots

The values of a group are listed in wire order, each under a path. `Cells.listing` tells in
addition which slot each of them stands in: every slot that holds a value is listed, and none is
listed twice. Slots and paths depend on the fields alone, so two groups of a register differ only in
what their slots hold (`Fits.eq_of_at?`), and an assignment changes one entry (`Fits.values_set`). -/

namespace RegisterMap

namespace Cells

/-- The listed values, each with its slot and its path. -/
def listing : Cells → List (Slot × String × Value)
  | nil => []
  | scalar name _ value rest =>
    (.element 0, name, value) :: rest.listing.map fun e => (.after e.1, e.2)
  | array name _ values rest =>
    values.zipIdx.map (fun e => (.element e.2, elementPath name e.2, e.1)) ++
      rest.listing.map fun e => (.after e.1, e.2)
  | nested name _ inner rest =>
    inner.listing.map (fun e => (.inside e.1, innerPath name e.2.1, e.2.2)) ++
      rest.listing.map fun e => (.after e.1, e.2)

/-- The slots that hold a value, in wire order. -/
def slots (cells : Cells) : List Slot :=
  cells.listing.map Prod.fst

theorem map_snd_listing (cells : Cells) : cells.listing.map Prod.snd = cells.values := by
  induction cells with
  | nil => rfl
  | scalar name kind value rest ih => simp [listing, values, ← ih, Function.comp_def]
  | array name kind values rest ih => simp [listing, Cells.values, ← ih, Function.comp_def]
  | nested name header inner rest innerIh ih =>
    simp [listing, values, ← innerIh, ← ih, Function.comp_def]

theorem getElem?_values {cells : Cells} {k : Nat} {slot : Slot} {name : String} {v : Value}
    (entry : cells.listing[k]? = some (slot, name, v)) : cells.values[k]? = some (name, v) := by
  rw [← map_snd_listing, List.getElem?_map, entry]
  rfl

/-! ## Slots -/

@[simp] theorem slots_nil : nil.slots = [] := rfl

@[simp] theorem slots_scalar (name : String) (kind : Kind) (value : Value) (rest : Cells) :
    (scalar name kind value rest).slots = .element 0 :: rest.slots.map .after := by
  simp [slots, listing, Function.comp_def]

@[simp] theorem slots_array (name : String) (kind : Kind) (values : List Value) (rest : Cells) :
    (array name kind values rest).slots =
      (List.range' 0 values.length).map .element ++ rest.slots.map .after := by
  have numbers : List.range' 0 values.length = values.zipIdx.map Prod.snd :=
    (List.zipIdx_map_snd 0 values).symm
  simp only [slots, listing, numbers, List.map_append, List.map_map, Function.comp_def]

@[simp] theorem slots_nested (name : String) (header : Header) (inner rest : Cells) :
    (nested name header inner rest).slots =
      inner.slots.map .inside ++ rest.slots.map .after := by
  simp [slots, listing, Function.comp_def]

theorem nodup_slots (cells : Cells) : cells.slots.Nodup := by
  have after : ∀ slots : List Slot, slots.Nodup → (slots.map Slot.after).Nodup :=
    fun slots distinct => distinct.map fun _ _ => Slot.after.inj
  induction cells with
  | nil => simp
  | scalar name kind value rest ih =>
    rw [slots_scalar, List.nodup_cons]
    exact ⟨by simp, after _ ih⟩
  | array name kind values rest ih =>
    rw [slots_array, List.nodup_append']
    refine ⟨List.Nodup.map (fun _ _ => Slot.element.inj) List.nodup_range', after _ ih, ?_⟩
    simp [List.disjoint_left]
  | nested name header inner rest innerIh ih =>
    rw [slots_nested, List.nodup_append']
    refine ⟨innerIh.map fun _ _ => Slot.inside.inj, after _ ih, ?_⟩
    simp [List.disjoint_left]

theorem getElem?_slots {cells : Cells} {k : Nat} {slot : Slot} {path : String} {v : Value}
    (entry : cells.listing[k]? = some (slot, path, v)) : cells.slots[k]? = some slot := by
  rw [slots, List.getElem?_map, entry]
  rfl

theorem index_unique {cells : Cells} {slot : Slot} {k n : Nat}
    (left : cells.slots[k]? = some slot) (right : cells.slots[n]? = some slot) : k = n :=
  (List.getElem?_inj (List.getElem?_eq_some_iff.1 left).1 cells.nodup_slots).1
    (left.trans right.symm)

theorem at?_of_mem_listing {cells : Cells} {e : Slot × String × Value}
    (listed : e ∈ cells.listing) : cells.at? e.1 = some e.2.2 := by
  induction cells generalizing e with
  | nil => cases listed
  | scalar name kind value rest ih =>
    rcases List.mem_cons.1 listed with rfl | later
    · rfl
    · obtain ⟨e, inside, rfl⟩ := List.mem_map.1 later
      exact ih inside
  | array name kind values rest ih =>
    rcases List.mem_append.1 listed with first | later
    · obtain ⟨⟨v, k⟩, element, rfl⟩ := List.mem_map.1 first
      exact List.mem_zipIdx_iff_getElem?.1 element
    · obtain ⟨e, inside, rfl⟩ := List.mem_map.1 later
      exact ih inside
  | nested name header inner rest innerIh ih =>
    rcases List.mem_append.1 listed with first | later
    · obtain ⟨e, inside, rfl⟩ := List.mem_map.1 first
      exact innerIh inside
    · obtain ⟨e, inside, rfl⟩ := List.mem_map.1 later
      exact ih inside

theorem exists_mem_listing {cells : Cells} {slot : Slot} {v : Value}
    (holds : cells.at? slot = some v) : ∃ name, (slot, name, v) ∈ cells.listing := by
  induction cells generalizing slot with
  | nil => cases holds
  | scalar name kind value rest ih =>
    cases slot with
    | element index =>
      cases index with
      | zero =>
        cases holds
        exact ⟨name, List.mem_cons_self⟩
      | succ index => cases holds
    | inside slot => cases holds
    | after slot =>
      obtain ⟨name, listed⟩ := ih holds
      exact ⟨name, List.mem_cons_of_mem _ (List.mem_map_of_mem listed)⟩
  | array name kind values rest ih =>
    cases slot with
    | element index =>
      have element : (v, index) ∈ values.zipIdx := List.mem_zipIdx_iff_getElem?.2 holds
      exact ⟨_, List.mem_append_left _ (List.mem_map_of_mem element)⟩
    | inside slot => cases holds
    | after slot =>
      obtain ⟨name, listed⟩ := ih holds
      exact ⟨name, List.mem_append_right _ (List.mem_map_of_mem listed)⟩
  | nested name header inner rest innerIh ih =>
    cases slot with
    | element index => cases holds
    | inside slot =>
      obtain ⟨name, listed⟩ := innerIh holds
      exact ⟨_, List.mem_append_left _ (List.mem_map_of_mem listed)⟩
    | after slot =>
      obtain ⟨name, listed⟩ := ih holds
      exact ⟨name, List.mem_append_right _ (List.mem_map_of_mem listed)⟩

theorem mem_slots_of_at? {cells : Cells} {slot : Slot} {v : Value}
    (holds : cells.at? slot = some v) : slot ∈ cells.slots := by
  obtain ⟨name, listed⟩ := exists_mem_listing holds
  exact List.mem_map_of_mem listed

namespace Fits

variable {d : Device} {fs : List Field} {cells : Cells}

/-- The slots depend on the fields alone. -/
theorem slots_eq (left : Fits d fs cells) {other : Cells} (right : Fits d fs other) :
    cells.slots = other.slots := by
  induction left generalizing other with
  | nil =>
    cases right
    rfl
  | scalar held single _ _ ih =>
    cases right with
    | scalar _ _ _ right => rw [slots_scalar, slots_scalar, ih right]
    | array _ several => omega
    | nested heldRight => simp [held] at heldRight
  | array held several length _ _ ih =>
    cases right with
    | scalar _ single => omega
    | array _ _ lengthRight _ right =>
      rw [slots_array, slots_array, length, lengthRight, ih right]
    | nested heldRight => simp [held] at heldRight
  | nested held own _ _ innerIh ih =>
    cases right with
    | scalar heldRight => simp [held] at heldRight
    | array heldRight => simp [held] at heldRight
    | nested heldRight ownRight insideRight right =>
      cases held.symm.trans heldRight
      cases own.symm.trans ownRight
      rw [slots_nested, slots_nested, innerIh insideRight, ih right]

/-- The paths of the listing depend on the fields alone. -/
theorem map_path_listing (left : Fits d fs cells) {other : Cells} (right : Fits d fs other) :
    cells.listing.map (fun e => e.2.1) = other.listing.map fun e => e.2.1 := by
  have paths := left.map_fst_values right
  rwa [← map_snd_listing, ← map_snd_listing, List.map_map, List.map_map] at paths

/-- Two groups of a register differ in their listings by what their slots hold. -/
theorem listing_eq (left : Fits d fs cells) {other : Cells} (right : Fits d fs other) :
    other.listing = cells.listing.map fun e => (e.1, e.2.1, (other.at? e.1).getD e.2.2) := by
  -- At each position both list the same slot under the same path.
  apply List.ext_getElem?
  intro n
  have sameSlot := congrArg (·[n]?) (right.slots_eq left)
  have samePath := congrArg (·[n]?) (right.map_path_listing left)
  simp only [slots, List.getElem?_map] at sameSlot samePath ⊢
  cases new : other.listing[n]? with
  | none =>
    have absent : cells.listing[n]? = none := by simpa [new] using sameSlot.symm
    rw [absent]
    rfl
  | some e =>
    obtain ⟨⟨_, _, u⟩, old, same⟩ := Option.map_eq_some_iff.1 (new ▸ sameSlot).symm
    rw [new, old] at samePath
    have holds := at?_of_mem_listing (List.mem_of_getElem? new)
    rw [old]
    cases same
    cases samePath
    simp only [Option.map_some, holds, Option.getD_some]

/-- Groups of a register that hold the same in every slot are the same. -/
theorem eq_of_at? (consistent : d.Consistent) (left : Fits d fs cells) {other : Cells}
    (right : Fits d fs other) (same : ∀ slot, other.at? slot = cells.at? slot) :
    other = cells := by
  have listings : other.listing = cells.listing := by
    rw [left.listing_eq right]
    refine (List.map_congr_left fun e listed => ?_).trans (List.map_id _)
    rw [same, at?_of_mem_listing listed]
    rfl
  apply right.eq_of_bytes consistent left
  rw [bytes, bytes, ← map_snd_listing, ← map_snd_listing, listings]

/-- An assignment changes the entry of the slot that the path leads to. -/
theorem values_set (fits : Fits d fs cells) {path : List Char} {slot : Slot}
    (found : d.slot? fs path = some slot) {v : Value} (after : Fits d fs (cells.set path v))
    {k : Nat} {name : String} {old : Value}
    (entry : cells.listing[k]? = some (slot, name, old)) :
    (cells.set path v).values = cells.values.set k (name, v) := by
  have listing : (cells.set path v).listing = cells.listing.set k (slot, name, v) := by
    rw [fits.listing_eq after]
    apply List.ext_getElem?
    intro n
    rw [List.getElem?_map]
    by_cases here : k = n
    · subst here
      rw [List.getElem?_set_self (List.getElem?_eq_some_iff.1 entry).1, entry]
      simp only [Option.map_some, fits.at?_set found, if_true, Option.getD_some]
    · rw [List.getElem?_set_ne here]
      cases kept : cells.listing[n]? with
      | none => rfl
      | some e =>
        -- No slot is listed twice.
        obtain ⟨place, label, w⟩ := e
        have apart : place ≠ slot := by
          rintro rfl
          exact here (index_unique (getElem?_slots entry) (getElem?_slots kept))
        have holds := at?_of_mem_listing (List.mem_of_getElem? kept)
        simp only [Option.map_some, fits.at?_set found, if_neg apart, holds, Option.getD_some]
  rw [← map_snd_listing, listing, List.map_set, map_snd_listing]

end Fits

end Cells

end RegisterMap
