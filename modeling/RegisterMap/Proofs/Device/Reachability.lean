import RegisterMap.Proofs.Device.Consistency

/-! # What a containment search visits

`Explores` describes the search without a bound on its levels. Such a walk has one outcome
(`Explores.unique`), so the bound that the search runs with never decides anything
(`search_eq_contains`). It marks a register when it enters it and never enters a marked one
(`Explores.nodup`), and it enters only registers that its starts reach (`Explores.reached`). So
every search ends, whatever the sharing and the cycles, after entering each register at most
once. -/

namespace RegisterMap.Device

namespace Explores

variable {d : Device} {target : Nat} {starts before after after' : List Nat} {found found' : Bool}

/-- Walks from the same starts with the same marks agree. -/
theorem unique (left : Explores d target starts before found after)
    (right : Explores d target starts before found' after') : found = found' ∧ after = after' := by
  -- Whether the first start is the target and whether it is marked decides the constructor.
  induction left generalizing found' after' with
  | done marks =>
    cases right
    exact ⟨rfl, rfl⟩
  | met starts marks =>
    cases right with
    | met => exact ⟨rfl, rfl⟩
    | seen other => exact absurd rfl other
    | inside other => exact absurd rfl other
    | beside other => exact absurd rfl other
  | seen other marked _ ih =>
    cases right with
    | met => exact absurd rfl other
    | seen _ _ rest => exact ih rest
    | inside _ fresh => exact absurd marked fresh
    | beside _ fresh => exact absurd marked fresh
  | inside other fresh _ ih =>
    cases right with
    | met => exact absurd rfl other
    | seen _ marked => exact absurd marked fresh
    | inside _ _ inner => exact ih inner
    | beside _ _ inner => cases (ih inner).1
  | beside other fresh _ _ innerUnique besideUnique =>
    cases right with
    | met => exact absurd rfl other
    | seen _ marked => exact absurd marked fresh
    | inside _ _ inner => cases (innerUnique inner).1
    | beside _ _ inner rest =>
      obtain ⟨-, rfl⟩ := innerUnique inner
      exact besideUnique rest

/-- No register is entered twice. -/
theorem nodup (walk : Explores d target starts before found after) (distinct : before.Nodup) :
    after.Nodup := by
  induction walk with
  | done marks => exact distinct
  | met starts marks => exact distinct
  | seen _ _ _ ih => exact ih distinct
  | inside _ fresh _ ih => exact ih (List.nodup_cons.2 ⟨fresh, distinct⟩)
  | beside _ fresh _ _ innerDistinct besideDistinct =>
    exact besideDistinct (innerDistinct (List.nodup_cons.2 ⟨fresh, distinct⟩))

/-- Only registers that some start reaches are entered. -/
theorem reached (walk : Explores d target starts before found after) {k : Nat}
    (marked : k ∈ after) : k ∈ before ∨ ∃ i ∈ starts, Relation.ReflTransGen d.Holds i k := by
  -- What is found further inside a start is reached from it by one field more.
  have entered {i : Nat} {starts before : List Nat}
      (further : k ∈ i :: before ∨ ∃ j ∈ d.holds i, Relation.ReflTransGen d.Holds j k) :
      k ∈ before ∨ ∃ j ∈ i :: starts, Relation.ReflTransGen d.Holds j k := by
    rcases further with first | ⟨j, held, path⟩
    · rcases List.mem_cons.1 first with rfl | earlier
      · exact .inr ⟨k, List.mem_cons_self, .refl⟩
      · exact .inl earlier
    · exact .inr ⟨i, List.mem_cons_self, .head held path⟩
  induction walk with
  | done marks => exact .inl marked
  | met starts marks => exact .inl marked
  | seen _ _ _ ih => exact (ih marked).imp_right fun ⟨j, member, path⟩ =>
      ⟨j, List.mem_cons_of_mem _ member, path⟩
  | inside _ _ _ ih => exact entered (ih marked)
  | beside _ _ _ _ innerReached besideReached =>
    rcases besideReached marked with between | ⟨j, member, path⟩
    · exact entered (innerReached between)
    · exact .inr ⟨j, List.mem_cons_of_mem _ member, path⟩

end Explores

/-- More levels than the table has registers change nothing. -/
theorem search_eq_contains (d : Device) (i target : Nat) {fuel : Nat}
    (enough : d.table.length < fuel) : (d.search target fuel i []).1 = d.contains i target := by
  have bounded : d.unmarked [] ≤ d.table.length := by simp [unmarked]
  obtain ⟨marks, walk⟩ := d.explores_contains i target
  exact ((d.explores_search target fuel i [] (by omega)).unique walk).1

/-- A register that passes its check cannot be reached from the registers it holds. -/
theorem not_reachable_of_validateRegister {d : Device} {i j : Nat}
    (valid : d.validateRegister i = .ok ()) (held : d.Holds i j) :
    ¬ Relation.ReflTransGen d.Holds j i := by
  cases atIndex : d.table[i]? with
  | none => simp [Holds, holds, fieldsOf, atIndex] at held
  | some r =>
    simp only [validateRegister, atIndex] at valid
    obtain ⟨-, fields, -⟩ := (d.checkRegister_eq_ok_iff i r).1 valid
    obtain ⟨f, within, holds⟩ : ∃ f ∈ r.fields, f.register = some j := by
      simpa [Holds, holds, fieldsOf, atIndex] using held
    exact ((fields f within).register j holds).2.2.1

/-- The containment search ends on every device: it is a finished walk that enters no register
    twice, and no larger bound on its levels gives another answer. It finds a register exactly if
    this is the start or reachable from it. So a register that passes its check is neither one of
    the registers it holds nor reachable from them. -/
theorem contains_decides_reachability (d : Device) (i target : Nat) :
    (∃ marks, Explores d target [i] [] (d.contains i target) marks ∧ marks.Nodup ∧
      ∀ k ∈ marks, Relation.ReflTransGen d.Holds i k) ∧
    (∀ fuel, d.table.length < fuel → (d.search target fuel i []).1 = d.contains i target) ∧
    (d.contains i target = true ↔ target = i ∨ Relation.TransGen d.Holds i target) ∧
    (d.validateRegister i = .ok () → ∀ j, d.Holds i j →
      j ≠ i ∧ ¬ Relation.TransGen d.Holds j i) := by
  refine ⟨?_, fun fuel => d.search_eq_contains i target, ?_, ?_⟩
  · obtain ⟨marks, walk⟩ := d.explores_contains i target
    refine ⟨marks, walk, walk.nodup List.nodup_nil, fun k marked => ?_⟩
    rcases walk.reached marked with early | ⟨j, start, path⟩
    · cases early
    · exact List.mem_singleton.1 start ▸ path
  · rw [contains_iff, Relation.reflTransGen_iff_eq_or_transGen]
  · intro valid j held
    have outward := not_reachable_of_validateRegister valid held
    rw [Relation.reflTransGen_iff_eq_or_transGen, not_or] at outward
    exact ⟨fun same => outward.1 same.symm, outward.2⟩

/-- A register that holds two others, which share a third; outside the device, two registers that
    hold each other, one of them also itself and one the first register. -/
def knotted : Device where
  name := "knotted"
  registers :=
    [{ name := "outer", id := 0, direction := .readOnly,
        fields := [{ name := "a", register := some 1 }, { name := "b", register := some 2 }] },
      { name := "left", id := 1, direction := .readOnly,
        fields := [{ name := "c", register := some 3 }] },
      { name := "right", id := 2, direction := .readOnly,
        fields := [{ name := "c", register := some 3 }] },
      { name := "core", id := 3, direction := .readOnly,
        fields := [{ name := "x", kind := .uint8 }] }]
  foreign :=
    [{ name := "ring", id := 4, direction := .readOnly,
        fields := [{ name := "next", register := some 5 }, { name := "self", register := some 4 }] },
      { name := "back", id := 5, direction := .readOnly,
        fields := [{ name := "ring", register := some 4 }, { name := "out", register := some 0 }] }]

theorem knotted_searched :
    (knotted.validateRegister 0 = .ok () ∧ knotted.Holds 0 2 ∧
      ¬ Relation.TransGen knotted.Holds 2 0) ∧
    (knotted.table.length < 7 ∧ (knotted.search 3 7 4 []).1 = knotted.contains 4 3) ∧
    Relation.TransGen knotted.Holds 4 3 ∧ ¬ Relation.TransGen knotted.Holds 0 4 := by
  have valid : knotted.validateRegister 0 = .ok () := by decide +kernel
  have held : knotted.Holds 0 2 := by
    show 2 ∈ knotted.holds 0
    decide
  have enough : knotted.table.length < 7 := by decide
  obtain ⟨-, -, outer, outward⟩ := contains_decides_reachability knotted 0 4
  obtain ⟨-, bound, ring, -⟩ := contains_decides_reachability knotted 4 3
  have found : knotted.contains 4 3 = true := by decide +kernel
  have missed : ¬ knotted.contains 0 4 = true := by decide +kernel
  refine ⟨⟨valid, held, (outward valid 2 held).2⟩, ⟨enough, bound 7 enough⟩, ?_, ?_⟩
  · exact (ring.1 found).resolve_left (by decide)
  · exact fun path => missed (outer.2 (.inr path))

end RegisterMap.Device
