import Mathlib.Data.Finset.Card
import Mathlib.Logic.Relation
import RegisterMap.Device.Containment

/-! # The containment search decides reachability

`Device.contains` walks the registers depth first with one set of marks for all branches, and the
executable walk is cut off after as many levels as the table is long. `Explores` is the same walk
without the bound: a derivation is a walk that ended. Every start has one (`explores_search`),
because a register is entered only while it is unmarked.

The invariant of a walk that found nothing is `Explores.closed`: whatever it marked has all its
inner registers marked too. A register that was skipped because its marking was still in progress
is in that set, so the early answer hides no path. -/

namespace RegisterMap.Device

/-- The register at `outer` has a field that holds the register at `inner`. -/
def Holds (d : Device) (outer inner : Nat) : Prop :=
  inner ∈ d.holds outer

/-- A finished walk from `starts` in order: it takes the marks before it to the marks after it and
    tells whether `target` was met. -/
inductive Explores (d : Device) (target : Nat) : (starts before : List Nat) → (found : Bool) →
    (after : List Nat) → Prop where
  | done (marks : List Nat) : Explores d target [] marks false marks
  | met (starts marks : List Nat) : Explores d target (target :: starts) marks true marks
  | seen {i : Nat} {starts before after : List Nat} {found : Bool} (other : i ≠ target)
      (marked : i ∈ before) (beside : Explores d target starts before found after) :
      Explores d target (i :: starts) before found after
  | inside {i : Nat} {starts before after : List Nat} (other : i ≠ target) (fresh : i ∉ before)
      (inner : Explores d target (d.holds i) (i :: before) true after) :
      Explores d target (i :: starts) before true after
  | beside {i : Nat} {starts before between after : List Nat} {found : Bool} (other : i ≠ target)
      (fresh : i ∉ before) (inner : Explores d target (d.holds i) (i :: before) false between)
      (beside : Explores d target starts between found after) :
      Explores d target (i :: starts) before found after

namespace Explores

variable {d : Device} {target : Nat} {starts before after : List Nat} {found : Bool}

theorem before_subset (walk : Explores d target starts before found after) : before ⊆ after := by
  induction walk with
  | done marks => exact List.Subset.refl _
  | met starts marks => exact List.Subset.refl _
  | seen _ _ _ ih => exact ih
  | inside _ _ _ ih => exact fun _ marked => ih (List.mem_cons_of_mem _ marked)
  | beside _ _ _ _ innerSubset besideSubset =>
    exact fun _ marked => besideSubset (innerSubset (List.mem_cons_of_mem _ marked))

/-- A walk that met the target followed fields to it. -/
theorem reaches (walk : Explores d target starts before found after) (met : found = true) :
    ∃ i ∈ starts, Relation.ReflTransGen d.Holds i target := by
  induction walk with
  | done marks => cases met
  | met starts marks => exact ⟨target, by simp, .refl⟩
  | seen _ _ _ ih =>
    obtain ⟨i, member, path⟩ := ih met
    exact ⟨i, List.mem_cons_of_mem _ member, path⟩
  | @inside i _ _ _ _ _ _ ih =>
    obtain ⟨j, held, path⟩ := ih rfl
    exact ⟨i, by simp, .head held path⟩
  | beside _ _ _ _ _ ih =>
    obtain ⟨i, member, path⟩ := ih met
    exact ⟨i, List.mem_cons_of_mem _ member, path⟩

/-- A walk that did not meet the target marked all its starts. -/
theorem starts_subset (walk : Explores d target starts before found after)
    (missed : found = false) : starts ⊆ after := by
  induction walk with
  | done marks => exact List.nil_subset _
  | met starts marks => cases missed
  | seen _ marked walk ih =>
    exact List.cons_subset.2 ⟨walk.before_subset marked, ih missed⟩
  | inside => cases missed
  | beside _ _ inner walk _ ih =>
    refine List.cons_subset.2 ⟨?_, ih missed⟩
    exact walk.before_subset (inner.before_subset (by simp))

/-- A walk that did not meet the target did not mark it. -/
theorem target_unmarked (walk : Explores d target starts before found after)
    (missed : found = false) (absent : target ∉ before) : target ∉ after := by
  induction walk with
  | done marks => exact absent
  | met starts marks => cases missed
  | seen _ _ _ ih => exact ih missed absent
  | inside => cases missed
  | beside other _ _ _ innerAbsent besideAbsent =>
    exact besideAbsent missed (innerAbsent rfl (by simp [Ne.symm other, absent]))

/-- A register that a walk without success marked has all its inner registers marked. -/
theorem closed (walk : Explores d target starts before found after) (missed : found = false)
    {i : Nat} (marked : i ∈ after) : i ∈ before ∨ d.holds i ⊆ after := by
  induction walk with
  | done marks => exact .inl marked
  | met starts marks => cases missed
  | seen _ _ _ ih => exact ih missed marked
  | inside => cases missed
  | beside _ _ inner walk innerClosed besideClosed =>
    -- It was marked beside, further inside, on entering the start itself, or before.
    rcases besideClosed missed marked with between | closed
    · rcases innerClosed rfl between with entered | closed
      · rcases List.mem_cons.1 entered with rfl | earlier
        · exact .inr (List.Subset.trans (inner.starts_subset rfl) walk.before_subset)
        · exact .inl earlier
      · exact .inr (List.Subset.trans closed walk.before_subset)
    · exact .inr closed

/-- From unmarked registers, a walk meets the target exactly if some start reaches it. -/
theorem found_iff (walk : Explores d target starts [] found after) :
    found = true ↔ ∃ i ∈ starts, Relation.ReflTransGen d.Holds i target := by
  refine ⟨walk.reaches, ?_⟩
  rintro ⟨i, member, path⟩
  by_contra missed
  rw [Bool.not_eq_true] at missed
  -- Every register on the path is marked, so the target would be.
  have marked : ∀ j, Relation.ReflTransGen d.Holds i j → j ∈ after := by
    intro j path
    induction path with
    | refl => exact walk.starts_subset missed member
    | tail _ held ih =>
      rcases walk.closed missed ih with early | closed
      · cases early
      · exact closed held
  exact walk.target_unmarked missed List.not_mem_nil (marked target path)

/-- The walk from one start, followed by the walk from others. -/
theorem append_cons {i : Nat} {between : List Nat}
    (first : Explores d target [i] before false between)
    (others : Explores d target starts between found after) :
    Explores d target (i :: starts) before found after := by
  cases first with
  | seen other marked rest => cases rest; exact .seen other marked others
  | beside other fresh inner rest => cases rest; exact .beside other fresh inner others

/-- A start that meets the target ends the walk. -/
theorem cons_of_met {i : Nat} (first : Explores d target [i] before true after) :
    Explores d target (i :: starts) before true after := by
  cases first with
  | met => exact .met _ _
  | seen _ _ rest => cases rest
  | inside other fresh inner => exact .inside other fresh inner
  | beside _ _ _ rest => cases rest

end Explores

/-! ## The bound is never reached -/

/-- The number of registers of the table that are not marked. -/
def unmarked (d : Device) (marks : List Nat) : Nat :=
  (Finset.range d.table.length \ marks.toFinset).card

theorem unmarked_le_of_subset (d : Device) {before after : List Nat} (subset : before ⊆ after) :
    d.unmarked after ≤ d.unmarked before := by
  apply Finset.card_le_card
  apply Finset.sdiff_subset_sdiff (Finset.Subset.refl _)
  intro i member
  exact List.mem_toFinset.2 (subset (List.mem_toFinset.1 member))

theorem unmarked_cons_lt (d : Device) {marks : List Nat} {i : Nat} (inTable : i < d.table.length)
    (fresh : i ∉ marks) : d.unmarked (i :: marks) < d.unmarked marks := by
  apply Finset.card_lt_card
  refine ⟨Finset.sdiff_subset_sdiff (Finset.Subset.refl _) (by simp), ?_⟩
  intro subset
  have member : i ∈ Finset.range d.table.length \ marks.toFinset := by simp [inTable, fresh]
  have := subset member
  simp at this

theorem holds_of_not_lt {d : Device} {i : Nat} (outside : ¬ i < d.table.length) :
    d.holds i = [] := by
  have missing : d.table[i]? = none := List.getElem?_eq_none (by omega)
  simp [holds, fieldsOf, missing]

theorem explores_searchEach {d : Device} {target : Nat}
    {search : Nat → List Nat → Bool × List Nat} (bound : Nat)
    (each : ∀ i marks, d.unmarked marks ≤ bound →
      Explores d target [i] marks (search i marks).1 (search i marks).2)
    (starts marks : List Nat) (enough : d.unmarked marks ≤ bound) :
    Explores d target starts marks (searchEach search starts marks).1
      (searchEach search starts marks).2 := by
  induction starts generalizing marks with
  | nil => exact .done marks
  | cons i starts ih =>
    have first := each i marks enough
    unfold searchEach
    split
    · next after outcome =>
      rw [outcome] at first
      exact first.cons_of_met
    · next between outcome =>
      rw [outcome] at first
      -- The next start finds the marks of this one, so it has no more registers before it.
      have smaller : d.unmarked between ≤ d.unmarked marks :=
        d.unmarked_le_of_subset first.before_subset
      exact first.append_cons (ih between (by omega))

/-- With one level more than there are unmarked registers, the bounded search is a finished
    walk. -/
theorem explores_search (d : Device) (target fuel i : Nat) (marks : List Nat)
    (enough : d.unmarked marks < fuel) :
    Explores d target [i] marks (d.search target fuel i marks).1
      (d.search target fuel i marks).2 := by
  induction fuel generalizing i marks with
  | zero => omega
  | succ fuel ih =>
    unfold search
    split_ifs with same marked
    · subst same
      exact .met _ _
    · exact .seen same (by simpa using marked) (.done marks)
    · have fresh : i ∉ marks := by simpa using marked
      have inner : Explores d target (d.holds i) (i :: marks)
          (searchEach (d.search target fuel) (d.holds i) (i :: marks)).1
          (searchEach (d.search target fuel) (d.holds i) (i :: marks)).2 := by
        -- Entering a register marks it, which pays for the level that is used up.
        by_cases inTable : i < d.table.length
        · have smaller := d.unmarked_cons_lt inTable fresh
          apply explores_searchEach (fuel - 1)
          · intro j after bounded
            exact ih j after (by omega)
          · omega
        · rw [holds_of_not_lt inTable]
          exact .done _
      cases outcome : searchEach (d.search target fuel) (d.holds i) (i :: marks) with
      | mk found after =>
        rw [outcome] at inner
        cases found with
        | true => exact .inside same fresh inner
        | false => exact .beside same fresh inner (.done _)

/-- Every search that `contains` starts comes to an end by itself. -/
theorem explores_contains (d : Device) (i target : Nat) :
    ∃ marks, Explores d target [i] [] (d.contains i target) marks := by
  have bounded : d.unmarked [] ≤ d.table.length := by simp [unmarked]
  exact ⟨_, d.explores_search target (d.table.length + 2) i [] (by omega)⟩

theorem contains_iff (d : Device) (i target : Nat) :
    d.contains i target = true ↔ Relation.ReflTransGen d.Holds i target := by
  obtain ⟨marks, walk⟩ := d.explores_contains i target
  simpa using walk.found_iff

end RegisterMap.Device
