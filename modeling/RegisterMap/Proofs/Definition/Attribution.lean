import RegisterMap.Definition.Elaboration
import Mathlib.Data.List.Perm.Subperm
import Mathlib.Tactic

/-! # Which declaration a comment documents

The rule for a list of items, some of them comments and the others declarations: a comment documents
the declaration before it if it trails that one, and the next one otherwise. `documented` lists the
declarations of one sort with their documentation. One more item at the end changes it in one of
three ways, and no comment is given to two declarations (`documented_subperm`). -/

namespace RegisterMap.Definition

variable {α : Type} (comment? : α → Option Comment) (name? : α → Option String)
  (trails : Comment → Bool)

/-- The items that are no comments. -/
def declarations (items : List α) : List α :=
  items.filter fun item => (comment? item).isNone

/-- The comments among items, each with the number of declarations before it. -/
def remarks : (before : Nat) → List α → List (Nat × Comment)
  | _, [] => []
  | n, item :: items =>
    match comment? item with
    | some c => (n, c) :: remarks n items
    | none => remarks (n + 1) items

/-- The declaration that a comment documents, by its number. -/
def subject : Nat × Comment → Nat
  | (n + 1, c) => if trails c then n else n + 1
  | (0, _) => 0

/-- The texts of the comments that document the declaration of a number. -/
def documentation (items : List α) (k : Nat) : List String :=
  ((remarks comment? 0 items).filter fun x => subject trails x == k).map fun x =>
    commentText x.2.text

/-- The declarations that have a name of one sort, with their documentation. -/
def documented (items : List α) : List (String × List String) :=
  (declarations comment? items).zipIdx.filterMap fun x =>
    (name? x.1).map fun name => (name, documentation comment? trails items x.2)

variable {comment? name? trails} {items : List α} {item : α} {c : Comment}

theorem declarations_comment (isComment : comment? item = some c) :
    declarations comment? (items ++ [item]) = declarations comment? items := by
  simp [declarations, isComment]

theorem declarations_declaration (declares : comment? item = none) :
    declarations comment? (items ++ [item]) = declarations comment? items ++ [item] := by
  simp [declarations, declares]

theorem map_remarks (n : Nat) :
    (remarks comment? n items).map Prod.snd = items.filterMap comment? := by
  induction items generalizing n with
  | nil => rfl
  | cons item items ih => cases isComment : comment? item <;> simp [remarks, isComment, ih]

theorem remarks_append (n : Nat) (others : List α) :
    remarks comment? n (items ++ others) =
      remarks comment? n items ++
        remarks comment? (n + (declarations comment? items).length) others := by
  induction items generalizing n with
  | nil => rfl
  | cons item items ih =>
    cases isComment : comment? item with
    | some c => simp [remarks, declarations, isComment, ih]
    | none => simp [remarks, declarations, isComment, ih, Nat.add_assoc, Nat.add_comm]

theorem subject_le (x : Nat × Comment) : subject trails x ≤ x.1 := by
  rcases x with ⟨_ | n, c⟩
  · exact le_rfl
  · simp only [subject]
    split <;> omega

theorem subject_waiting (waits : trails c = false) (n : Nat) : subject trails (n, c) = n := by
  cases n <;> simp [subject, waits]

theorem remarks_le {n : Nat} {x : Nat × Comment} (member : x ∈ remarks comment? n items) :
    x.1 ≤ n + (declarations comment? items).length := by
  induction items generalizing n with
  | nil => cases member
  | cons item items ih =>
    cases isComment : comment? item with
    | some c =>
      simp only [remarks, isComment, List.mem_cons] at member
      rcases member with rfl | member
      · exact Nat.le_add_right _ _
      · simpa [declarations, isComment] using ih member
    | none =>
      simp only [remarks, isComment] at member
      have bound := ih member
      simp only [declarations, isComment, List.filter_cons, Option.isNone_none, if_pos,
        List.length_cons] at bound ⊢
      omega

/-- No comment documents more than the next declaration. -/
theorem documentation_of_lt {k : Nat} (beyond : (declarations comment? items).length < k) :
    documentation comment? trails items k = [] := by
  simp only [documentation, List.map_eq_nil_iff, List.filter_eq_nil_iff, beq_iff_eq]
  intro x member same
  have bound := remarks_le member
  have before : subject trails x ≤ x.1 := subject_le x
  omega

theorem documentation_comment (isComment : comment? item = some c) (k : Nat) :
    documentation comment? trails (items ++ [item]) k =
      documentation comment? trails items k ++
        if subject trails ((declarations comment? items).length, c) = k then [commentText c.text]
        else [] := by
  simp only [documentation, remarks_append, remarks, isComment, Nat.zero_add, List.filter_append,
    List.map_append]
  by_cases same : subject trails ((declarations comment? items).length, c) = k <;> simp [same]

theorem documentation_declaration (declares : comment? item = none) (k : Nat) :
    documentation comment? trails (items ++ [item]) k = documentation comment? trails items k := by
  simp [documentation, remarks_append, remarks, declares]

theorem documented_declaration (declares : comment? item = none) :
    documented comment? name? trails (items ++ [item]) =
      documented comment? name? trails items ++ ((name? item).map fun name =>
        (name, documentation comment? trails items
          (declarations comment? items).length)).toList := by
  simp only [documented, declarations_declaration declares, documentation_declaration declares,
    List.zipIdx_append, List.filterMap_append]
  cases named : name? item <;> simp [named]

/-- A comment that waits documents no declaration so far. -/
theorem documented_waiting (isComment : comment? item = some c)
    (waits : subject trails ((declarations comment? items).length, c) =
      (declarations comment? items).length) :
    documented comment? name? trails (items ++ [item]) =
      documented comment? name? trails items := by
  simp only [documented, declarations_comment isComment, documentation_comment isComment, waits]
  apply List.filterMap_congr
  rintro ⟨declaration, k⟩ member
  have inside := (List.mem_zipIdx member).2.1
  rw [if_neg (by omega), List.append_nil]

/-- A comment that trails documents the last declaration. -/
theorem documented_trailing {before : List α} {last : α} (isComment : comment? item = some c)
    (whole : declarations comment? items = before ++ [last]) (trailing : trails c = true) :
    documented comment? name? trails (items ++ [item]) =
      if (name? last).isSome then
        documentLast (fun x => (x.1, x.2 ++ [commentText c.text]))
          (documented comment? name? trails items)
      else documented comment? name? trails items := by
  have last_number : (declarations comment? items).length = before.length + 1 := by simp [whole]
  have goes : subject trails ((declarations comment? items).length, c) = before.length := by
    simp [last_number, subject, trailing]
  -- The declarations before the last one keep what they have.
  have front : before.zipIdx.filterMap (fun x => (name? x.1).map fun name =>
        (name, documentation comment? trails (items ++ [item]) x.2)) =
      before.zipIdx.filterMap fun x => (name? x.1).map fun name =>
        (name, documentation comment? trails items x.2) := by
    apply List.filterMap_congr
    rintro ⟨declaration, k⟩ member
    have inside := (List.mem_zipIdx member).2.1
    rw [documentation_comment isComment, goes, if_neg (by omega), List.append_nil]
  have final : documentation comment? trails (items ++ [item]) before.length =
      documentation comment? trails items before.length ++ [commentText c.text] := by
    rw [documentation_comment isComment, goes, if_pos rfl]
  simp only [documented, declarations_comment isComment, whole, List.zipIdx_append,
    List.filterMap_append, front]
  cases named : name? last with
  | none => simp [named]
  | some name => simp [named, final, documentLast]

/-- Only what is said about the comments among the items counts. -/
theorem documented_congr {trails' : Comment → Bool}
    (same : ∀ c ∈ items.filterMap comment?, trails c = trails' c) :
    documented comment? name? trails items = documented comment? name? trails' items := by
  have subjects : ∀ x ∈ remarks comment? 0 items, subject trails x = subject trails' x := by
    rintro ⟨n, c⟩ member
    have among := same c (by rw [← map_remarks 0]; exact List.mem_map_of_mem member)
    cases n <;> simp [subject, among]
  have texts (k : Nat) :
      documentation comment? trails items k = documentation comment? trails' items k := by
    unfold documentation
    rw [List.filter_congr fun x member => by rw [subjects x member]]
  simp only [documented, texts]

/-! ## Every comment once -/

theorem flatMap_filter_perm {β : Type} (key : β → Nat) (xs : List β) (n : Nat) :
    ((List.range n).flatMap fun k => xs.filter fun x => key x == k).Perm
      (xs.filter fun x => key x < n) := by
  induction n with
  | zero => simp
  | succ n ih =>
    have split := List.filter_append_perm (fun x => decide (key x < n))
      (xs.filter fun x => decide (key x < n + 1))
    have below : (xs.filter fun x => decide (key x < n + 1)).filter (fun x => decide (key x < n)) =
        xs.filter fun x => key x < n := by
      rw [List.filter_filter]
      exact List.filter_congr fun x _ => by grind
    have last : (xs.filter fun x => decide (key x < n + 1)).filter
        (fun x => !decide (key x < n)) = xs.filter fun x => key x == n := by
      rw [List.filter_filter]
      exact List.filter_congr fun x _ => by grind
    rw [below, last] at split
    rw [List.range_succ, List.flatMap_append, List.flatMap_singleton]
    exact (ih.append_right _).trans split

theorem documentation_subperm (n : Nat) :
    ((List.range n).flatMap (documentation comment? trails items)).Subperm
      ((items.filterMap comment?).map fun c => commentText c.text) := by
  have whole : (List.range n).flatMap (documentation comment? trails items) =
      ((List.range n).flatMap fun k => (remarks comment? 0 items).filter fun x =>
        subject trails x == k).map fun x => commentText x.2.text := by
    rw [List.map_flatMap]
    rfl
  rw [whole, ← map_remarks 0, List.map_map]
  exact ((flatMap_filter_perm _ _ n).map _).subperm.trans (List.filter_sublist.map _).subperm

/-- Declarations of two sorts have no comment in common, and none of them has one twice. -/
theorem documented_subperm {name?' : α → Option String}
    (apart : ∀ item, (name? item).isSome → name?' item = none) :
    ((documented comment? name? trails items).flatMap Prod.snd ++
      (documented comment? name?' trails items).flatMap Prod.snd).Subperm
        ((items.filterMap comment?).map fun c => commentText c.text) := by
  have numbers : (declarations comment? items).zipIdx.map Prod.snd =
      List.range (declarations comment? items).length := by
    rw [List.zipIdx_map_snd, List.range_eq_range']
  have all : ((List.range (declarations comment? items).length).flatMap
      (documentation comment? trails items)).Subperm
        ((items.filterMap comment?).map fun c => commentText c.text) := documentation_subperm _
  refine .trans ?_ all
  rw [← numbers, List.flatMap_map]
  unfold documented
  generalize (declarations comment? items).zipIdx = numbered
  induction numbered with
  | nil => exact List.Subperm.refl _
  | cons x numbered ih =>
    rw [List.flatMap_cons]
    cases named : name? x.1 with
    | some name =>
      have other := apart x.1 (by simp [named])
      simpa [named, other] using (List.subperm_append_left _).2 ih
    | none =>
      cases other : name?' x.1 with
      | some name =>
        refine .trans ?_ ((List.subperm_append_left _).2 ih)
        simpa [named, other] using (List.perm_append_comm_assoc _ _ _).subperm
      | none =>
        refine .trans ?_ ((List.subperm_append_left _).2 ih)
        simpa [named, other] using (List.sublist_append_right _ _).subperm

end RegisterMap.Definition
