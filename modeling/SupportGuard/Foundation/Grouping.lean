import Mathlib.Data.List.Sort
import SupportGuard.Foundation.Table

/-! # Rows by their keys

A dictionary of lists collects rows under their keys, the keys in the order of their first
rows. What it says about single and repeated keys does not depend on the order of the
rows. -/

namespace Foundation

namespace Grouping

variable {Row Key : Type} [DecidableEq Key] (key : Row → Key)

/-- `dict.fromkeys`: each value once, in the order of the first ones. -/
def distinct (values : List Key) : List Key :=
  Table.firsts id values

def group (rows : List Row) (wanted : Key) : List Row :=
  rows.filter fun row => key row = wanted

/-- The row of a key that has one. -/
def single? (rows : List Row) (wanted : Key) : Option Row :=
  match group key rows wanted with
  | [row] => some row
  | _ => none

/-- The rows whose key no other row has. -/
def singles (rows : List Row) : List Row :=
  (distinct (rows.map key)).filterMap (single? key rows)

/-- The keys of several rows. -/
def repeated (rows : List Row) : List Key :=
  (distinct (rows.map key)).filter fun wanted => (group key rows wanted).length ≠ 1

theorem mem_distinct {values : List Key} {value : Key} :
    value ∈ distinct values ↔ value ∈ values := by
  have same := Table.mem_map_firsts id values value
  rw [List.map_id, List.map_id] at same
  exact same

theorem nodup_distinct (values : List Key) : (distinct values).Nodup := by
  have same := Table.nodup_firsts id values
  rw [List.map_id] at same
  exact same

variable {key} {rows rows' : List Row}

theorem single?_eq_some {wanted : Key} {row : Row} :
    single? key rows wanted = some row ↔ group key rows wanted = [row] := by
  unfold single?
  split
  · rename_i found
    rw [found]
    simp
  · rename_i other
    constructor
    · intro impossible
      cases impossible
    · intro found
      exact absurd found (other row)

theorem mem_group {wanted : Key} {row : Row} :
    row ∈ group key rows wanted ↔ row ∈ rows ∧ key row = wanted := by
  simp [group]

theorem key_of_single? {wanted : Key} {row : Row} (found : single? key rows wanted = some row) :
    row ∈ rows ∧ key row = wanted := by
  rw [single?_eq_some] at found
  exact mem_group.mp (found ▸ List.mem_singleton_self row)

/-- A row stands alone. -/
theorem mem_singles {row : Row} :
    row ∈ singles key rows ↔ group key rows (key row) = [row] := by
  unfold singles
  rw [List.mem_filterMap]
  constructor
  · intro ⟨wanted, _, found⟩
    rw [(key_of_single? found).2]
    exact single?_eq_some.mp found
  · intro alone
    refine ⟨key row, ?_, single?_eq_some.mpr alone⟩
    rw [mem_distinct]
    have member : row ∈ group key rows (key row) := alone ▸ List.mem_singleton_self row
    exact List.mem_map_of_mem (mem_group.mp member).1

theorem mem_of_mem_singles {row : Row} (member : row ∈ singles key rows) : row ∈ rows := by
  rw [mem_singles] at member
  exact (mem_group.mp (member ▸ List.mem_singleton_self row)).1

/-- Rows that stand alone have different keys. -/
theorem nodup_singles (rows : List Row) : ((singles key rows).map key).Nodup := by
  have inverse : (singles key rows).map key =
      (distinct (rows.map key)).filter fun wanted => (single? key rows wanted).isSome := by
    unfold singles
    induction distinct (rows.map key) with
    | nil => rfl
    | cons wanted rest induction =>
        cases found : single? key rows wanted with
        | none => simp [found, induction]
        | some row => simp [found, induction, (key_of_single? found).2]
  rw [inverse]
  exact (nodup_distinct _).filter _

/-! ## Other orders -/

theorem group_perm (same : rows.Perm rows') (wanted : Key) :
    (group key rows wanted).Perm (group key rows' wanted) :=
  same.filter _

theorem distinct_perm {values values' : List Key} (same : values.Perm values') :
    (distinct values).Perm (distinct values') := by
  apply (List.perm_ext_iff_of_nodup (nodup_distinct _) (nodup_distinct _)).mpr
  intro value
  rw [mem_distinct, mem_distinct, same.mem_iff]

theorem single?_congr (same : rows.Perm rows') (wanted : Key) :
    single? key rows wanted = single? key rows' wanted := by
  have groups : (group key rows wanted).Perm (group key rows' wanted) := group_perm same wanted
  apply Option.ext
  intro row
  rw [single?_eq_some, single?_eq_some]
  constructor
  · intro found
    rw [found] at groups
    exact List.perm_singleton.mp groups.symm
  · intro found
    rw [found] at groups
    exact List.perm_singleton.mp groups

theorem singles_perm (same : rows.Perm rows') : (singles key rows).Perm (singles key rows') := by
  have rule : single? key rows = single? key rows' := by
    funext wanted
    exact single?_congr same wanted
  unfold singles
  rw [rule]
  exact (distinct_perm (same.map key)).filterMap _

theorem repeated_perm (same : rows.Perm rows') :
    (repeated key rows).Perm (repeated key rows') := by
  have rule : (fun wanted => decide ((group key rows wanted).length ≠ 1)) =
      fun wanted => decide ((group key rows' wanted).length ≠ 1) := by
    funext wanted
    rw [(group_perm same wanted).length_eq]
  unfold repeated
  rw [rule]
  exact (distinct_perm (same.map key)).filter _

theorem flatMap_group_perm {keys : List Key} (distinct : keys.Nodup)
    (all : ∀ row ∈ rows, key row ∈ keys) : (keys.flatMap (group key rows)).Perm rows := by
  induction keys generalizing rows with
  | nil =>
      cases rows with
      | nil => exact .nil
      | cons row rest => exact absurd (all row List.mem_cons_self) List.not_mem_nil
  | cons wanted keys induction =>
      rcases List.nodup_cons.mp distinct with ⟨apart, later⟩
      have others : keys.flatMap (group key rows) =
          keys.flatMap (group key (rows.filter fun row => !decide (key row = wanted))) := by
        apply List.flatMap_congr
        intro other member
        rw [group, group, List.filter_filter]
        apply List.filter_congr
        intro row _
        have different : other ≠ wanted := fun same => apart (same ▸ member)
        by_cases same : key row = other
        · simp [same, different]
        · simp [same]
      rw [List.flatMap_cons, others]
      apply List.Perm.trans _ (List.filter_append_perm (fun row => decide (key row = wanted)) rows)
      apply List.Perm.append_left
      apply induction later
      intro row member
      rcases List.mem_filter.mp member with ⟨inRows, other⟩
      rcases List.mem_cons.mp (all row inRows) with same | inKeys
      · rw [same] at other
        simp at other
      · exact inKeys

/-- Rows that their order tells apart are sorted alike, in whatever order they came. -/
theorem insertionSort_congr {le : Row → Row → Prop} [DecidableRel le] [Std.Total le]
    [IsTrans Row le] (same : rows.Perm rows')
    (distinct : ∀ row ∈ rows, ∀ other ∈ rows, le row other → le other row → row = other) :
    rows.insertionSort le = rows'.insertionSort le := by
  have sorted : (rows.insertionSort le).Perm (rows'.insertionSort le) :=
    (List.perm_insertionSort _ rows).trans (same.trans (List.perm_insertionSort _ rows').symm)
  apply sorted.eq_of_pairwise _ (List.pairwise_insertionSort _ rows)
    (List.pairwise_insertionSort _ rows')
  intro row other member otherMember before after
  apply distinct row _ other _ before after
  · exact (List.perm_insertionSort _ rows).subset member
  · exact same.symm.subset ((List.perm_insertionSort _ rows').subset otherMember)

end Grouping

end Foundation
