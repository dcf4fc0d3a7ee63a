import Mathlib.Data.List.Sort

/-! # Pages of ordered rows

The first rows of a descending order. A row that is not on the page is not above its last row, so
the next page may begin there. -/

namespace Foundation

namespace KeysetPage

variable {Row Key : Type} [LinearOrder Key] (key : Row → Key)

def descending (rows : List Row) : List Row :=
  rows.insertionSort fun left right => key right ≤ key left

/-- The page, which has one row more when it is not the last one. -/
def page (limit : Nat) (rows : List Row) : List Row :=
  (descending key rows).take limit

def hasMore (limit : Nat) (rows : List Row) : Bool :=
  limit < ((descending key rows).take (limit + 1)).length

variable {key} {limit : Nat} {rows : List Row} {row : Row}

theorem descending_sorted (rows : List Row) :
    (descending key rows).Pairwise fun left right => key right ≤ key left := by
  have total : Std.Total fun left right : Row => key right ≤ key left :=
    ⟨fun left right => le_total (key right) (key left)⟩
  have transitive : IsTrans Row fun left right => key right ≤ key left :=
    ⟨fun _ _ _ first second => second.trans first⟩
  exact List.pairwise_insertionSort _ rows

theorem mem_descending : row ∈ descending key rows ↔ row ∈ rows :=
  List.mem_insertionSort _

theorem page_subset : page key limit rows ⊆ rows := by
  intro row member
  exact mem_descending.mp (List.mem_of_mem_take member)

theorem page_sorted (limit : Nat) (rows : List Row) :
    (page key limit rows).Pairwise fun left right => key right ≤ key left :=
  (descending_sorted rows).sublist (List.take_sublist _ _)

theorem map_page_nodup {Value : Type} {value : Row → Value} (distinct : (rows.map value).Nodup) :
    ((page key limit rows).map value).Nodup := by
  have sorted : ((descending key rows).map value).Nodup :=
    ((List.perm_insertionSort _ rows).map value).nodup_iff.mpr distinct
  exact sorted.sublist ((List.take_sublist _ _).map value)

theorem hasMore_iff : hasMore key limit rows = true ↔ limit < rows.length := by
  unfold hasMore
  rw [decide_eq_true_eq, List.length_take, descending, List.length_insertionSort]
  omega

theorem page_getLast? (positive : 0 < limit) (more : hasMore key limit rows = true) :
    ∃ last, (page key limit rows).getLast? = some last := by
  have longer := hasMore_iff.mp more
  cases found : (page key limit rows).getLast? with
  | some last => exact ⟨last, rfl⟩
  | none =>
      exfalso
      have length : (page key limit rows).length = 0 := by
        rw [List.getLast?_eq_none_iff.mp found]
        rfl
      rw [page, List.length_take, descending, List.length_insertionSort] at length
      omega

/-- The rows of a page are not below its last row. -/
theorem last_le_of_mem_page {last : Row} (ends : (page key limit rows).getLast? = some last)
    (member : row ∈ page key limit rows) : key last ≤ key row := by
  rcases List.getLast?_eq_some_iff.mp ends with ⟨front, whole⟩
  have sorted := @page_sorted _ _ _ key limit rows
  rw [whole] at member sorted
  rcases List.mem_append.mp member with before | same
  · exact (List.pairwise_append.mp sorted).2.2 row before last (List.mem_singleton_self last)
  · rw [List.mem_singleton.mp same]

/-- A row is on the page, or there are more pages and it is not above the last row. -/
theorem mem_page_or_le (positive : 0 < limit) (member : row ∈ rows) :
    row ∈ page key limit rows ∨ hasMore key limit rows = true ∧
      ∃ last, (page key limit rows).getLast? = some last ∧ key row ≤ key last := by
  have split := List.take_append_drop limit (descending key rows)
  have inside : row ∈ descending key rows := mem_descending.mpr member
  rw [← split, List.mem_append] at inside
  rcases inside with onPage | later
  · exact .inl onPage
  · right
    have more : hasMore key limit rows = true := by
      rw [hasMore_iff]
      have short := List.length_pos_of_mem later
      rw [List.length_drop, descending, List.length_insertionSort] at short
      omega
    rcases page_getLast? positive more with ⟨last, ends⟩
    refine ⟨more, last, ends, ?_⟩
    have sorted := @descending_sorted _ _ _ key rows
    rw [← split] at sorted
    exact (List.pairwise_append.mp sorted).2.2 last (List.mem_of_getLast? ends) row later

end KeysetPage

end Foundation
