import Mathlib.Data.List.Dedup
import Mathlib.Data.List.Induction
import Mathlib.Data.List.Perm.Subperm

/-! # Keyed tables

A table is a list of rows; a key identifies a row. -/

namespace Foundation

namespace Table

variable {Row Key : Type} [DecidableEq Key] (key : Row → Key)

def find (table : List Row) (wanted : Key) : Option Row :=
  table.find? fun row => key row = wanted

/-- Change the row with the given key. -/
def update (wanted : Key) (change : Row → Row) (table : List Row) : List Row :=
  table.map fun row => if key row = wanted then change row else row

variable {key}

variable {table : List Row} {wanted : Key} {row : Row}

theorem find_mem (found : find key table wanted = some row) : row ∈ table ∧ key row = wanted := by
  refine ⟨List.mem_of_find?_eq_some found, ?_⟩
  simpa using List.find?_some found

theorem find_eq_none :
    find key table wanted = none ↔ ∀ row ∈ table, key row ≠ wanted := by
  simp [find]

/-- With distinct keys, a row is found under its own key. -/
theorem find_of_mem (distinct : (table.map key).Nodup) (member : row ∈ table) :
    find key table (key row) = some row := by
  cases found : find key table (key row) with
  | none => exact absurd rfl (find_eq_none.mp found row member)
  | some other =>
      rcases find_mem found with ⟨otherMember, equal⟩
      rw [List.inj_on_of_nodup_map distinct otherMember member equal]

/-- A row that is found by its key alone is found under a condition it meets, too. -/
theorem find?_and_of_find {condition : Row → Prop} [DecidablePred condition]
    (found : find key table wanted = some row) (met : condition row) :
    (table.find? fun other => key other = wanted && condition other) = some row := by
  induction table with
  | nil => cases found
  | cons head tail induction =>
      by_cases named : key head = wanted
      · have same : head = row := by simpa [find, named] using found
        simp [← same, named, same.symm ▸ met]
      · have later : find key tail wanted = some row := by simpa [find, named] using found
        simpa [named] using induction later

variable {change : Row → Row}

theorem mem_update :
    row ∈ update key wanted change table ↔
      (row ∈ table ∧ key row ≠ wanted) ∨
        ∃ old ∈ table, key old = wanted ∧ row = change old := by
  simp only [update, List.mem_map]
  constructor
  · intro member
    rcases member with ⟨old, oldMember, equal⟩
    split at equal
    · rename_i matched
      exact .inr ⟨old, oldMember, matched, equal.symm⟩
    · rename_i other
      subst equal
      exact .inl ⟨oldMember, other⟩
  · intro cases
    rcases cases with ⟨member, other⟩ | ⟨old, member, matched, equal⟩
    · exact ⟨row, member, by rw [if_neg other]⟩
    · exact ⟨old, member, by rw [if_pos matched, equal]⟩

/-- With distinct keys, one row at most has a key. -/
theorem filter_key_length_le (distinct : (table.map key).Nodup) (wanted : Key) :
    (table.filter fun row => key row = wanted).length ≤ 1 := by
  have kept : ((table.filter fun row => key row = wanted).map key).Nodup :=
    distinct.sublist (List.filter_sublist.map key)
  have same : (table.filter fun row => key row = wanted).map key ⊆ [wanted] := by
    intro found member
    rcases List.mem_map.mp member with ⟨row, rowMember, rfl⟩
    simpa using (List.mem_filter.mp rowMember).2
  simpa using (kept.subperm same).length_le

/-- Rows added under distinct keys are not found under the key of an earlier row. -/
theorem filter_key_of_prefix {before after : List Row} (grows : before <+: after)
    (distinct : (after.map key).Nodup) (member : row ∈ before) :
    (after.filter fun other => key other = key row) =
      before.filter fun other => key other = key row := by
  rcases grows with ⟨added, rfl⟩
  rw [List.map_append, List.nodup_append] at distinct
  have none : (added.filter fun other => key other = key row) = [] := by
    apply List.filter_eq_nil_iff.mpr
    intro other otherMember
    have different := distinct.2.2 (key row) (List.mem_map_of_mem member) (key other)
      (List.mem_map_of_mem otherMember)
    simpa using different.symm
  rw [List.filter_append, none, List.append_nil]

/-- A change that keeps a column of every row keeps the column. -/
theorem map_update {β : Type} {column : Row → β} (keeps : ∀ row, column (change row) = column row)
    (table : List Row) :
    (update key wanted change table).map column = table.map column := by
  rw [update, List.map_map]
  apply List.map_congr_left
  intro row _
  simp only [Function.comp_apply]
  split
  · exact keeps row
  · rfl

theorem find_update_self (keeps : ∀ row, key (change row) = key row) :
    find key (update key wanted change table) wanted =
      (find key table wanted).map change := by
  induction table with
  | nil => rfl
  | cons head tail induction =>
      simp only [update, find] at induction
      by_cases matched : key head = wanted
      · simp [update, find, matched, keeps]
      · simp [update, find, matched, induction]

theorem find_update_of_find (keeps : ∀ row, key (change row) = key row)
    (found : find key table wanted = some row) :
    find key (update key wanted change table) wanted = some (change row) := by
  rw [find_update_self keeps, found, Option.map_some]

theorem find_update_of_ne {wanted other : Key} (keeps : ∀ row, key (change row) = key row)
    (different : other ≠ wanted) :
    find key (update key wanted change table) other = find key table other := by
  induction table with
  | nil => rfl
  | cons head tail induction =>
      simp only [update, find] at induction
      by_cases matched : key head = wanted
      · simp [update, find, matched, keeps, induction, different.symm]
      · by_cases found : key head = other
        · simp [update, find, found, different]
        · simp [update, find, matched, found, induction]

/-- What a change keeps of every row is found as before. -/
theorem map_find_update {β : Type} {wanted other : Key} {column : Row → β}
    (keeps : ∀ row, key (change row) = key row) (same : ∀ row, column (change row) = column row) :
    (find key (update key wanted change table) other).map column =
      (find key table other).map column := by
  by_cases named : other = wanted
  · rw [named, find_update_self keeps, Option.map_map]
    congr 1
    funext row
    exact same row
  · rw [find_update_of_ne keeps named]

theorem find_update {wanted other : Key} (keeps : ∀ row, key (change row) = key row) :
    find key (update key wanted change table) other =
      (find key table other).map fun row =>
        if other = wanted then change row else row := by
  by_cases same : other = wanted
  · subst same
    simpa using find_update_self keeps
  · rw [find_update_of_ne keeps same]
    simp [same]

/-- A row is found under a condition that the change does not touch. -/
theorem find?_update {qualifies : Row → Bool}
    (same : ∀ row, qualifies (change row) = qualifies row) :
    (update key wanted change table).find? qualifies =
      (table.find? qualifies).map fun row => if key row = wanted then change row else row := by
  rw [update, List.find?_map]
  congr 2
  funext row
  rw [Function.comp_apply]
  split
  · exact same row
  · rfl

/-- Two changes of a row are one. -/
theorem update_update {first second : Row → Row} (keeps : ∀ row, key (first row) = key row) :
    update key wanted second (update key wanted first table) =
      update key wanted (second ∘ first) table := by
  rw [update, update, update, List.map_map]
  apply List.map_congr_left
  intro row _
  by_cases named : key row = wanted
  · simp [named, keeps]
  · simp [named]

/-- A row that is added under a new key is the one found under it. -/
theorem find_append_new (new : ∀ other ∈ table, key other ≠ key row) :
    find key (table ++ [row]) (key row) = some row := by
  have absent : table.find? (fun other => decide (key other = key row)) = none := by
    simpa using new
  simp [find, List.find?_append, absent]

theorem find_append_of_ne (other : key row ≠ wanted) :
    find key (table ++ [row]) wanted = find key table wanted := by
  simp [find, List.find?_append, other]

theorem find_append_of_none {first second : List Row} (absent : find key first wanted = none) :
    find key (first ++ second) wanted = find key second wanted := by
  rw [find] at absent
  rw [find, find, List.find?_append, absent, Option.none_or]

/-- Rows that are made of other rows are found where those are. -/
theorem find_map {Source Name : Type} [DecidableEq Name] {name : Source → Name} {row : Source → Row}
    {sources : List Source} {wantedName : Name}
    (same : ∀ source ∈ sources, key (row source) = wanted ↔ name source = wantedName) :
    find key (sources.map row) wanted = (find name sources wantedName).map row := by
  induction sources with
  | nil => rfl
  | cons head tail induction =>
      have later := induction fun source member => same source (List.mem_cons_of_mem _ member)
      have first := same head (by simp)
      simp only [find] at later
      by_cases named : name head = wantedName
      · simp [find, named, first.mpr named]
      · have other : ¬key (row head) = wanted := fun keyed => named (first.mp keyed)
        rw [List.map_cons, find, find, List.find?_cons_of_neg (by simpa using other),
          List.find?_cons_of_neg (by simpa using named)]
        exact later

theorem update_of_forall_ne (absent : ∀ row ∈ table, key row ≠ wanted) :
    update key wanted change table = table := by
  rw [update]
  conv_rhs => rw [← List.map_id table]
  apply List.map_congr_left
  intro row member
  exact if_neg (absent row member)

/-- Changing a row that was added under a new key changes it alone. -/
theorem update_append_new (new : ∀ other ∈ table, key other ≠ wanted) (named : key row = wanted) :
    update key wanted change (table ++ [row]) = table ++ [change row] := by
  have kept : update key wanted change table = table := update_of_forall_ne new
  rw [update] at kept ⊢
  rw [List.map_append, kept, List.map_singleton, if_pos named]

omit [DecidableEq Key] in
theorem nodup_append_new (distinct : (table.map key).Nodup)
    (new : ∀ other ∈ table, key other ≠ key row) : ((table ++ [row]).map key).Nodup := by
  rw [List.map_append, List.map_singleton, List.nodup_append]
  refine ⟨distinct, List.nodup_singleton _, ?_⟩
  intro taken member other single
  rw [List.mem_singleton.mp single]
  rcases List.mem_map.mp member with ⟨old, oldMember, named⟩
  rw [← named]
  exact new old oldMember

omit [DecidableEq Key] in
/-- Where rows keep their key and none of them comes to qualify, the keys of those that
qualify are among the earlier ones. -/
theorem filter_map_key_sublist {qualifies : Row → Bool}
    (keeps : ∀ row ∈ table, key (change row) = key row)
    (earlier : ∀ row ∈ table, qualifies (change row) = true → qualifies row = true) :
    (((table.map change).filter qualifies).map key).Sublist
      ((table.filter qualifies).map key) := by
  induction table with
  | nil => exact List.Sublist.slnil
  | cons row rest induction =>
      have later := induction (fun other member => keeps other (List.mem_cons_of_mem _ member))
        fun other member => earlier other (List.mem_cons_of_mem _ member)
      rw [List.map_cons]
      cases qualified : qualifies (change row) with
      | false =>
          rw [List.filter_cons_of_neg (by simp [qualified])]
          apply later.trans
          exact ((List.sublist_cons_self row rest).filter qualifies).map key
      | true =>
          have before := earlier row List.mem_cons_self qualified
          rw [List.filter_cons_of_pos qualified, List.filter_cons_of_pos before,
            List.map_cons, List.map_cons, keeps row List.mem_cons_self]
          exact later.cons_cons _

/-! ## One row for a key -/

section

variable (key)

/-- The row takes the place of the one that has its key, or is added. -/
def put (row : Row) (table : List Row) : List Row :=
  if (find key table (key row)).isSome then update key (key row) (fun _ => row) table
  else table ++ [row]

/-- The rows of the other keys stay, in their order. -/
theorem put_perm {table : List Row} (distinct : (table.map key).Nodup) (row : Row) :
    (put key row table).Perm (row :: table.filter fun other => key other ≠ key row) := by
  induction table with
  | nil => exact List.Perm.refl [row]
  | cons first rest induction =>
      have restDistinct := (List.nodup_cons.mp distinct).2
      by_cases same : key first = key row
      · have apart : ∀ other ∈ rest, key other ≠ key row := by
          intro other member named
          exact (List.nodup_cons.mp distinct).1
            ((named.trans same.symm) ▸ List.mem_map_of_mem member)
        have found : (find key (first :: rest) (key row)).isSome = true := by
          simp [find, same]
        have whole : rest.filter (fun other => key other ≠ key row) = rest :=
          List.filter_eq_self.mpr fun other member => decide_eq_true (apart other member)
        have changed : put key row (first :: rest) =
            row :: update key (key row) (fun _ => row) rest := by
          rw [put, if_pos found, update, List.map_cons, if_pos same]
          rfl
        rw [changed, update_of_forall_ne apart, List.filter_cons_of_neg (by simp [same]), whole]
      · have kept : put key row (first :: rest) = first :: put key row rest := by
          have later : find key (first :: rest) (key row) = find key rest (key row) := by
            simp [find, same]
          rw [put, put, later]
          split
          · rw [update, List.map_cons, if_neg same]
            rfl
          · rfl
        rw [kept, List.filter_cons_of_pos (by simp [same])]
        exact ((induction restDistinct).cons first).trans (List.Perm.swap row first _)

theorem put_distinct {table : List Row} (distinct : (table.map key).Nodup) (row : Row) :
    ((put key row table).map key).Nodup := by
  rw [((put_perm key distinct row).map key).nodup_iff, List.map_cons, List.nodup_cons]
  apply And.intro
  · intro member
    rcases List.mem_map.mp member with ⟨other, kept, named⟩
    exact of_decide_eq_true (List.mem_filter.mp kept).2 named
  · exact distinct.sublist (List.filter_sublist.map key)

end

/-! ## First rows -/

section

variable (key)

/-- Add a row unless its key is taken. -/
def insertNew (table : List Row) (row : Row) : List Row :=
  match find key table (key row) with
  | some _ => table
  | none => table ++ [row]

/-- Of each key the first row, in the order of the rows. -/
def firsts (rows : List Row) : List Row :=
  rows.foldl (insertNew key) []

theorem firsts_append_singleton (rows : List Row) (row : Row) :
    firsts key (rows ++ [row]) = insertNew key (firsts key rows) row := by
  simp [firsts]

theorem insertNew_eq (table : List Row) (row : Row) :
    insertNew key table row = if key row ∈ table.map key then table else table ++ [row] := by
  unfold insertNew
  cases found : find key table (key row) with
  | some other =>
      rcases find_mem found with ⟨member, same⟩
      exact (if_pos (same ▸ List.mem_map_of_mem member)).symm
  | none =>
      have absent : key row ∉ table.map key := by
        intro member
        rcases List.mem_map.mp member with ⟨other, otherMember, same⟩
        exact find_eq_none.mp found other otherMember same
      exact (if_neg absent).symm

/-- New rows come behind the table. -/
theorem prefix_foldl_insertNew (rows table : List Row) :
    table <+: rows.foldl (insertNew key) table := by
  induction rows generalizing table with
  | nil => exact List.prefix_refl table
  | cons row rest induction =>
      rw [List.foldl_cons]
      apply List.IsPrefix.trans _ (induction _)
      rw [insertNew_eq]
      split
      · exact List.prefix_refl table
      · exact List.prefix_append table [row]

/-- Rows with distinct keys are the first ones of their keys. -/
theorem firsts_eq_self {rows : List Row} (distinct : (rows.map key).Nodup) :
    firsts key rows = rows := by
  induction rows using List.reverseRecOn with
  | nil => rfl
  | append_singleton rest last induction =>
      rw [List.map_append, List.map_singleton, List.nodup_append] at distinct
      rcases distinct with ⟨earlier, _, apart⟩
      rw [firsts_append_singleton, induction earlier, insertNew_eq, if_neg]
      intro taken
      exact apart _ taken _ (List.mem_singleton_self _) rfl

/-- Rows with distinct keys come behind the table, but for those whose keys are taken. -/
theorem foldl_insertNew_eq {rows : List Row} (table : List Row) (distinct : (rows.map key).Nodup) :
    rows.foldl (insertNew key) table =
      table ++ rows.filter fun row => key row ∉ table.map key := by
  induction rows generalizing table with
  | nil => exact (List.append_nil table).symm
  | cons row rest induction =>
      rw [List.map_cons, List.nodup_cons] at distinct
      rcases distinct with ⟨new, later⟩
      rw [List.foldl_cons, induction _ later, insertNew_eq]
      by_cases taken : key row ∈ table.map key
      · rw [if_pos taken, List.filter_cons_of_neg (by simpa using taken)]
      · rw [if_neg taken, List.filter_cons_of_pos (by simpa using taken), List.append_assoc]
        have others : (rest.filter fun other => key other ∉ (table ++ [row]).map key) =
            rest.filter fun other => key other ∉ table.map key := by
          apply List.filter_congr
          intro other member
          have apart : key other ≠ key row := fun same =>
            new (same ▸ List.mem_map_of_mem member)
          simp [apart]
        rw [others]
        rfl

/-- The rows that are chosen come first, and the first row counts no more for being named
between them. -/
theorem firsts_prioritized {rows : List Row} (distinct : (rows.map key).Nodup)
    (chosen : Row → Bool) :
    firsts key (rows.filter chosen ++ rows.take 1 ++ rows) =
      rows.filter chosen ++ rows.filter fun row => !chosen row := by
  have chosenDistinct := distinct.sublist ((List.filter_sublist (p := chosen)).map key)
  have alone : (rows.filter chosen).foldl (insertNew key) [] = rows.filter chosen :=
    firsts_eq_self key chosenDistinct
  have taken {row : Row} (member : row ∈ rows) :
      key row ∈ (rows.filter chosen).map key ↔ chosen row = true := by
    constructor
    · intro has
      rcases List.mem_map.mp has with ⟨other, otherMember, same⟩
      have equal := List.inj_on_of_nodup_map distinct (List.mem_filter.mp otherMember).1 member same
      exact equal ▸ (List.mem_filter.mp otherMember).2
    · intro holds
      exact List.mem_map_of_mem (List.mem_filter.mpr ⟨member, holds⟩)
  rw [firsts, List.foldl_append, List.foldl_append, alone, foldl_insertNew_eq key _ distinct]
  cases rows with
  | nil => rfl
  | cons first rest =>
      have once : ((first :: rest).take 1).foldl (insertNew key)
            ((first :: rest).filter chosen) =
          insertNew key ((first :: rest).filter chosen) first := rfl
      rw [once, insertNew_eq]
      by_cases holds : chosen first = true
      · rw [if_pos ((taken List.mem_cons_self).mpr holds)]
        apply congrArg (List.append _)
        apply List.filter_congr
        intro row member
        simp [taken member]
      · have others : ((first :: rest).filter fun row =>
              key row ∉ ((first :: rest).filter chosen ++ [first]).map key) =
            rest.filter fun row => !chosen row := by
          rw [List.filter_cons_of_neg (by
            rw [List.map_append]
            simp)]
          apply List.filter_congr
          intro row member
          have apart : key row ≠ key first := fun same =>
            (List.nodup_cons.mp distinct).1 (same ▸ List.mem_map_of_mem member)
          simp only [List.map_append, List.map_singleton, List.mem_append, List.mem_singleton,
            apart, or_false, taken (List.mem_cons_of_mem first member), Bool.not_eq_true,
            Bool.decide_eq_false]
        rw [if_neg fun has => holds ((taken List.mem_cons_self).mp has), others,
          List.append_assoc,
          List.filter_cons_of_pos (p := fun row => !chosen row) (by simpa using holds)]
        rfl

theorem prefix_firsts_append {front : List Row} (distinct : (front.map key).Nodup)
    (rest : List Row) : front <+: firsts key (front ++ rest) := by
  have begins := prefix_foldl_insertNew key rest (firsts key front)
  rw [firsts_eq_self key distinct] at begins
  rw [firsts, List.foldl_append]
  have same : front.foldl (insertNew key) [] = front := firsts_eq_self key distinct
  rw [same]
  exact begins

theorem firsts_subset (rows : List Row) : firsts key rows ⊆ rows := by
  induction rows using List.reverseRecOn with
  | nil => exact List.Subset.refl _
  | append_singleton rest last induction =>
      rw [firsts_append_singleton, insertNew_eq]
      have earlier : firsts key rest ⊆ rest ++ [last] :=
        List.Subset.trans induction (List.subset_append_left _ _)
      split
      · exact earlier
      · exact List.append_subset.mpr ⟨earlier, List.subset_append_right _ _⟩

theorem nodup_firsts (rows : List Row) : ((firsts key rows).map key).Nodup := by
  induction rows using List.reverseRecOn with
  | nil => exact List.nodup_nil
  | append_singleton rest last induction =>
      rw [firsts_append_singleton, insertNew_eq]
      split
      · exact induction
      · rename_i absent
        rw [List.map_append, List.map_singleton, List.nodup_append]
        refine ⟨induction, List.nodup_singleton _, ?_⟩
        intro first firstMember second secondMember same
        rw [List.mem_singleton] at secondMember
        exact absent (secondMember ▸ same ▸ firstMember)

theorem mem_map_firsts (rows : List Row) (wanted : Key) :
    wanted ∈ (firsts key rows).map key ↔ wanted ∈ rows.map key := by
  induction rows using List.reverseRecOn with
  | nil => exact Iff.rfl
  | append_singleton rest last induction =>
      rw [firsts_append_singleton, insertNew_eq]
      by_cases taken : key last ∈ (firsts key rest).map key
      · rw [if_pos taken, induction, List.map_append, List.map_singleton, List.mem_append,
          List.mem_singleton]
        have seen : wanted = key last → wanted ∈ rest.map key := by
          intro same
          rw [← same] at taken
          exact induction.mp taken
        exact ⟨.inl, fun either => either.elim id seen⟩
      · rw [if_neg taken, List.map_append, List.map_append, List.mem_append, List.mem_append,
          induction]

/-- Two keys that tell the same rows apart choose the same rows. -/
theorem firsts_congr {Key' : Type} [DecidableEq Key'] {key' : Row → Key'} {rows : List Row}
    (same : ∀ left ∈ rows, ∀ right ∈ rows, key left = key right ↔ key' left = key' right) :
    firsts key rows = firsts key' rows := by
  induction rows using List.reverseRecOn with
  | nil => rfl
  | append_singleton rest last induction =>
      have earlier : firsts key rest = firsts key' rest := induction fun left leftMember right
        rightMember => same left (List.mem_append_left _ leftMember) right
          (List.mem_append_left _ rightMember)
      have taken : key last ∈ (firsts key rest).map key ↔
          key' last ∈ (firsts key' rest).map key' := by
        rw [mem_map_firsts, mem_map_firsts, List.mem_map, List.mem_map]
        apply exists_congr
        intro row
        apply and_congr_right
        intro member
        exact same row (List.mem_append_left _ member) last
          (List.mem_append_right _ (List.mem_singleton_self last))
      rw [firsts_append_singleton, firsts_append_singleton, insertNew_eq, insertNew_eq, earlier]
      rw [earlier] at taken
      by_cases present : key last ∈ (firsts key' rest).map key
      · rw [if_pos present, if_pos (taken.mp present)]
      · rw [if_neg present, if_neg fun member => present (taken.mpr member)]

/-- A key is held once, when it is. -/
theorem count_insertNew (table : List Row) (row : Row) (wanted : Key) :
    (insertNew key table row).countP (fun other => decide (key other = wanted)) =
      if key row = wanted then max 1 (table.countP fun other => decide (key other = wanted))
      else table.countP fun other => decide (key other = wanted) := by
  rw [insertNew_eq]
  by_cases same : key row = wanted
  · rw [if_pos same]
    by_cases taken : key row ∈ table.map key
    · obtain ⟨other, member, equal⟩ := List.mem_map.mp taken
      have held : 0 < table.countP fun other => decide (key other = wanted) :=
        List.countP_pos_iff.mpr ⟨other, member, by simpa using equal.trans same⟩
      rw [if_pos taken]
      omega
    · have absent : (table.countP fun other => decide (key other = wanted)) = 0 := by
        rw [List.countP_eq_zero]
        intro other member equal
        have found : key other = wanted := by simpa using equal
        exact taken (List.mem_map.mpr ⟨other, member, found.trans same.symm⟩)
      rw [if_neg taken, List.countP_append, absent]
      simp [same]
  · rw [if_neg same]
    split
    · rfl
    · simp [List.countP_append, same]

theorem count_foldl_insertNew (rows : List Row) {table : List Row} {wanted : Key}
    (absent : wanted ∉ table.map key) :
    (rows.foldl (insertNew key) table).countP (fun other => decide (key other = wanted)) =
      if wanted ∈ rows.map key then 1 else 0 := by
  induction rows using List.reverseRecOn with
  | nil =>
      rw [List.foldl_nil, List.map_nil, if_neg List.not_mem_nil, List.countP_eq_zero]
      intro other member equal
      exact absent (List.mem_map.mpr ⟨other, member, by simpa using equal⟩)
  | append_singleton rest last induction =>
      rw [List.foldl_append, List.foldl_cons, List.foldl_nil, count_insertNew, induction]
      by_cases same : key last = wanted
      · simp only [same, if_true, List.map_append, List.map_singleton, List.mem_append,
          List.mem_singleton, or_true]
        split
        · rfl
        · rfl
      · have other : wanted ≠ key last := fun equal => same equal.symm
        simp [same, other]

/-- There are as many first rows as distinct keys. -/
theorem length_firsts (rows : List Row) :
    (firsts key rows).length = (rows.map key).dedup.length := by
  have same : ((firsts key rows).map key).Perm (rows.map key).dedup := by
    apply (List.perm_ext_iff_of_nodup (nodup_firsts key rows) (List.nodup_dedup _)).mpr
    intro wanted
    rw [mem_map_firsts, List.mem_dedup]
  rw [← same.length_eq, List.length_map]

end

/-! ## The latest row -/

section

variable (measure : Row → Int)

/-- `ORDER BY measure DESC LIMIT 1`. -/
def latest? : List Row → Option Row
  | [] => none
  | row :: rest => match latest? rest with
      | none => some row
      | some best => if measure row ≤ measure best then some best else some row

theorem latest?_append_singleton {rows : List Row} {last : Row}
    (below : ∀ row ∈ rows, measure row ≤ measure last) :
    latest? measure (rows ++ [last]) = some last := by
  induction rows with
  | nil => rfl
  | cons head tail induction =>
      have later := induction fun row member => below row (List.mem_cons_of_mem _ member)
      rw [List.cons_append, latest?, later]
      simp [below head (by simp)]

/-- Of rows listed in order, the last one is the latest. -/
theorem latest?_of_pairwise {rows : List Row}
    (sorted : rows.Pairwise fun left right => measure left ≤ measure right) :
    latest? measure rows = rows.getLast? := by
  induction rows using List.reverseRecOn with
  | nil => rfl
  | append_singleton rest last _ =>
      rw [latest?_append_singleton, List.getLast?_concat]
      intro row member
      exact (List.pairwise_append.mp sorted).2.2 row member last (by simp)

end

/-! ## Consecutive numbers -/

/-- The integers from `start` on, `count` of them. -/
def consecutive (start : Int) (count : Nat) : List Int :=
  (List.range count).map fun index : Nat => start + (index : Int)

theorem consecutive_succ (start : Int) (count : Nat) :
    consecutive start (count + 1) = consecutive start count ++ [start + count] := by
  simp [consecutive, List.range_succ]

theorem pairwise_of_map_eq_consecutive {measure : Row → Int} {rows : List Row}
    {start : Int} (numbered : rows.map measure = consecutive start rows.length) :
    rows.Pairwise fun left right => measure left ≤ measure right := by
  have increasing : (consecutive start rows.length).Pairwise (· ≤ ·) := by
    rw [consecutive, List.pairwise_map]
    exact List.pairwise_lt_range.imp fun less => by omega
  rw [← numbered, List.pairwise_map] at increasing
  exact increasing

/-- The number of the latest of the rows numbered from one is their count. -/
theorem latest?_of_map_eq_consecutive {measure : Row → Int} {rows : List Row}
    (numbered : rows.map measure = consecutive 1 rows.length) :
    ((latest? measure rows).map measure).getD 0 = rows.length := by
  rw [latest?_of_pairwise measure (pairwise_of_map_eq_consecutive numbered)]
  induction rows using List.reverseRecOn with
  | nil => rfl
  | append_singleton rest last _ =>
      rw [List.length_append, List.length_singleton, consecutive_succ,
        List.map_append, List.map_singleton] at numbered
      have lastNumber := List.append_inj_right' numbered rfl
      simp only [List.cons.injEq, and_true] at lastNumber
      simp [lastNumber]
      omega

end Table

end Foundation
