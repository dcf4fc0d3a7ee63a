import SupportGuard.Foundation.Grouping
import SupportGuard.Foundation.PyValue

/-! # The newest item of each key

A dictionary in which an item takes the place of one that is no newer, and the stable sorting
of such items. The order in which items with distinct ranks come does not matter. -/

namespace Foundation

namespace Newest

variable {Key Item Rank : Type} [DecidableEq Key] [LinearOrder Rank]

section

variable (key : Item → Key) (rank : Item → Rank)

/-- An item takes the place of one that is no newer. -/
def put (memory : List (Key × Item)) (item : Item) : List (Key × Item) :=
  match memory.lookup (key item) with
  | none => assign memory (key item) item
  | some previous =>
      if rank previous ≤ rank item then assign memory (key item) item else memory

/-- What stands under a key once an item has come. -/
def pick (wanted : Key) (held : Option Item) (item : Item) : Option Item :=
  if key item = wanted then
    match held with
    | none => some item
    | some previous => if rank previous ≤ rank item then some item else some previous
  else held

end

section

variable {key : Item → Key} {rank : Item → Rank} {memory : List (Key × Item)}
  {items items' : List Item}

theorem lookup_put (wanted : Key) (item : Item) :
    (put key rank memory item).lookup wanted =
      pick key rank wanted (memory.lookup wanted) item := by
  unfold put pick
  by_cases same : key item = wanted
  · subst same
    rw [if_pos rfl]
    cases held : memory.lookup (key item) with
    | none => exact lookup_assign_self memory (key item) item
    | some previous =>
        dsimp only
        split
        · exact lookup_assign_self memory (key item) item
        · exact held
  · rw [if_neg same]
    cases memory.lookup (key item) with
    | none => exact lookup_assign_of_ne (Ne.symm same)
    | some previous =>
        dsimp only
        split
        · exact lookup_assign_of_ne (Ne.symm same)
        · rfl

theorem lookup_foldl_put (wanted : Key) (items : List Item) (memory : List (Key × Item)) :
    (items.foldl (put key rank) memory).lookup wanted =
      items.foldl (pick key rank wanted) (memory.lookup wanted) := by
  induction items generalizing memory with
  | nil => rfl
  | cons item rest induction =>
      rw [List.foldl_cons, induction, lookup_put, List.foldl_cons]

/-- The greatest of two ranked items. -/
theorem pick_pick {wanted : Key} {held : Option Item} {first second : Item}
    (distinct : rank first = rank second → first = second) :
    pick key rank wanted (pick key rank wanted held first) second =
      pick key rank wanted (pick key rank wanted held second) first := by
  by_cases same : first = second
  · rw [same]
  have apart : rank first ≠ rank second := fun equal => same (distinct equal)
  unfold pick
  by_cases firstKey : key first = wanted
  · by_cases secondKey : key second = wanted
    · simp only [if_pos firstKey, if_pos secondKey]
      cases held with
      | none =>
          dsimp only
          rcases lt_or_gt_of_ne apart with before | after
          · rw [if_pos (le_of_lt before), if_neg (not_le_of_gt before)]
          · rw [if_neg (not_le_of_gt after), if_pos (le_of_lt after)]
      | some previous =>
          dsimp only
          rcases lt_or_gt_of_ne apart with before | after
          · by_cases low : rank previous ≤ rank first
            · have lower := le_trans low (le_of_lt before)
              simp [low, lower, le_of_lt before, not_le_of_gt before]
            · by_cases middle : rank previous ≤ rank second
              · simp [low, middle, not_le_of_gt before]
              · simp [low, middle]
          · by_cases low : rank previous ≤ rank second
            · have lower := le_trans low (le_of_lt after)
              simp [low, lower, le_of_lt after, not_le_of_gt after]
            · by_cases middle : rank previous ≤ rank first
              · simp [low, middle, not_le_of_gt after]
              · simp [low, middle]
    · simp only [if_pos firstKey, if_neg secondKey]
  · simp only [if_neg firstKey]

/-- In whatever order the items come, a key ends with the same item. -/
theorem lookup_foldl_put_perm (same : items.Perm items')
    (distinct : ∀ item ∈ items, ∀ other ∈ items, rank item = rank other → item = other)
    (wanted : Key) :
    (items.foldl (put key rank) memory).lookup wanted =
      (items'.foldl (put key rank) memory).lookup wanted := by
  rw [lookup_foldl_put, lookup_foldl_put]
  apply same.foldl_eq'
  intro first firstMember second secondMember held
  exact pick_pick (distinct first firstMember second secondMember)

/-! ## The keys of a memory -/

theorem keys_put (item : Item) :
    (put key rank memory item).map Prod.fst =
      if key item ∈ memory.map Prod.fst then memory.map Prod.fst
      else memory.map Prod.fst ++ [key item] := by
  by_cases present : key item ∈ memory.map Prod.fst
  · rw [if_pos present]
    unfold put
    cases memory.lookup (key item) with
    | none => exact keys_assign_of_mem item present
    | some previous =>
        dsimp only
        split
        · exact keys_assign_of_mem item present
        · rfl
  · have absent : memory.lookup (key item) = none := by
      rw [List.lookup_eq_none_iff]
      intro entry member
      rw [bne_iff_ne]
      intro equal
      exact present (equal ▸ List.mem_map_of_mem member)
    rw [if_neg present, put, absent]
    dsimp only
    rw [assign_of_notMem item present, List.map_append]
    rfl

theorem nodup_keys_foldl_put (items : List Item) (distinct : (memory.map Prod.fst).Nodup) :
    ((items.foldl (put key rank) memory).map Prod.fst).Nodup := by
  induction items generalizing memory with
  | nil => exact distinct
  | cons item rest induction =>
      apply induction
      rw [keys_put]
      split
      · exact distinct
      · rename_i absent
        rw [List.nodup_append]
        refine ⟨distinct, List.nodup_singleton _, ?_⟩
        intro first firstMember second secondMember equal
        rw [List.mem_singleton] at secondMember
        exact absent (secondMember ▸ equal ▸ firstMember)

/-- The keys that were there stay in their places. -/
theorem prefix_keys_foldl_put (items : List Item) (memory : List (Key × Item)) :
    memory.map Prod.fst <+: (items.foldl (put key rank) memory).map Prod.fst := by
  induction items generalizing memory with
  | nil => exact List.prefix_refl _
  | cons item rest induction =>
      apply List.IsPrefix.trans _ (induction _)
      rw [keys_put]
      split
      · exact List.prefix_refl _
      · exact List.prefix_append _ _

theorem mem_iff_lookup {entry : Key × Item} (distinct : (memory.map Prod.fst).Nodup) :
    entry ∈ memory ↔ memory.lookup entry.1 = some entry.2 := by
  constructor
  · intro member
    rw [List.lookup_eq_some_iff]
    rcases List.append_of_mem member with ⟨before, after, rfl⟩
    refine ⟨before, after, rfl, ?_⟩
    intro other otherMember
    rw [List.map_append, List.map_cons] at distinct
    rw [bne_iff_ne]
    intro equal
    exact List.disjoint_of_nodup_append distinct (List.mem_map_of_mem otherMember)
      (equal ▸ List.mem_cons_self)
  · exact mem_of_lookup

theorem eq_filterMap_lookup (distinct : (memory.map Prod.fst).Nodup) :
    memory = (memory.map Prod.fst).filterMap fun wanted =>
      (memory.lookup wanted).map fun item => (wanted, item) := by
  rw [List.filterMap_map]
  have each : ∀ entry ∈ memory, ((fun wanted => (memory.lookup wanted).map fun item =>
      (wanted, item)) ∘ Prod.fst) entry = some entry := by
    intro entry member
    rw [Function.comp_apply, (mem_iff_lookup distinct).mp member]
    rfl
  rw [List.filterMap_congr each, List.filterMap_some]

/-- A dictionary with distinct keys is known by its keys and what stands under them. -/
theorem entries_eq {left right : List (Key × Item)} (keys : left.map Prod.fst = right.map Prod.fst)
    (distinct : (left.map Prod.fst).Nodup)
    (same : ∀ wanted ∈ left.map Prod.fst, left.lookup wanted = right.lookup wanted) :
    left = right := by
  have rightDistinct : (right.map Prod.fst).Nodup := keys ▸ distinct
  calc left = (left.map Prod.fst).filterMap fun wanted =>
        (left.lookup wanted).map fun item => (wanted, item) := eq_filterMap_lookup distinct
    _ = (left.map Prod.fst).filterMap fun wanted =>
        (right.lookup wanted).map fun item => (wanted, item) := by
      apply List.filterMap_congr
      intro wanted member
      rw [same wanted member]
    _ = (right.map Prod.fst).filterMap fun wanted =>
        (right.lookup wanted).map fun item => (wanted, item) := by rw [keys]
    _ = right := (eq_filterMap_lookup rightDistinct).symm

/-- What stands first in a dictionary is found there. -/
theorem lookup_of_initial {front : List (Key × Item)} (distinct : (memory.map Prod.fst).Nodup)
    (begins : front <+: memory) {wanted : Key} (member : wanted ∈ front.map Prod.fst) :
    front.lookup wanted = memory.lookup wanted := by
  rcases List.mem_map.mp member with ⟨entry, entryMember, rfl⟩
  have frontDistinct := distinct.sublist (begins.sublist.map Prod.fst)
  rw [(mem_iff_lookup frontDistinct).mp entryMember,
    (mem_iff_lookup distinct).mp (begins.subset entryMember)]

theorem mem_of_foldl_pick {wanted : Key} {held : Option Item} {found : Item}
    (picked : items.foldl (pick key rank wanted) held = some found) :
    held = some found ∨ found ∈ items := by
  induction items generalizing held with
  | nil => exact .inl picked
  | cons item rest induction =>
      rcases induction picked with now | later
      · unfold pick at now
        split at now
        · split at now
          · cases now
            exact .inr List.mem_cons_self
          · split at now
            · cases now
              exact .inr List.mem_cons_self
            · exact .inl now
        · exact .inl now
      · exact .inr (List.mem_cons_of_mem _ later)

/-- Two orders of the items: what was there has the same places, and the rest is a
rearrangement of items that have come. -/
theorem foldl_put_perm (same : items.Perm items')
    (ranks : ∀ item ∈ items, ∀ other ∈ items, rank item = rank other → item = other)
    (distinct : (memory.map Prod.fst).Nodup) :
    ∃ front new new', items.foldl (put key rank) memory = front ++ new ∧
      items'.foldl (put key rank) memory = front ++ new' ∧ new.Perm new' ∧
      ∀ entry ∈ new, entry.2 ∈ items := by
  generalize first : items.foldl (put key rank) memory = left
  generalize second : items'.foldl (put key rank) memory = right
  have leftDistinct : (left.map Prod.fst).Nodup := first ▸ nodup_keys_foldl_put items distinct
  have rightDistinct : (right.map Prod.fst).Nodup := second ▸ nodup_keys_foldl_put items' distinct
  have lookups (wanted : Key) : left.lookup wanted = right.lookup wanted := by
    rw [← first, ← second]
    exact lookup_foldl_put_perm same ranks wanted
  have takes {whole : List (Key × Item)} (begins : memory.map Prod.fst <+: whole.map Prod.fst) :
      (whole.take memory.length).map Prod.fst = memory.map Prod.fst := by
    have length : (memory.map Prod.fst).length = memory.length := List.length_map _
    rw [List.map_take, ← length]
    exact (List.prefix_iff_eq_take.mp begins).symm
  have leftKeys := takes (first ▸ prefix_keys_foldl_put items memory)
  have rightKeys := takes (second ▸ prefix_keys_foldl_put items' memory)
  have front : left.take memory.length = right.take memory.length := by
    apply entries_eq (leftKeys.trans rightKeys.symm) (leftKeys ▸ distinct)
    intro wanted member
    rw [lookup_of_initial leftDistinct (List.take_prefix _ _) member,
      lookup_of_initial rightDistinct (List.take_prefix _ _)
        (rightKeys.symm ▸ leftKeys ▸ member), lookups]
  refine ⟨left.take memory.length, left.drop memory.length, right.drop memory.length,
    (List.take_append_drop _ _).symm, ?_, ?_, ?_⟩
  · rw [front]
    exact (List.take_append_drop _ _).symm
  · have whole : left.Perm right := by
      rw [List.perm_ext_iff_of_nodup leftDistinct.of_map rightDistinct.of_map]
      intro entry
      rw [mem_iff_lookup leftDistinct, mem_iff_lookup rightDistinct, lookups]
    rw [← List.take_append_drop memory.length left, ← List.take_append_drop memory.length right,
      front] at whole
    exact (List.perm_append_left_iff _).mp whole
  · intro entry member
    have held := (mem_iff_lookup leftDistinct).mp (List.mem_of_mem_drop member)
    rw [← first, lookup_foldl_put] at held
    rcases mem_of_foldl_pick held with before | item
    · exfalso
      have inFront : entry.1 ∈ (left.take memory.length).map Prod.fst := by
        rw [leftKeys]
        exact List.mem_map_of_mem (mem_of_lookup before)
      rw [← List.take_append_drop memory.length left, List.map_append] at leftDistinct
      exact List.disjoint_of_nodup_append leftDistinct inFront (List.mem_map_of_mem member)
    · exact item

/-- No item is newer than the one that its key ends with, and that one only if it is it. -/
theorem foldl_put_top (ranks : ∀ item ∈ items, ∀ other ∈ items, rank item = rank other →
    item = other) :
    ∀ item ∈ items, ∃ top, (items.foldl (put key rank) memory).lookup (key item) = some top ∧
      rank item ≤ rank top ∧ (rank top ≤ rank item → top = item) := by
  induction items using List.reverseRecOn with
  | nil =>
      intro item member
      cases member
  | append_singleton earlier last induction =>
      have earlierRanks : ∀ item ∈ earlier, ∀ other ∈ earlier, rank item = rank other →
          item = other := fun item member other otherMember =>
        ranks item (List.mem_append_left _ member) other (List.mem_append_left _ otherMember)
      intro item member
      rw [List.foldl_append, List.foldl_cons, List.foldl_nil, lookup_put]
      rcases List.mem_append.mp member with before | now
      · rcases induction earlierRanks item before with ⟨top, held, least, only⟩
        rw [held, pick]
        by_cases same : key last = key item
        · rw [if_pos same]
          split
          · rename_i newer
            refine ⟨last, rfl, le_trans least newer, ?_⟩
            intro low
            exact ranks last (List.mem_append_right _ (List.mem_singleton_self last)) item member
              (le_antisymm low (le_trans least newer))
          · exact ⟨top, rfl, least, only⟩
        · rw [if_neg same]
          exact ⟨top, rfl, least, only⟩
      · rw [List.mem_singleton] at now
        subst now
        unfold pick
        rw [if_pos rfl]
        split
        · exact ⟨item, rfl, le_refl _, fun _ => rfl⟩
        · rename_i previous _
          split
          · exact ⟨item, rfl, le_refl _, fun _ => rfl⟩
          · rename_i older
            have below := lt_of_not_ge older
            exact ⟨previous, rfl, le_of_lt below, fun low => absurd low (not_le_of_gt below)⟩

/-- Items that are not newer than what is there change nothing, and items with new keys come
behind it. -/
theorem foldl_put_append (tops : ∀ item ∈ items, key item ∈ memory.map Prod.fst →
      ∃ top, memory.lookup (key item) = some top ∧ (rank top ≤ rank item → top = item))
    (distinct : (memory.map Prod.fst).Nodup)
    (single : ((items.filter fun item => key item ∉ memory.map Prod.fst).map key).Nodup) :
    items.foldl (put key rank) memory =
      memory ++ (items.filter fun item => key item ∉ memory.map Prod.fst).map fun item =>
        (key item, item) := by
  induction items generalizing memory with
  | nil => exact (List.append_nil memory).symm
  | cons item rest induction =>
      have laterTops := fun other member => tops other (List.mem_cons_of_mem _ member)
      by_cases present : key item ∈ memory.map Prod.fst
      · rcases tops item List.mem_cons_self present with ⟨top, held, only⟩
        have unchanged : put key rank memory item = memory := by
          rw [put, held]
          dsimp only
          split
          · rename_i newer
            have same := only newer
            subst same
            exact assign_of_lookup distinct held
          · rfl
        rw [List.filter_cons_of_neg (by simpa using present)] at single ⊢
        rw [List.foldl_cons, unchanged]
        exact induction laterTops distinct single
      · have absent : memory.lookup (key item) = none := by
          cases held : memory.lookup (key item) with
          | none => rfl
          | some top => exact absurd (List.mem_map_of_mem (mem_of_lookup held)) present
        have grown : put key rank memory item = memory ++ [(key item, item)] := by
          rw [put, absent]
          exact assign_of_notMem item present
        have keys : (memory ++ [(key item, item)]).map Prod.fst =
            memory.map Prod.fst ++ [key item] := by
          rw [List.map_append]
          rfl
        rw [List.filter_cons_of_pos (by simpa using present)] at single ⊢
        rcases List.nodup_cons.mp single with ⟨apart, later⟩
        -- No later item with a new key has this one.
        have other : ∀ late ∈ rest, key late ∉ memory.map Prod.fst → key late ≠ key item := by
          intro late member new same
          apply apart
          rw [← same]
          exact List.mem_map_of_mem (List.mem_filter.mpr ⟨member, decide_eq_true new⟩)
        have filters : (rest.filter fun late =>
              key late ∉ (memory ++ [(key item, item)]).map Prod.fst) =
            rest.filter fun late => key late ∉ memory.map Prod.fst := by
          apply List.filter_congr
          intro late member
          rw [keys, decide_eq_decide, List.mem_append, List.mem_singleton, not_or]
          exact ⟨And.left, fun new => ⟨new, other late member new⟩⟩
        have step := @induction (memory ++ [(key item, item)]) (by
          intro late member held
          rw [keys, List.mem_append, List.mem_singleton] at held
          have old : key late ∈ memory.map Prod.fst := by
            by_contra new
            exact held.elim new (other late member new)
          rcases laterTops late member old with ⟨top, found, only⟩
          refine ⟨top, ?_, only⟩
          rw [List.lookup_append, found, Option.some_or]) (by
          rw [keys, List.nodup_append]
          refine ⟨distinct, List.nodup_singleton _, ?_⟩
          intro first firstMember second secondMember equal
          rw [List.mem_singleton] at secondMember
          exact present (secondMember ▸ equal ▸ firstMember)) (by
          rw [filters]
          exact later)
        rw [List.foldl_cons, grown, step, filters, List.append_assoc]
        rfl

end

/-! ## Stable sorting -/

section

variable {le : Item → Item → Prop} [DecidableRel le]

/-- Sorting leaves items that stand for one another in their order. -/
theorem filter_insertionSort {chosen : Item → Bool}
    (alike : ∀ item other, chosen item = true → chosen other = true → le item other)
    (items : List Item) :
    (items.insertionSort le).filter chosen = items.filter chosen := by
  have inserted (item : Item) (sorted : List Item) :
      (sorted.orderedInsert le item).filter chosen = (item :: sorted).filter chosen := by
    induction sorted with
    | nil => rfl
    | cons head rest induction =>
        rw [List.orderedInsert_cons]
        split
        · rfl
        · rename_i behind
          rw [List.filter_cons, induction]
          by_cases both : chosen item = true ∧ chosen head = true
          · exact absurd (alike item head both.1 both.2) behind
          · cases first : chosen item <;> cases second : chosen head <;> simp_all
  induction items with
  | nil => rfl
  | cons item rest induction =>
      rw [List.insertionSort_cons, inserted, List.filter_cons, List.filter_cons, induction]

variable {rank : Item → Rank}

/-- Two sorted lists are equal when their items of each rank stand in one order. -/
theorem eq_of_ranks {left right : List Item}
    (leftSorted : left.Pairwise fun first second => rank first ≤ rank second)
    (rightSorted : right.Pairwise fun first second => rank first ≤ rank second)
    (same : ∀ value, left.filter (fun item => rank item = value) =
      right.filter fun item => rank item = value) : left = right := by
  induction left generalizing right with
  | nil =>
      cases right with
      | nil => rfl
      | cons head rest =>
          have found := same (rank head)
          rw [List.filter_cons_of_pos (by simp)] at found
          cases found
  | cons first left induction =>
      cases right with
      | nil =>
          have found := same (rank first)
          rw [List.filter_cons_of_pos (by simp)] at found
          cases found
      | cons head right =>
          rcases List.pairwise_cons.mp leftSorted with ⟨leftLeast, leftRest⟩
          rcases List.pairwise_cons.mp rightSorted with ⟨rightLeast, rightRest⟩
          have headLe : rank head ≤ rank first := by
            have member : first ∈ (head :: right).filter fun item => rank item = rank first := by
              rw [← same (rank first)]
              exact List.mem_filter.mpr ⟨List.mem_cons_self, by simp⟩
            rcases List.mem_cons.mp (List.mem_filter.mp member).1 with equal | later
            · exact le_of_eq (congrArg rank equal.symm)
            · exact rightLeast first later
          have firstLe : rank first ≤ rank head := by
            have member : head ∈ (first :: left).filter fun item => rank item = rank head := by
              rw [same (rank head)]
              exact List.mem_filter.mpr ⟨List.mem_cons_self, by simp⟩
            rcases List.mem_cons.mp (List.mem_filter.mp member).1 with equal | later
            · exact le_of_eq (congrArg rank equal.symm)
            · exact leftLeast head later
          have level : rank first = rank head := le_antisymm firstLe headLe
          have heads := same (rank first)
          rw [List.filter_cons_of_pos (by simp), List.filter_cons_of_pos (by simp [level])] at heads
          rcases List.cons.inj heads with ⟨equal, _⟩
          subst equal
          apply congrArg (List.cons first)
          apply induction leftRest rightRest
          intro value
          have both := same value
          rw [List.filter_cons, List.filter_cons] at both
          split at both
          · exact (List.cons.inj both).2
          · exact both

end

section

variable {rank : Item → Rank}

/-- Items in front that stand in their order within each rank are sorted before items that come
late, when none of those has a lower rank. -/
theorem insertionSort_append_late {front sorted late : List Item}
    (order : sorted.Pairwise fun first second => rank first ≤ rank second)
    (same : ∀ value, front.filter (fun item => rank item = value) =
      sorted.filter fun item => rank item = value)
    (behind : ∀ item ∈ sorted, ∀ other ∈ late, rank item ≤ rank other) :
    (front ++ late).insertionSort (fun first second => rank first ≤ rank second) =
      sorted ++ late.insertionSort fun first second => rank first ≤ rank second := by
  have alike (value : Rank) (items : List Item) :
      (items.insertionSort fun first second => rank first ≤ rank second).filter
        (fun item => rank item = value) = items.filter fun item => rank item = value := by
    apply filter_insertionSort
    intro item other itemValue otherValue
    exact le_of_eq ((of_decide_eq_true itemValue).trans (of_decide_eq_true otherValue).symm)
  have lateOrder := List.pairwise_insertionSort (fun first second => rank first ≤ rank second) late
  apply eq_of_ranks (List.pairwise_insertionSort _ _)
  · rw [List.pairwise_append]
    refine ⟨order, lateOrder, ?_⟩
    intro item member other otherMember
    exact behind item member other ((List.perm_insertionSort _ late).subset otherMember)
  · intro value
    rw [alike, List.filter_append, List.filter_append, alike, same]

end

section

variable {le : Item → Item → Prop} [DecidableRel le] [Std.Total le] [IsTrans Item le]

/-- A rearrangement of items that their order tells apart is sorted alike behind other items. -/
theorem insertionSort_append_perm {front new new' : List Item} (same : new.Perm new')
    (distinct : ∀ item ∈ new, ∀ other ∈ new, le item other → le other item → item = other) :
    (front ++ new).insertionSort le = (front ++ new').insertionSort le := by
  have sorted := Grouping.insertionSort_congr same distinct
  induction front with
  | nil => exact sorted
  | cons item rest induction =>
      rw [List.cons_append, List.cons_append, List.insertionSort_cons, List.insertionSort_cons,
        induction]

end

end Newest

end Foundation
