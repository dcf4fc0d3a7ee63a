import Mathlib.Data.List.Nodup
import Mathlib.Data.List.Perm.Basic

/-! # Selection under a budget

Items are taken in order of preference while they fit, and items are taken away again until
the whole fits. What is not selected is returned beside what is. -/

namespace Foundation

namespace Selection

section

variable {Item : Type}

/-! ## Taking what fits -/

/-- The items that fit and those that do not. An item that does not fit is passed over. -/
def fit (cost : Item → Nat) (budget : Int) : Nat → List Item → List Item × List Item
  | _, [] => ([], [])
  | used, item :: rest =>
      if budget < used + cost item then
        let (taken, passed) := fit cost budget used rest
        (taken, item :: passed)
      else
        let (taken, passed) := fit cost budget (used + cost item) rest
        (item :: taken, passed)

theorem fit_perm (cost : Item → Nat) (budget : Int) (items : List Item) : ∀ used,
    ((fit cost budget used items).1 ++ (fit cost budget used items).2).Perm items := by
  induction items with
  | nil =>
      intro used
      exact List.Perm.refl _
  | cons item rest induction =>
      intro used
      rw [fit]
      split
      · exact (List.perm_middle).trans ((induction used).cons item)
      · exact (induction (used + cost item)).cons item

/-! ## Taking away -/

/-- Take the last item that may go. -/
def popLast? (removable : Item → Bool) : List Item → Option (Item × List Item)
  | [] => none
  | item :: rest => match popLast? removable rest with
      | some (removed, kept) => some (removed, item :: kept)
      | none => if removable item then some (item, rest) else none

variable {removable : Item → Bool}

theorem popLast?_spec {items kept : List Item} {removed : Item}
    (popped : popLast? removable items = some (removed, kept)) :
    removable removed = true ∧ kept.Sublist items ∧ (removed :: kept).Perm items := by
  induction items generalizing kept with
  | nil => cases popped
  | cons item rest induction =>
      rw [popLast?] at popped
      cases later : popLast? removable rest with
      | some pair =>
          rcases pair with ⟨other, others⟩
          rw [later] at popped
          cases popped
          rcases induction later with ⟨may, part, same⟩
          refine ⟨may, part.cons_cons item, ?_⟩
          exact (List.Perm.swap item removed others).trans (same.cons item)
      | none =>
          rw [later] at popped
          by_cases may : removable item = true
          · simp only [may, if_true, Option.some.injEq, Prod.mk.injEq] at popped
            rcases popped with ⟨rfl, rfl⟩
            exact ⟨may, List.sublist_cons_self item rest, List.Perm.refl _⟩
          · simp only [may] at popped
            cases popped

theorem popLast?_eq_none {items : List Item} (nothing : popLast? removable items = none) :
    ∀ item ∈ items, removable item = false := by
  induction items with
  | nil => simp
  | cons item rest induction =>
      rw [popLast?] at nothing
      cases later : popLast? removable rest with
      | some pair =>
          rw [later] at nothing
          cases nothing
      | none =>
          rw [later] at nothing
          intro other member
          rcases List.mem_cons.mp member with rfl | inside
          · simpa using nothing
          · exact induction later other inside

/-- What goes is the last item that may go. -/
theorem popLast?_split {items kept : List Item} {removed : Item}
    (popped : popLast? removable items = some (removed, kept)) :
    ∃ front back, items = front ++ removed :: back ∧ kept = front ++ back ∧
      ∀ item ∈ back, removable item = false := by
  induction items generalizing kept with
  | nil => cases popped
  | cons item rest induction =>
      rw [popLast?] at popped
      cases later : popLast? removable rest with
      | some pair =>
          rcases pair with ⟨other, others⟩
          rw [later] at popped
          cases popped
          rcases induction later with ⟨front, back, whole, left, none⟩
          exact ⟨item :: front, back, congrArg (item :: ·) whole, congrArg (item :: ·) left, none⟩
      | none =>
          rw [later] at popped
          by_cases may : removable item = true
          · simp only [may, if_true, Option.some.injEq, Prod.mk.injEq] at popped
            rcases popped with ⟨rfl, rfl⟩
            exact ⟨[], rest, rfl, rfl, popLast?_eq_none later⟩
          · simp only [may] at popped
            cases popped

/-- What is left when everything that may go goes from the second part. -/
def cut (removable : Item → Bool) (front back : List Item) : List Item :=
  front ++ back.filter fun item => !removable item

theorem cut_eq_append (front : List Item) {back : List Item}
    (none : ∀ item ∈ back, removable item = false) : cut removable front back = front ++ back := by
  rw [cut, List.filter_eq_self.mpr (by simpa using none)]

/-- Take items away from the end until the rest fits; none when nothing more may go. Every
round takes one item, so the length of the list bounds the rounds. -/
def trim (fits : List Item → Bool) (removable : Item → Bool) :
    Nat → List Item → Option (List Item × List Item)
  | 0, items => if fits items then some (items, []) else none
  | rounds + 1, items =>
      if fits items then some (items, [])
      else match popLast? removable items with
        | none => none
        | some (removed, kept) =>
            (trim fits removable rounds kept).map fun (final, others) =>
              (final, removed :: others)

structure Trimmed (fits : List Item → Bool) (removable : Item → Bool)
    (items kept removed : List Item) : Prop where
  fits : fits kept = true
  part : kept.Sublist items
  whole : (kept ++ removed).Perm items
  removable : ∀ item ∈ removed, removable item = true

theorem trim_spec {fits : List Item → Bool} {rounds : Nat} {items kept removed : List Item}
    (trimmed : trim fits removable rounds items = some (kept, removed)) :
    Trimmed fits removable items kept removed := by
  have unchanged {items kept removed : List Item} (fit : fits items = true)
      (same : some (items, []) = some (kept, removed)) :
      Trimmed fits removable items kept removed := by
    cases same
    refine ⟨fit, List.Sublist.refl _, ?_, ?_⟩
    · rw [List.append_nil]
    · intro item member
      cases member
  induction rounds generalizing items removed with
  | zero =>
      rw [trim] at trimmed
      split at trimmed
      · rename_i fit
        exact unchanged fit trimmed
      · cases trimmed
  | succ rounds induction =>
      rw [trim] at trimmed
      split at trimmed
      · rename_i fit
        exact unchanged fit trimmed
      · split at trimmed
        · cases trimmed
        · rename_i first left popped
          rcases Option.map_eq_some_iff.mp trimmed with ⟨⟨final, others⟩, rest, equal⟩
          cases equal
          rcases popLast?_spec popped with ⟨may, part, same⟩
          have inner := induction rest
          refine ⟨inner.fits, inner.part.trans part, ?_, ?_⟩
          · exact (List.perm_middle).trans ((inner.whole.cons first).trans same)
          · intro item member
            rcases List.mem_cons.mp member with rfl | member
            · exact may
            · exact inner.removable item member

/-- Trimming has cut the items behind some place, and no cut that takes fewer away fits. -/
structure CutAt (fits : List Item → Bool) (removable : Item → Bool)
    (items kept removed front back : List Item) : Prop where
  whole : items = front ++ back
  kept : kept = cut removable front back
  removed : removed = (back.filter removable).reverse
  first : ∀ before after, items = before ++ after →
    after.countP removable < back.countP removable →
    fits (cut removable before after) = false

/-- A cut of what is left once the last item is gone is a cut of all. -/
theorem cut_of_popped {front back before after : List Item} {item : Item}
    (may : removable item = true) (none : ∀ other ∈ back, removable other = false)
    (split : front ++ back = before ++ after) :
    ∃ rest, front ++ item :: back = before.take front.length ++ rest ∧
      cut removable (before.take front.length) rest = cut removable before after ∧
      (rest.filter removable).reverse = item :: (after.filter removable).reverse := by
  have nothing : back.filter removable = [] := by
    apply List.filter_eq_nil_iff.mpr
    simpa using none
  have all : (back.filter fun other => !removable other) = back :=
    List.filter_eq_self.mpr (by simpa using none)
  rcases List.append_eq_append_iff.mp split with ⟨between, rfl, rfl⟩ | ⟨between, rfl, rfl⟩
  · refine ⟨item :: (between ++ after), ?_, ?_, ?_⟩
    · simp
    · simp only [List.mem_append] at none
      have later : (between.filter fun other => !removable other) = between :=
        List.filter_eq_self.mpr (by simpa using fun other member => none other (.inl member))
      simp [cut, may, later]
    · rw [List.filter_cons_of_pos (by simpa using may), List.filter_append] at *
      have parts := List.append_eq_nil_iff.mp nothing
      simp [parts.1, parts.2]
  · have shorter : before.take (before.length + between.length) = before :=
      List.take_of_length_le (Nat.le_add_right _ _)
    refine ⟨between ++ item :: back, ?_, ?_, ?_⟩
    · simp [shorter]
    · simp [cut, may, all, shorter]
    · simp [nothing, may]

theorem trim_cutAt {fits : List Item → Bool} {rounds : Nat} {items kept removed : List Item}
    (trimmed : trim fits removable rounds items = some (kept, removed)) :
    ∃ front back, CutAt fits removable items kept removed front back := by
  have whole {items kept removed : List Item}
      (same : some (items, []) = some (kept, removed)) :
      ∃ front back, CutAt fits removable items kept removed front back := by
    cases same
    refine ⟨items, [], (List.append_nil items).symm, ?_, rfl, ?_⟩
    · simp [cut]
    · intro before after _ fewer
      cases fewer
  induction rounds generalizing items removed with
  | zero =>
      rw [trim] at trimmed
      split at trimmed
      · exact whole trimmed
      · cases trimmed
  | succ rounds induction =>
      rw [trim] at trimmed
      split at trimmed
      · exact whole trimmed
      · rename_i unfit
        split at trimmed
        · cases trimmed
        · rename_i item left popped
          rcases Option.map_eq_some_iff.mp trimmed with ⟨⟨final, others⟩, rest, equal⟩
          cases equal
          have may := (popLast?_spec popped).1
          rcases popLast?_split popped with ⟨before, after, rfl, rfl, none⟩
          rcases induction rest with ⟨front, back, inner⟩
          rcases cut_of_popped may none inner.whole with ⟨tail, split, same, gone⟩
          refine ⟨front.take before.length, tail, split, ?_, ?_, ?_⟩
          · rw [same]
            exact inner.kept
          · rw [gone, inner.removed]
          · intro others later splitOthers fewer
            have count : tail.countP removable = back.countP removable + 1 := by
              have lengths := congrArg List.length gone
              simpa [List.countP_eq_length_filter] using lengths
            have removes : after.countP removable = 0 :=
              List.countP_eq_zero.mpr (by simpa using none)
            rcases List.append_eq_append_iff.mp splitOthers with
              ⟨between, rfl, equal⟩ | ⟨between, rfl, rfl⟩
            · cases between with
              | nil =>
                  cases equal
                  rw [List.countP_cons_of_pos may] at fewer
                  have earlier := inner.first before after rfl (by omega)
                  simpa [cut, may] using earlier
              | cons head between =>
                  cases equal
                  rw [cut_eq_append _ fun other member => none other (by simp [member])]
                  simpa using unfit
            · rw [List.countP_append, List.countP_cons_of_pos may] at fewer
              have earlier := inner.first others (between ++ after) (by simp) (by
                rw [List.countP_append]
                omega)
              simpa [cut, may] using earlier

/-- Of two cuts, the one that takes more away has everything behind it that may go and that
the other one has behind it. -/
theorem mem_of_countP_le {front back before after : List Item}
    (split : front ++ back = before ++ after)
    (fewer : back.countP removable ≤ after.countP removable) :
    (∀ item ∈ back, removable item = true → item ∈ after) ∧
      ∀ item ∈ before, removable item = true → item ∈ front := by
  rcases List.append_eq_append_iff.mp split with ⟨between, rfl, rfl⟩ | ⟨between, rfl, rfl⟩
  · rw [List.countP_append] at fewer
    have still : between.countP removable = 0 := by omega
    rw [List.countP_eq_zero] at still
    constructor
    · intro item member may
      rcases List.mem_append.mp member with inside | behind
      · exact absurd may (still item inside)
      · exact behind
    · intro item member may
      rcases List.mem_append.mp member with ahead | inside
      · exact ahead
      · exact absurd may (still item inside)
  · exact ⟨fun item member _ => List.mem_append_right _ member,
      fun item member _ => List.mem_append_left _ member⟩

/-- Some of the items that may go are taken away in the order of the list just when none of
them has to go, or none of them can stay. -/
theorem CutAt.ordered_iff {removable chosen : Item → Bool} {enough : List Item → Bool}
    {items kept removed front back : List Item}
    (at_ : CutAt enough removable items kept removed front back) (fit : enough kept = true)
    (may : ∀ item, chosen item = true → removable item = true) :
    (∀ earlier item, [earlier, item].Sublist items → chosen earlier = true →
      chosen item = true → item ∈ removed → earlier ∉ kept) ↔
    (∃ before after, items = before ++ after ∧ (∀ item ∈ after, chosen item = false) ∧
      enough (cut removable before after) = true) ∨
    ∀ before after, items = before ++ after → (∃ item ∈ before, chosen item = true) →
      enough (cut removable before after) = false := by
  rcases at_ with ⟨rfl, rfl, rfl, first⟩
  constructor
  · intro ordered
    by_cases goes : ∃ item ∈ back, chosen item = true
    · right
      rcases goes with ⟨item, behind, chosenItem⟩
      intro before after split stays
      rcases stays with ⟨earlier, ahead, chosenEarlier⟩
      by_contra fitting
      have fewer : back.countP removable ≤ after.countP removable := by
        by_contra more
        exact fitting (first before after split (by omega))
      have inFront := (mem_of_countP_le split fewer).2 earlier ahead (may _ chosenEarlier)
      have pair : [earlier, item].Sublist (front ++ back) :=
        (List.singleton_sublist.mpr inFront).append (List.singleton_sublist.mpr behind)
      apply ordered earlier item pair chosenEarlier chosenItem
      · simp [behind, may item chosenItem]
      · exact List.mem_append_left _ inFront
    · left
      refine ⟨front, back, rfl, ?_, fit⟩
      intro item member
      by_contra chosenItem
      exact goes ⟨item, member, by simpa using chosenItem⟩
  · intro either earlier item _ chosenEarlier chosenItem gone stays
    have behind : item ∈ back := by
      simp only [List.mem_reverse, List.mem_filter] at gone
      exact gone.1
    rcases either with ⟨before, after, split, spared, fitting⟩ | hopeless
    · have fewer : back.countP removable ≤ after.countP removable := by
        by_contra more
        rw [first before after split (by omega)] at fitting
        cases fitting
      have later := (mem_of_countP_le split fewer).1 item behind (may _ chosenItem)
      rw [spared item later] at chosenItem
      cases chosenItem
    · rcases List.mem_append.mp stays with ahead | kept
      · rw [hopeless front back rfl ⟨earlier, ahead, chosenEarlier⟩] at fit
        cases fit
      · have stuck := (List.mem_filter.mp kept).2
        rw [may earlier chosenEarlier] at stuck
        cases stuck

/-- Where a part fits as soon as the whole does, trimming ends just when what may not go fits. -/
theorem trim_isSome_iff {fits : List Item → Bool} {rounds : Nat} {items : List Item}
    (rounds_le : items.length ≤ rounds)
    (mono : ∀ part whole : List Item, part.Sublist whole → fits whole = true →
      fits part = true) :
    (trim fits removable rounds items).isSome = true ↔
      fits (items.filter fun item => !removable item) = true := by
  constructor
  · intro ends
    rcases Option.isSome_iff_exists.mp ends with ⟨⟨kept, removed⟩, trimmed⟩
    have fit := (trim_spec trimmed).fits
    rcases trim_cutAt trimmed with ⟨front, back, rfl, rfl, _, _⟩
    apply mono _ _ _ fit
    rw [List.filter_append, cut]
    exact List.filter_sublist.append_right _
  · intro stuck
    induction rounds generalizing items with
    | zero =>
        have empty : items = [] := List.eq_nil_of_length_eq_zero (by omega)
        subst empty
        have fit : fits [] = true := stuck
        rw [trim, if_pos fit]
        rfl
    | succ rounds induction =>
        rw [trim]
        split
        · rfl
        · rename_i unfit
          cases popped : popLast? removable items with
          | none =>
              rw [List.filter_eq_self.mpr (by simpa using popLast?_eq_none popped)] at stuck
              exact absurd stuck unfit
          | some pair =>
              rcases pair with ⟨item, left⟩
              have goes := (popLast?_spec popped).1
              rcases popLast?_split popped with ⟨front, back, rfl, rfl, _⟩
              rw [Option.isSome_map]
              apply induction
              · simp at rounds_le ⊢
                omega
              · simpa [goes] using stuck

theorem not_sublist_of_nodup {whole : List Item} {earlier item : Item} (distinct : whole.Nodup)
    (pair : [earlier, item].Sublist whole) : ¬[item, earlier].Sublist whole := by
  intro back
  rcases List.cons_sublist_iff.mp pair with ⟨front, rest, rfl, earlierAhead, itemBehind⟩
  rcases List.cons_sublist_iff.mp back with ⟨left, right, split, itemAhead, earlierBehind⟩
  rw [List.singleton_sublist] at itemBehind earlierBehind
  rcases List.append_eq_append_iff.mp split with ⟨between, rfl, _⟩ | ⟨between, rfl, _⟩
  · rw [split] at distinct
    exact List.disjoint_of_nodup_append distinct (List.mem_append_left _ earlierAhead)
      earlierBehind
  · exact List.disjoint_of_nodup_append distinct (List.mem_append_left _ itemAhead) itemBehind

/-- Two items that stand in a part stand there in the order of the whole. -/
theorem pair_sublist_of_part {part whole : List Item} {earlier item : Item}
    (sublist : part.Sublist whole) (distinct : whole.Nodup)
    (pair : [earlier, item].Sublist whole) (earlierMember : earlier ∈ part)
    (member : item ∈ part) : [earlier, item].Sublist part := by
  rcases List.append_of_mem earlierMember with ⟨ahead, behind, rfl⟩
  rcases List.mem_append.mp member with inFront | inBack
  · exfalso
    apply not_sublist_of_nodup distinct pair
    refine List.Sublist.trans ?_ sublist
    exact (List.singleton_sublist.mpr inFront).append
      (List.singleton_sublist.mpr List.mem_cons_self)
  · rcases List.mem_cons.mp inBack with same | later
    · subst same
      exact absurd (pair.nodup distinct) (by simp)
    · exact (List.singleton_sublist.mpr later).cons_cons earlier |>.trans
        (List.sublist_append_right _ _)

end

/-! ## By key -/

section

variable {Item Key : Type} [DecidableEq Key] (key : Item → Key)

/-- With distinct keys, the items that have the keys of one part are that part. -/
theorem filter_keys_perm {items part rest : List Item} (distinct : (items.map key).Nodup)
    (whole : (part ++ rest).Perm items) :
    (items.filter fun item => key item ∈ part.map key).Perm part := by
  have keysDistinct : ((part ++ rest).map key).Nodup :=
    (whole.map key).nodup_iff.mpr distinct
  have own : (part.filter fun item => key item ∈ part.map key) = part := by
    apply List.filter_eq_self.mpr
    intro item member
    exact decide_eq_true (List.mem_map_of_mem member)
  have foreign : (rest.filter fun item => key item ∈ part.map key) = [] := by
    apply List.filter_eq_nil_iff.mpr
    intro item member shared
    rw [List.map_append] at keysDistinct
    exact (List.disjoint_of_nodup_append keysDistinct) (of_decide_eq_true shared)
      (List.mem_map_of_mem member)
  have filtered := (whole.filter fun item => key item ∈ part.map key).symm
  rw [List.filter_append, own, foreign, List.append_nil] at filtered
  exact filtered

end

end Selection

end Foundation
