import Mathlib.Tactic.Positivity
import Mathlib.Tactic.Linarith

/-! # Fusing ranked channels

Each channel is a list of keys, the best first, and gives a key the reciprocal of its
rank. What is no worse in every channel scores higher, and stands first in an order by
score; it keeps its place when the first keys of the channels are moved to the front. -/

namespace Foundation

namespace RankFusion

/-! ## One item before another -/

section Order

variable {Item : Type} {first second : Item} {items : List Item}

theorem sublist_or_of_mem (firstMember : first ∈ items) (secondMember : second ∈ items)
    (different : first ≠ second) :
    [first, second].Sublist items ∨ [second, first].Sublist items := by
  induction items with
  | nil => cases firstMember
  | cons item rest induction =>
      rcases List.mem_cons.mp firstMember with firstIs | firstLater
      · subst firstIs
        rcases List.mem_cons.mp secondMember with secondIs | secondLater
        · exact absurd secondIs.symm different
        · exact .inl ((List.singleton_sublist.mpr secondLater).cons_cons first)
      · rcases List.mem_cons.mp secondMember with secondIs | secondLater
        · subst secondIs
          exact .inr ((List.singleton_sublist.mpr firstLater).cons_cons second)
        · rcases induction firstLater secondLater with ordered | ordered
          · exact .inl (ordered.cons item)
          · exact .inr (ordered.cons item)

/-- In an ordered list an item stands before another that may not stand before it. -/
theorem sublist_of_pairwise {before : Item → Item → Prop} (ordered : items.Pairwise before)
    (firstMember : first ∈ items) (secondMember : second ∈ items)
    (different : first ≠ second) (behind : ¬before second first) :
    [first, second].Sublist items := by
  rcases sublist_or_of_mem firstMember secondMember different with wanted | other
  · exact wanted
  · exact absurd (List.pairwise_pair.mp (ordered.sublist other)) behind

/-- Moving some items to the front keeps two in their order, unless it moves the
second of them alone. -/
theorem sublist_partition {front : Item → Bool} (ordered : [first, second].Sublist items)
    (moved : front second = true → front first = true) :
    [first, second].Sublist (items.filter front ++ items.filter fun item => !front item) := by
  by_cases firstFront : front first = true
  · by_cases secondFront : front second = true
    · have kept := ordered.filter front
      rw [List.filter_cons_of_pos firstFront, List.filter_cons_of_pos secondFront] at kept
      exact kept.trans (List.sublist_append_left _ _)
    · have inFront : first ∈ items.filter front :=
        List.mem_filter.mpr ⟨ordered.subset List.mem_cons_self, firstFront⟩
      have inRest : second ∈ items.filter fun item => !front item :=
        List.mem_filter.mpr ⟨ordered.subset (List.mem_cons_of_mem _ List.mem_cons_self),
          by simpa using secondFront⟩
      exact (List.singleton_sublist.mpr inFront).append (List.singleton_sublist.mpr inRest)
  · have secondRest : ¬front second = true := fun holds => firstFront (moved holds)
    have kept := ordered.filter fun item => !front item
    rw [List.filter_cons_of_pos (by simpa using firstFront),
      List.filter_cons_of_pos (by simpa using secondRest)] at kept
    exact kept.trans (List.sublist_append_right _ _)

end Order

/-! ## Reciprocal ranks -/

section Scores

variable {Key : Type} [DecidableEq Key] {constant : Nat} {channel : List Key} {key other : Key}

/-- What a channel gives a key: the reciprocal of its rank, counted from one. -/
def channelScore (constant : Nat) (channel : List Key) (key : Key) : ℚ :=
  if key ∈ channel then 1 / ((constant + (channel.idxOf key + 1) : Nat) : ℚ) else 0

theorem channelScore_of_mem (present : key ∈ channel) : channelScore constant channel key =
    1 / ((constant + (channel.idxOf key + 1) : Nat) : ℚ) := if_pos present

theorem channelScore_of_notMem (absent : key ∉ channel) :
    channelScore constant channel key = 0 := if_neg absent

theorem channelScore_pos (present : key ∈ channel) : 0 < channelScore constant channel key := by
  rw [channelScore_of_mem present]
  positivity

theorem mem_of_idxOf_le (noWorse : channel.idxOf key ≤ channel.idxOf other)
    (present : other ∈ channel) : key ∈ channel := by
  have below := List.idxOf_lt_length_of_mem present
  exact List.idxOf_lt_length_iff.mp (by omega)

/-- The first of a channel is no worse than anything, and nothing else is no worse than it. -/
theorem eq_of_idxOf_le (noWorse : channel.idxOf key ≤ channel.idxOf other)
    (first : other ∈ channel.take 1) : key = other := by
  cases channel with
  | nil => cases first
  | cons head rest =>
      have headIs : other = head := List.mem_singleton.mp first
      subst headIs
      rw [List.idxOf_cons_self] at noWorse
      by_contra different
      rw [List.idxOf_cons_ne _ (Ne.symm different)] at noWorse
      omega

theorem channelScore_le (noWorse : channel.idxOf key ≤ channel.idxOf other) :
    channelScore constant channel other ≤ channelScore constant channel key := by
  by_cases present : other ∈ channel
  · rw [channelScore_of_mem present, channelScore_of_mem (mem_of_idxOf_le noWorse present)]
    apply one_div_le_one_div_of_le
    · positivity
    · exact_mod_cast (by omega : constant + (channel.idxOf key + 1) ≤
        constant + (channel.idxOf other + 1))
  · rw [channelScore_of_notMem present]
    by_cases own : key ∈ channel
    · exact (channelScore_pos own).le
    · rw [channelScore_of_notMem own]

theorem channelScore_lt (noWorse : channel.idxOf key ≤ channel.idxOf other)
    (different : key ≠ other) (present : key ∈ channel) :
    channelScore constant channel other < channelScore constant channel key := by
  by_cases otherPresent : other ∈ channel
  · have apart : channel.idxOf key ≠ channel.idxOf other := by
      intro same
      exact different ((List.idxOf_inj present).mp same)
    rw [channelScore_of_mem present, channelScore_of_mem otherPresent]
    apply one_div_lt_one_div_of_lt
    · positivity
    · exact_mod_cast (by omega : constant + (channel.idxOf key + 1) <
        constant + (channel.idxOf other + 1))
  · rw [channelScore_of_notMem otherPresent]
    exact channelScore_pos present

/-- The reciprocals of the places at which a key stands are what the channel gives it. -/
theorem sum_reciprocals {Hit : Type} {keyOf : Hit → Key} {hits : List Hit}
    (distinct : (hits.map keyOf).Nodup) (key : Key) (start : Nat) :
    ((hits.zipIdx start).map fun ranked =>
        if keyOf ranked.1 = key then 1 / ((constant + ranked.2 : Nat) : ℚ) else 0).sum =
      if key ∈ hits.map keyOf then
        1 / ((constant + ((hits.map keyOf).idxOf key + start) : Nat) : ℚ) else 0 := by
  induction hits generalizing start with
  | nil => simp
  | cons hit rest induction =>
      rw [List.map_cons, List.nodup_cons] at distinct
      rw [List.zipIdx_cons, List.map_cons, List.sum_cons, induction distinct.2, List.map_cons]
      by_cases here : keyOf hit = key
      · subst here
        simp [distinct.1]
      · by_cases later : key ∈ rest.map keyOf
        · rw [if_neg here, if_pos later, if_pos (List.mem_cons_of_mem _ later),
            List.idxOf_cons_ne _ here, zero_add]
          congr 2
          omega
        · have absent : key ∉ keyOf hit :: rest.map keyOf := by
            intro member
            rcases List.mem_cons.mp member with same | inRest
            · exact here same.symm
            · exact later inRest
          rw [if_neg here, if_neg later, if_neg absent, zero_add]

end Scores

end RankFusion

end Foundation
