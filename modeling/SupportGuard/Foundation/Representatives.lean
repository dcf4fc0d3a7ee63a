import Mathlib.Data.List.MinMax
import Mathlib.Data.Prod.Lex
import SupportGuard.Foundation.Grouping

/-! # One representative of each group

The occurrences of values in a list fall into groups: values that share something are one
group, and an occurrence of any other value is a group of its own. Of each group the value of
the greatest rank stays, of those the first. What stays is in normal form. -/

namespace Foundation

namespace Representatives

variable {Value Key Shared Rank : Type} [DecidableEq Value] [DecidableEq Key] [LinearOrder Rank]

/-- Occurrences with one key are one occurrence, or of values that share something. -/
def Separates (key : Value × Nat → Key) (shared : Value → Option Shared) : Prop :=
  ∀ first second, key first = key second ↔
    first = second ∨ ∃ common, shared first.1 = some common ∧ shared second.1 = some common

section

variable (key : Value × Nat → Key) (rank : Value → Rank)

/-- The order of the members of a group: the greater rank, then the earlier place. -/
def priority (member : Value × Nat) : Rank ×ₗ Natᵒᵈ :=
  toLex (rank member.1, OrderDual.toDual member.2)

def winnersOf (occurrences : List (Value × Nat)) : List Value :=
  ((Grouping.distinct (occurrences.map key)).filterMap fun wanted =>
    (Grouping.group key occurrences wanted).argmax (priority rank)).map Prod.fst

/-- The occurrences of the values that win their groups. -/
def kept (values : List Value) : List Value :=
  values.filter fun value => value ∈ winnersOf key rank values.zipIdx

end

variable {key : Value × Nat → Key} {shared : Value → Option Shared} {rank : Value → Rank}
  {values : List Value} {value other : Value} {common : Shared}

omit [DecidableEq Value] in
theorem mem_winnersOf {occurrences : List (Value × Nat)} :
    value ∈ winnersOf key rank occurrences ↔
      ∃ place, (value, place) ∈
        (Grouping.group key occurrences (key (value, place))).argmax (priority rank) := by
  simp only [winnersOf, List.mem_map, List.mem_filterMap]
  constructor
  · intro found
    rcases found with ⟨winner, ⟨wanted, _, best⟩, rfl⟩
    have inGroup := Grouping.mem_group.mp (List.argmax_mem best)
    refine ⟨winner.2, ?_⟩
    rw [Prod.eta, inGroup.2]
    exact best
  · intro found
    rcases found with ⟨place, best⟩
    have inGroup := Grouping.mem_group.mp (List.argmax_mem best)
    refine ⟨_, ⟨key (value, place), ?_, best⟩, rfl⟩
    exact Grouping.mem_distinct.mpr (List.mem_map_of_mem inGroup.1)

theorem exists_place (member : value ∈ values) : (value, values.idxOf value) ∈ values.zipIdx := by
  rw [List.mem_zipIdx_iff_getElem?]
  exact List.getElem?_idxOf member

theorem mem_of_place {occurrence : Value × Nat} (member : occurrence ∈ values.zipIdx) :
    occurrence.1 ∈ values ∧ values.idxOf occurrence.1 ≤ occurrence.2 := by
  rw [List.mem_zipIdx_iff_getElem?] at member
  refine ⟨List.mem_of_getElem? member, ?_⟩
  rcases List.getElem?_eq_some_iff.mp member with ⟨bound, same⟩
  by_contra earlier
  have apart := List.not_of_lt_findIdx (not_le.mp earlier)
  rw [same] at apart
  simp at apart

/-- The group of a value of the list has a best member. -/
theorem exists_best (key : Value × Nat → Key) (rank : Value → Rank) (member : value ∈ values) :
    ∃ best, (Grouping.group key values.zipIdx (key (value, values.idxOf value))).argmax
      (priority rank) = some best ∧ best ∈ values.zipIdx ∧
        key best = key (value, values.idxOf value) := by
  have own : Grouping.group key values.zipIdx (key (value, values.idxOf value)) ≠ [] :=
    List.ne_nil_of_mem (Grouping.mem_group.mpr ⟨exists_place member, rfl⟩)
  cases isBest : (Grouping.group key values.zipIdx (key (value, values.idxOf value))).argmax
      (priority rank) with
  | none => exact absurd (List.argmax_eq_none.mp isBest) own
  | some best => exact ⟨best, rfl, Grouping.mem_group.mp (List.argmax_mem isBest)⟩

/-- A value that shares nothing stays, wherever it stands. -/
theorem mem_winnersOf_of_unshared (separates : Separates key shared) (member : value ∈ values)
    (alone : shared value = none) : value ∈ winnersOf key rank values.zipIdx := by
  rw [mem_winnersOf]
  refine ⟨values.idxOf value, ?_⟩
  rcases exists_best key rank member with ⟨best, isBest, inGroup⟩
  rcases (separates _ _).mp inGroup.2 with same | ⟨common, _, found⟩
  · rw [isBest, same]
    rfl
  · rw [alone] at found
    cases found

variable (rank) in
/-- Of the values that share something one stays: none of them has a greater rank. -/
theorem exists_winner (separates : Separates key shared) (member : value ∈ values)
    (sharing : shared value = some common) :
    ∃ winner ∈ values, winner ∈ winnersOf key rank values.zipIdx ∧ shared winner = some common ∧
      ∀ rival ∈ values, shared rival = some common → rank rival < rank winner ∨
        rank rival = rank winner ∧ values.idxOf winner ≤ values.idxOf rival := by
  rcases exists_best key rank member with ⟨best, isBest, inGroup⟩
  have bestShared : shared best.1 = some common := by
    rcases (separates _ _).mp inGroup.2 with same | ⟨found, bestFound, valueFound⟩
    · rw [same]
      exact sharing
    · rw [bestFound, ← valueFound]
      exact sharing
  refine ⟨best.1, (mem_of_place inGroup.1).1, ?_, bestShared, ?_⟩
  · rw [mem_winnersOf]
    refine ⟨best.2, ?_⟩
    rw [Prod.eta, inGroup.2]
    exact isBest
  · intro rival rivalMember rivalShared
    have rivalIn : (rival, values.idxOf rival) ∈
        Grouping.group key values.zipIdx (key (value, values.idxOf value)) := by
      refine Grouping.mem_group.mpr ⟨exists_place rivalMember, ?_⟩
      exact (separates _ _).mpr (.inr ⟨common, rivalShared, sharing⟩)
    have below := List.le_of_mem_argmax rivalIn isBest
    rcases Prod.Lex.toLex_le_toLex.mp below with lower | ⟨level, later⟩
    · exact .inl lower
    · have first : values.idxOf best.1 ≤ best.2 := (mem_of_place inGroup.1).2
      exact .inr ⟨level, first.trans later⟩

omit [DecidableEq Value] in
/-- No two of the values that share something stay. -/
theorem winner_unique (separates : Separates key shared)
    (member : value ∈ winnersOf key rank values.zipIdx)
    (otherMember : other ∈ winnersOf key rank values.zipIdx)
    (sharing : shared value = some common) (otherSharing : shared other = some common) :
    value = other := by
  rcases mem_winnersOf.mp member with ⟨place, best⟩
  rcases mem_winnersOf.mp otherMember with ⟨otherPlace, otherBest⟩
  have oneGroup : key (other, otherPlace) = key (value, place) :=
    (separates _ _).mpr (.inr ⟨common, otherSharing, sharing⟩)
  rw [oneGroup] at otherBest
  exact congrArg Prod.fst (Option.mem_unique best otherBest)

/-- Another value that shares the same ranks higher, or as high and stands earlier. -/
def Outranked (shared : Value → Option Shared) (rank : Value → Rank) (values : List Value)
    (value : Value) : Prop :=
  ∃ rival ∈ values, (∃ common, shared value = some common ∧ shared rival = some common) ∧
    (rank value < rank rival ∨
      rank value = rank rival ∧ values.idxOf rival < values.idxOf value)

theorem mem_winnersOf_iff (separates : Separates key shared) (member : value ∈ values) :
    value ∈ winnersOf key rank values.zipIdx ↔ ¬Outranked shared rank values value := by
  cases sharing : shared value with
  | none =>
      apply iff_of_true (mem_winnersOf_of_unshared separates member sharing)
      intro outranked
      rcases outranked with ⟨_, _, ⟨common, found, _⟩, _⟩
      rw [sharing] at found
      cases found
  | some common =>
      rcases exists_winner rank separates member sharing with
        ⟨winner, winnerMember, wins, winnerShared, most⟩
      constructor
      · intro valueWins outranked
        have same := winner_unique separates valueWins wins sharing winnerShared
        subst same
        rcases outranked with ⟨rival, rivalMember, ⟨found, valueFound, rivalFound⟩, above⟩
        have rivalShared : shared rival = some common := by
          rw [rivalFound, ← valueFound, sharing]
        rcases most rival rivalMember rivalShared with lower | ⟨level, earlier⟩
        · rcases above with higher | ⟨level, _⟩
          · exact absurd higher (not_lt_of_gt lower)
          · exact absurd level (ne_of_gt lower)
        · rcases above with higher | ⟨_, before⟩
          · exact absurd level (ne_of_gt higher)
          · omega
      · intro free
        by_contra loses
        have apart : winner ≠ value := by
          intro same
          exact loses (same ▸ wins)
        apply free
        refine ⟨winner, winnerMember, ⟨common, sharing, winnerShared⟩, ?_⟩
        rcases most value member sharing with lower | ⟨level, earlier⟩
        · exact .inl lower
        · refine .inr ⟨level, lt_of_le_of_ne earlier ?_⟩
          intro same
          exact apart ((List.idxOf_inj winnerMember).mp same)

theorem mem_kept : value ∈ kept key rank values ↔
    value ∈ values ∧ value ∈ winnersOf key rank values.zipIdx := by
  rw [kept, List.mem_filter, decide_eq_true_eq]

/-- What stays is in normal form: nothing of it is left out again. -/
theorem kept_kept (separates : Separates key shared) :
    kept key rank (kept key rank values) = kept key rank values := by
  apply List.filter_eq_self.mpr
  intro value member
  rw [decide_eq_true_eq]
  cases sharing : shared value with
  | none => exact mem_winnersOf_of_unshared separates member sharing
  | some common =>
      rcases exists_winner rank separates member sharing with
        ⟨winner, winnerMember, wins, winnerShared, _⟩
      have same := winner_unique separates (mem_kept.mp member).2 (mem_kept.mp winnerMember).2
        sharing winnerShared
      exact same ▸ wins

end Representatives

end Foundation
