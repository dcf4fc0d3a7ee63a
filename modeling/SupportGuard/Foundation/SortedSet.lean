import Mathlib.Data.List.Nodup
import Mathlib.Data.List.Perm.Subperm
import Mathlib.Algebra.Order.Ring.Rat

/-! # Sorted sets that expire

The sorted sets of a key-value store: members with scores, under a key that may carry a
deadline. A key whose last member goes is gone, with its deadline. -/

namespace Foundation

structure SortedSet (Member : Type) where
  entries : List (Member × ℚ) := []
  expireAt : Option Int := none

namespace SortedSet

variable {Member : Type}

/-! ## Keys -/

/-- A key without members is not there. -/
def settle (set : SortedSet Member) : SortedSet Member :=
  if set.entries.isEmpty then {} else set

/-- What is seen of a key after its deadline. -/
def visible (now : Int) (set : SortedSet Member) : SortedSet Member :=
  if set.expireAt.any (· < now) then {} else set

/-- `PEXPIRE key ttl`. -/
def pexpire (now : Int) (ttl : Nat) (set : SortedSet Member) : SortedSet Member :=
  if set.entries.isEmpty then set else { set with expireAt := some (now + ttl) }

/-- `ZREMRANGEBYSCORE key -inf bound`. -/
def zremrangebyscore (bound : ℚ) (set : SortedSet Member) : SortedSet Member :=
  settle { set with entries := set.entries.filter fun entry => bound < entry.2 }

def zcard (set : SortedSet Member) : Nat :=
  set.entries.length

@[simp] theorem settle_entries (set : SortedSet Member) : set.settle.entries = set.entries := by
  unfold settle
  split
  · rename_i empty
    exact (List.isEmpty_iff.mp empty).symm
  · rfl

@[simp] theorem zremrangebyscore_entries (bound : ℚ) (set : SortedSet Member) :
    (set.zremrangebyscore bound).entries = set.entries.filter fun entry => bound < entry.2 :=
  settle_entries _

@[simp] theorem pexpire_entries (now : Int) (ttl : Nat) (set : SortedSet Member) :
    (set.pexpire now ttl).entries = set.entries := by
  unfold pexpire
  split <;> rfl

variable {set : SortedSet Member}

/-- A key that has not passed its deadline is seen as it is. -/
theorem visible_eq {now : Int} (alive : ∀ deadline, set.expireAt = some deadline → now ≤ deadline) :
    set.visible now = set := by
  unfold visible
  rw [if_neg]
  intro expired
  rw [Option.any_eq_true] at expired
  rcases expired with ⟨deadline, found, passed⟩
  have later := alive deadline found
  simp only [decide_eq_true_eq] at passed
  omega

theorem settle_expireAt {deadline : Int} (found : set.settle.expireAt = some deadline) :
    set.expireAt = some deadline := by
  unfold settle at found
  split at found
  · cases found
  · exact found

theorem visible_expireAt {now : Int} {deadline : Int}
    (found : (set.visible now).expireAt = some deadline) :
    set.expireAt = some deadline := by
  unfold visible at found
  split at found
  · cases found
  · exact found

theorem zremrangebyscore_expireAt {bound : ℚ} {deadline : Int}
    (found : (set.zremrangebyscore bound).expireAt = some deadline) :
    set.expireAt = some deadline := by
  unfold zremrangebyscore at found
  have kept := settle_expireAt found
  exact kept

theorem pexpire_expireAt {now : Int} {ttl : Nat} (nonempty : set.entries ≠ []) :
    (set.pexpire now ttl).expireAt = some (now + ttl) := by
  unfold pexpire
  rw [if_neg (by simpa using nonempty)]

/-- Distinct members that are all in a set are no more than the set has. -/
theorem length_le_zcard (set : SortedSet Member) (members : List Member)
    (distinct : members.Nodup) (present : ∀ member ∈ members, ∃ score,
      (member, score) ∈ set.entries) : members.length ≤ set.zcard := by
  have subset : members ⊆ set.entries.map Prod.fst := by
    intro member among
    rcases present member among with ⟨score, entry⟩
    exact List.mem_map.mpr ⟨(member, score), entry, rfl⟩
  have within := (distinct.subperm subset).length_le
  rwa [List.length_map] at within

/-! ## Members -/

variable [LinearOrder Member]

/-- `ZREM key member`. -/
def zrem (member : Member) (set : SortedSet Member) : SortedSet Member :=
  settle { set with entries := set.entries.filter fun entry => entry.1 ≠ member }

def zscore (member : Member) (set : SortedSet Member) : Option ℚ :=
  (set.entries.find? fun entry => entry.1 = member).map Prod.snd

/-- `ZADD key score member`. -/
def zadd (score : ℚ) (member : Member) (set : SortedSet Member) : SortedSet Member :=
  { set with
    entries := (set.entries.filter fun entry => entry.1 ≠ member) ++ [(member, score)] }

@[simp] theorem zrem_entries (member : Member) (set : SortedSet Member) :
    (set.zrem member).entries = set.entries.filter fun entry => entry.1 ≠ member :=
  settle_entries _

@[simp] theorem zadd_entries (score : ℚ) (member : Member) (set : SortedSet Member) :
    (set.zadd score member).entries =
      (set.entries.filter fun entry => entry.1 ≠ member) ++ [(member, score)] :=
  rfl

theorem zrem_expireAt {member : Member} {deadline : Int}
    (found : (set.zrem member).expireAt = some deadline) : set.expireAt = some deadline := by
  unfold zrem at found
  have kept := settle_expireAt found
  exact kept

theorem zscore_eq_none {member : Member} :
    set.zscore member = none ↔ ∀ entry ∈ set.entries, entry.1 ≠ member := by
  simp [zscore]

/-! ## The first member -/

/-- Entries stand by their score, and by their member where scores are equal. -/
def precedes (left right : Member × ℚ) : Bool :=
  left.2 < right.2 || left.2 = right.2 && left.1 < right.1

def least (start : Member × ℚ) (others : List (Member × ℚ)) : Member × ℚ :=
  others.foldl (fun least other => if precedes other least then other else least) start

/-- `ZRANGE key 0 0`. -/
def first (set : SortedSet Member) : Option Member :=
  match set.entries with
  | [] => none
  | entry :: rest => some (least entry rest).1

theorem least_le (others : List (Member × ℚ)) :
    ∀ start, least start others ∈ start :: others ∧
      ∀ other ∈ start :: others, (least start others).2 ≤ other.2 := by
  induction others with
  | nil =>
      intro start
      simp [least]
  | cons head tail induction =>
      intro start
      by_cases lower : precedes head start = true
      · have step : least start (head :: tail) = least head tail := by
          simp [least, lower]
        have less : head.2 ≤ start.2 := by
          simp only [precedes, Bool.or_eq_true, Bool.and_eq_true, decide_eq_true_eq] at lower
          rcases lower with less | equal
          · exact le_of_lt less
          · exact le_of_eq equal.1
        rcases induction head with ⟨among, each⟩
        rw [step]
        refine ⟨List.mem_cons_of_mem _ among, ?_⟩
        intro other member
        rcases List.mem_cons.mp member with rfl | later
        · exact le_trans (each head List.mem_cons_self) less
        · exact each other later
      · have step : least start (head :: tail) = least start tail := by
          simp [least, lower]
        have less : start.2 ≤ head.2 := by
          simp only [precedes, Bool.or_eq_true, decide_eq_true_eq, not_or, not_lt] at lower
          exact lower.1
        rcases induction start with ⟨among, each⟩
        rw [step]
        constructor
        · rcases List.mem_cons.mp among with equal | later
          · rw [equal]
            exact List.mem_cons_self
          · exact List.mem_cons_of_mem _ (List.mem_cons_of_mem _ later)
        · intro other member
          rcases List.mem_cons.mp member with rfl | member
          · exact each other List.mem_cons_self
          · rcases List.mem_cons.mp member with rfl | later
            · exact le_trans (each start List.mem_cons_self) less
            · exact each other (List.mem_cons_of_mem _ later)

/-- The first member has the least score. -/
theorem first_le {member : Member} (found : set.first = some member) :
    ∃ score, (member, score) ∈ set.entries ∧ ∀ entry ∈ set.entries, score ≤ entry.2 := by
  unfold first at found
  split at found
  · cases found
  · rename_i entry rest listed
    rcases least_le rest entry with ⟨among, each⟩
    cases found
    rw [listed]
    exact ⟨(least entry rest).2, among, each⟩

end SortedSet

end Foundation
