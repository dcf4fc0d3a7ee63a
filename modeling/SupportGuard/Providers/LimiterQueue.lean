import SupportGuard.Providers.LimiterSafety
import Mathlib.Tactic.Linarith
import Mathlib.Tactic.FieldSimp

/-! # The order of the callers

The waiters stand by a score made of the time and the number of their arrival. The queue is in
the order of arrival as long as no entry of a caller that still polls is lost: the key of the
waiters and the counter carry deadlines that only a grant moves, and an entry has an age. -/

namespace SupportGuard

open Foundation

variable {config : LimiterConfig}

/-! ## Queues in order -/

/-- The entries of the waiters are in the order of arrival, and everyone who polls has one. -/
structure Ordered (waiters : SortedSet String) (count : Nat) (now : Int)
    (arrivals ended : List String) : Prop where
  distinct : arrivals.Nodup
  known : ∀ entry ∈ waiters.entries, entry.1 ∈ arrivals
  bounded : ∀ entry ∈ waiters.entries, entry.2 ≤ now + count / 1000000
  present : ∀ owner ∈ arrivals, owner ∉ ended → ∃ score, (owner, score) ∈ waiters.entries
  sorted : ∀ first second, [first, second].Sublist arrivals →
    ∀ earlier later, (first, earlier) ∈ waiters.entries → (second, later) ∈ waiters.entries →
      earlier < later

theorem pair_sublist_concat {first second last : String} {items : List String}
    (sublist : [first, second].Sublist (items ++ [last])) :
    [first, second].Sublist items ∨ first ∈ items ∧ second = last := by
  rcases List.sublist_append_iff.mp sublist with ⟨front, back, equal, inFront, inBack⟩
  cases front with
  | nil =>
      have short := inBack.length_le
      rw [List.nil_append] at equal
      rw [← equal] at short
      simp at short
  | cons head tail =>
      cases tail with
      | nil =>
          rw [List.cons_append, List.nil_append, List.cons.injEq] at equal
          rcases equal with ⟨rfl, rfl⟩
          refine .inr ⟨inFront.subset List.mem_cons_self, ?_⟩
          have member := inBack.subset List.mem_cons_self
          exact List.mem_singleton.mp member
      | cons next rest =>
          rw [List.cons_append, List.cons_append, List.cons.injEq, List.cons.injEq] at equal
          rcases equal with ⟨rfl, rfl, empty⟩
          have none : rest = [] := (List.append_eq_nil_iff.mp empty.symm).1
          rw [none] at inFront
          exact .inl inFront

namespace Ordered

variable {waiters : SortedSet String} {count : Nat} {now : Int} {arrivals ended : List String}

theorem tick (ordered : Ordered waiters count now arrivals ended) (elapsed : Nat) :
    Ordered waiters count (now + elapsed) arrivals ended where
  distinct := ordered.distinct
  known := ordered.known
  bounded entry member := by
    have early := ordered.bounded entry member
    push_cast
    have forward : (0 : ℚ) ≤ elapsed := Nat.cast_nonneg elapsed
    linarith
  present := ordered.present
  sorted := ordered.sorted

/-- Entries may go, but for those of the callers that poll. -/
theorem restrict (ordered : Ordered waiters count now arrivals ended)
    {kept : SortedSet String} {ended' : List String}
    (subset : ∀ entry ∈ kept.entries, entry ∈ waiters.entries)
    (keeps : ∀ owner ∈ arrivals, owner ∉ ended' → ∃ score, (owner, score) ∈ kept.entries) :
    Ordered kept count now arrivals ended' where
  distinct := ordered.distinct
  known entry member := ordered.known entry (subset entry member)
  bounded entry member := ordered.bounded entry (subset entry member)
  present := keeps
  sorted first second order earlier later atFirst atSecond :=
    ordered.sorted first second order earlier later (subset _ atFirst) (subset _ atSecond)

/-- A newcomer stands last. -/
theorem arrive (ordered : Ordered waiters count now arrivals ended) {owner : String}
    (fresh : owner ∉ arrivals) :
    Ordered (waiters.zadd (now + (count + 1 : Nat) / 1000000) owner) (count + 1) now
      (arrivals ++ [owner]) ended := by
  have unchanged : (waiters.zadd (now + (count + 1 : Nat) / 1000000) owner).entries =
      waiters.entries ++ [(owner, (now : ℚ) + (count + 1 : Nat) / 1000000)] := by
    rw [SortedSet.zadd_entries, List.filter_eq_self.mpr]
    intro entry member
    have other : entry.1 ≠ owner := by
      intro equal
      exact fresh (equal ▸ ordered.known entry member)
    simpa using other
  have last : ∀ entry ∈ waiters.entries, entry.2 < now + (count + 1 : Nat) / 1000000 := by
    intro entry member
    have before := ordered.bounded entry member
    push_cast
    linarith
  constructor
  · rw [List.nodup_append]
    refine ⟨ordered.distinct, List.nodup_singleton _, ?_⟩
    intro name earlier other single equal
    rw [List.mem_singleton.mp single] at equal
    exact fresh (equal ▸ earlier)
  · intro entry member
    rw [unchanged] at member
    rcases List.mem_append.mp member with earlier | single
    · exact List.mem_append_left _ (ordered.known entry earlier)
    · rw [List.mem_singleton.mp single]
      exact List.mem_append_right _ (List.mem_singleton_self owner)
  · intro entry member
    rw [unchanged] at member
    rcases List.mem_append.mp member with earlier | single
    · exact le_of_lt (last entry earlier)
    · rw [List.mem_singleton.mp single]
  · intro name member polls
    rw [unchanged]
    rcases List.mem_append.mp member with earlier | single
    · rcases ordered.present name earlier polls with ⟨score, entry⟩
      exact ⟨score, List.mem_append_left _ entry⟩
    · rw [List.mem_singleton.mp single]
      exact ⟨_, List.mem_append_right _ (List.mem_singleton_self _)⟩
  · intro first second order earlier later atFirst atSecond
    rw [unchanged] at atFirst atSecond
    rcases pair_sublist_concat order with before | ⟨firstBefore, rfl⟩
    · have firstKnown : first ≠ owner := by
        intro equal
        exact fresh (equal ▸ before.subset List.mem_cons_self)
      have secondKnown : second ≠ owner := by
        intro equal
        exact fresh (equal ▸ before.subset (List.mem_cons_of_mem _ List.mem_cons_self))
      apply ordered.sorted first second before earlier later
      · simpa [firstKnown] using atFirst
      · simpa [secondKnown] using atSecond
    · have firstKnown : first ≠ second := by
        intro equal
        exact fresh (equal ▸ firstBefore)
      have secondLast : later = now + (count + 1 : Nat) / 1000000 := by
        rcases List.mem_append.mp atSecond with known | single
        · exact absurd (ordered.known _ known) fresh
        · simpa using single
      rw [secondLast]
      apply last (first, earlier)
      simpa [firstKnown] using atFirst

end Ordered

/-! ## Runs that lose no entry -/

namespace LimiterSystem

/-- Neither key of the queue has passed its deadline, and no caller that polls has an entry
that is too old. -/
def queueIntact (config : LimiterConfig) (system : LimiterSystem) : Bool :=
  (system.store.waiters.expireAt.all fun deadline => system.now ≤ deadline) &&
    (system.store.sequence.expireAt.all fun deadline => system.now ≤ deadline) &&
    system.store.waiters.entries.all fun entry =>
      entry.1 ∈ system.ended || (system.now - config.waiterTtlMs : Int) < entry.2

structure QueueIntact (config : LimiterConfig) (system : LimiterSystem) : Prop where
  waiters : ∀ deadline, system.store.waiters.expireAt = some deadline → system.now ≤ deadline
  sequence : ∀ deadline, system.store.sequence.expireAt = some deadline → system.now ≤ deadline
  young : ∀ entry ∈ system.store.waiters.entries, entry.1 ∉ system.ended →
    ((system.now - config.waiterTtlMs : Int) : ℚ) < entry.2

theorem queueIntact_iff {system : LimiterSystem} :
    system.queueIntact config = true ↔ system.QueueIntact config := by
  simp only [queueIntact, Bool.and_eq_true, Option.all_eq_true, decide_eq_true_eq,
    List.all_eq_true, Bool.or_eq_true]
  constructor
  · intro intact
    refine ⟨intact.1.1, intact.1.2, ?_⟩
    intro entry member ongoing
    exact (intact.2 entry member).resolve_left ongoing
  · intro intact
    refine ⟨⟨intact.waiters, intact.sequence⟩, ?_⟩
    intro entry member
    by_cases ended : entry.1 ∈ system.ended
    · exact .inl ended
    · exact .inr (intact.young entry member ended)

/-- A step from a state in which the queue is intact. -/
def IntactStep (config : LimiterConfig) (before after : LimiterSystem) : Prop :=
  Step config before after ∧ before.QueueIntact config

/-- The step gives a permit to a caller although one that came in earlier still polls. -/
def Overtakes (before after : LimiterSystem) : Prop :=
  ∃ first second, before.Waiting first ∧ [first, second].Sublist after.arrivals ∧
    after.permits = before.permits ++ [{ owner := second, acquiredAtMs := before.now }]

def InOrder (system : LimiterSystem) : Prop :=
  Ordered system.store.waiters system.store.sequence.value system.now system.arrivals
    system.ended

theorem InOrder.idle (now : Int) : InOrder (idle now) where
  distinct := List.nodup_nil
  known _ member := absurd member List.not_mem_nil
  bounded _ member := absurd member List.not_mem_nil
  present _ member := absurd member List.not_mem_nil
  sorted _ _ order := by
    have short := order.length_le
    simp [LimiterSystem.idle] at short

/-- The queue that a poll looks at. -/
theorem InOrder.queue {system : LimiterSystem} (inOrder : InOrder system)
    (intact : system.QueueIntact config) {owner : String} (polls : owner ∉ system.ended) :
    Ordered ((system.store.swept config system.now).enqueued owner system.now).waiters
      ((system.store.swept config system.now).enqueued owner system.now).sequence.value
      system.now (if owner ∈ system.arrivals then system.arrivals
        else system.arrivals ++ [owner]) system.ended := by
  have sequence : (system.store.swept config system.now).sequence = system.store.sequence :=
    SequenceKey.visible_eq intact.sequence
  have entries : (system.store.swept config system.now).waiters.entries =
      system.store.waiters.entries.filter fun entry =>
        ((system.now - config.waiterTtlMs : Int) : ℚ) < entry.2 := by
    simp only [LimiterStore.swept]
    rw [SortedSet.visible_eq intact.waiters, SortedSet.zremrangebyscore_entries]
    push_cast
    rfl
  have swept : Ordered (system.store.swept config system.now).waiters
      (system.store.swept config system.now).sequence.value system.now system.arrivals
      system.ended := by
    rw [sequence]
    apply Ordered.restrict inOrder
    · intro entry member
      rw [entries] at member
      exact (List.mem_filter.mp member).1
    · intro name arrived ongoing
      rcases inOrder.present name arrived ongoing with ⟨score, entry⟩
      refine ⟨score, ?_⟩
      rw [entries, List.mem_filter]
      have young := intact.young (name, score) entry ongoing
      exact ⟨entry, by simpa using young⟩
  unfold LimiterStore.enqueued
  split
  · rename_i score found
    have arrived : owner ∈ system.arrivals := by
      by_contra fresh
      have absent : (system.store.swept config system.now).waiters.zscore owner = none := by
        apply SortedSet.zscore_eq_none.mpr
        intro entry member equal
        exact fresh (equal ▸ swept.known entry member)
      rw [absent] at found
      cases found
    rw [if_pos arrived]
    exact swept
  · rename_i missing
    have fresh : owner ∉ system.arrivals := by
      intro arrived
      rcases swept.present owner arrived polls with ⟨score, entry⟩
      exact SortedSet.zscore_eq_none.mp missing _ entry rfl
    rw [if_neg fresh]
    exact swept.arrive fresh

theorem InOrder.step {before after : LimiterSystem} (step : IntactStep config before after)
    (inOrder : InOrder before) : InOrder after := by
  rcases step with ⟨⟨event, performed⟩, intact⟩
  cases event with
  | tick elapsed =>
      cases performed
      exact Ordered.tick inOrder elapsed
  | poll owner =>
      simp only [perform] at performed
      split at performed
      · cases performed
      · rename_i polls
        have queue := inOrder.queue intact polls
        rcases acquireScript_cases config owner before.now before.store with
          ⟨refused, store⟩ | ⟨granted, _, _, _, store⟩
        · rw [if_neg refused, store] at performed
          cases performed
          exact queue
        · rw [if_pos granted, store] at performed
          cases performed
          unfold InOrder
          rw [LimiterStore.granted, SequenceKey.pexpire_value]
          apply queue.restrict
          · intro entry member
            simp only [SortedSet.pexpire_entries, SortedSet.zrem_entries] at member
            exact (List.mem_filter.mp member).1
          · intro name arrived ongoing
            rw [List.mem_cons, not_or] at ongoing
            rcases queue.present name arrived ongoing.2 with ⟨score, entry⟩
            refine ⟨score, ?_⟩
            simp only [SortedSet.pexpire_entries, SortedSet.zrem_entries]
            rw [List.mem_filter]
            exact ⟨entry, by simpa using ongoing.1⟩
  | release owner =>
      simp only [perform] at performed
      split at performed
      · cases performed
        exact inOrder
      · cases performed
  | cancel owner =>
      cases performed
      apply Ordered.restrict inOrder
      · intro entry member
        simp only [cancelWaiterScript, SortedSet.zrem_entries,
          SortedSet.visible_eq intact.waiters] at member
        exact (List.mem_filter.mp member).1
      · intro name arrived ongoing
        rw [List.mem_cons, not_or] at ongoing
        rcases inOrder.present name arrived ongoing.2 with ⟨score, entry⟩
        refine ⟨score, ?_⟩
        simp only [cancelWaiterScript, SortedSet.zrem_entries,
          SortedSet.visible_eq intact.waiters]
        rw [List.mem_filter]
        exact ⟨entry, by simpa using ongoing.1⟩
  | crash owner =>
      cases performed
      apply Ordered.restrict inOrder
      · exact fun entry member => member
      · intro name arrived ongoing
        rw [List.mem_cons, not_or] at ongoing
        exact inOrder.present name arrived ongoing.2

/-- The first of an ordered queue came in before all that poll. -/
theorem InOrder.not_overtakes {before after : LimiterSystem}
    (step : IntactStep config before after) (inOrder : InOrder before) :
    ¬Overtakes before after := by
  intro overtakes
  rcases overtakes with ⟨first, second, waiting, order, permits⟩
  rcases step with ⟨⟨event, performed⟩, intact⟩
  have longer := congrArg List.length permits
  rw [List.length_append, List.length_singleton] at longer
  cases event with
  | tick elapsed =>
      cases performed
      simp at longer
  | release owner =>
      simp only [perform] at performed
      split at performed
      · cases performed
        simp at longer
      · cases performed
  | cancel owner =>
      cases performed
      simp at longer
  | crash owner =>
      cases performed
      simp at longer
  | poll owner =>
      simp only [perform] at performed
      split at performed
      · cases performed
      · rename_i polls
        have queue := inOrder.queue intact polls
        rcases acquireScript_cases config owner before.now before.store with
          ⟨refused, store⟩ | ⟨granted, isFirst, _, _, store⟩
        · rw [if_neg refused] at performed
          cases performed
          simp at longer
        · rw [if_pos granted] at performed
          cases performed
          have served : owner = second := by simpa using permits
          subst served
          have arrived : first ∈ if owner ∈ before.arrivals then before.arrivals
              else before.arrivals ++ [owner] :=
            order.subset List.mem_cons_self
          rcases queue.present first arrived waiting.2 with ⟨earlier, atFirst⟩
          rcases SortedSet.first_le isFirst with ⟨later, atSecond, least⟩
          have before := queue.sorted first owner order earlier later atFirst atSecond
          have notBefore := least (first, earlier) atFirst
          exact absurd before (not_lt.mpr notBefore)

end LimiterSystem

/-- In a run that loses no entry of the queue, nobody is served before a caller that came in
earlier and still polls. -/
theorem limiter_fair (config : LimiterConfig) (start : Int) {before after : LimiterSystem}
    (reached : Relation.ReflTransGen (LimiterSystem.IntactStep config) (.idle start) before)
    (step : LimiterSystem.IntactStep config before after) :
    ¬LimiterSystem.Overtakes before after := by
  have inOrder : before.InOrder := by
    apply Run.preserves _ reached (LimiterSystem.InOrder.idle start)
    intro earlier later taken
    exact LimiterSystem.InOrder.step taken
  exact LimiterSystem.InOrder.not_overtakes step inOrder

namespace LimiterSystem

/-- The events of a list, as long as the queue is intact before each. -/
def runIntact (config : LimiterConfig) (system : LimiterSystem) :
    List LimiterEvent → Option LimiterSystem
  | [] => some system
  | event :: later =>
      if system.queueIntact config then
        (system.perform config event).bind fun next => runIntact config next later
      else none

theorem reached_of_runIntact {config : LimiterConfig} :
    ∀ {events : List LimiterEvent} {before after : LimiterSystem},
      before.runIntact config events = some after →
        Relation.ReflTransGen (IntactStep config) before after
  | [], _, _, ran => by
      cases ran
      exact .refl
  | event :: later, before, after, ran => by
      simp only [runIntact] at ran
      split at ran
      · rename_i intact
        rcases Option.bind_eq_some_iff.mp ran with ⟨next, performed, ran⟩
        exact .head ⟨⟨event, performed⟩, queueIntact_iff.mp intact⟩ (reached_of_runIntact ran)
      · cases ran

end LimiterSystem

/-- Two callers wait for the permit of a third. -/
def contendedPermit : List LimiterEvent :=
  [.poll "permit:1", .tick 1, .poll "permit:2", .tick 1, .poll "permit:3", .tick 20,
    .release "permit:1"]

theorem limiter_fair_contended :
    ∃ before, LimiterSystem.runIntact singlePermit (.idle 0) contendedPermit = some before ∧
      before.queueIntact singlePermit = true ∧ before.arrivals.length = 3 ∧
      ∀ after, before.perform singlePermit (.poll "permit:3") = some after →
        ¬LimiterSystem.Overtakes before after := by
  have ready : ((LimiterSystem.runIntact singlePermit (.idle 0) contendedPermit).map
      fun before => (before.queueIntact singlePermit, before.arrivals.length)) =
        some (true, 3) := by
    decide +kernel
  rcases Option.map_eq_some_iff.mp ready with ⟨before, ran, equal⟩
  rw [Prod.mk.injEq] at equal
  refine ⟨before, ran, equal.1, equal.2, ?_⟩
  intro after performed
  exact limiter_fair singlePermit 0 (LimiterSystem.reached_of_runIntact ran)
    ⟨⟨_, performed⟩, LimiterSystem.queueIntact_iff.mp equal.1⟩

/-- Callers poll every 25 milliseconds. The last grant, at 26, leaves a waiter behind, and with it
a deadline of the queue's key at 7026. Two callers come in before it, at 6980 and 7002; after the
deadline, the later one is the first to come back. -/
def expiredQueue : List LimiterEvent :=
  [.poll "permit:1", .tick 1, .poll "permit:2", .tick 1, .poll "permit:3", .crash "permit:3",
    .tick 18, .release "permit:1", .tick 6, .poll "permit:2", .tick 4974, .poll "permit:4",
    .crash "permit:4", .tick 1980, .poll "permit:5", .tick 22, .poll "permit:6", .tick 3,
    .poll "permit:5", .tick 22, .poll "permit:6", .tick 3, .poll "permit:5", .tick 10,
    .release "permit:2", .tick 12]

theorem expiredQueue_overtakes :
    ∃ before after, LimiterSystem.run singlePermit (.idle 0) expiredQueue = some before ∧
      before.perform singlePermit (.poll "permit:6") = some after ∧
      LimiterSystem.Overtakes before after := by
  have served : ((LimiterSystem.run singlePermit (.idle 0) expiredQueue).bind fun before =>
      (before.perform singlePermit (.poll "permit:6")).map fun after =>
        ("permit:5" ∈ before.arrivals ∧ "permit:5" ∉ before.ended ∧
          ["permit:5", "permit:6"].Sublist after.arrivals ∧
          after.permits = before.permits ++
            [{ owner := "permit:6", acquiredAtMs := before.now }] : Bool)) = some true := by
    decide +kernel
  rcases Option.bind_eq_some_iff.mp served with ⟨before, ran, served⟩
  rcases Option.map_eq_some_iff.mp served with ⟨after, performed, overtaken⟩
  simp only [decide_eq_true_eq] at overtaken
  exact ⟨before, after, ran, performed, "permit:5", "permit:6",
    ⟨overtaken.1, overtaken.2.1⟩, overtaken.2.2⟩

end SupportGuard
