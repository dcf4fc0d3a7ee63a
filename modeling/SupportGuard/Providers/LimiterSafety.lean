import SupportGuard.Foundation.Run
import SupportGuard.Providers.Limiter

/-! # The limits hold

A permit whose lease runs is in the set of permits, and a call of the last window is in the
set of calls: the deadlines of the keys lie behind everything that still counts. Each grant
therefore sees all that it has to count. -/

namespace SupportGuard

open Foundation

variable {config : LimiterConfig}

namespace LimiterStore

@[simp] theorem enqueued_inflight (owner : String) (now : Int) (store : LimiterStore) :
    (store.enqueued owner now).inflight = store.inflight := by
  unfold enqueued
  split <;> rfl

@[simp] theorem enqueued_rpm (owner : String) (now : Int) (store : LimiterStore) :
    (store.enqueued owner now).rpm = store.rpm := by
  unfold enqueued
  split <;> rfl

end LimiterStore

/-! ## A poll -/

/-- A poll sweeps the store and puts the caller into the queue; a grant takes the first of the
queue where both limits leave room. -/
theorem acquireScript_cases (config : LimiterConfig) (owner : String) (now : Int)
    (store : LimiterStore) :
    ((acquireScript config owner now store).1 ≠ .granted ∧
        (acquireScript config owner now store).2 =
          (store.swept config now).enqueued owner now) ∨
      ((acquireScript config owner now store).1 = .granted ∧
        ((store.swept config now).enqueued owner now).waiters.first = some owner ∧
        (store.swept config now).inflight.zcard < config.maxInflight ∧
        (store.swept config now).rpm.zcard < config.rpmCapacity ∧
        (acquireScript config owner now store).2 =
          ((store.swept config now).enqueued owner now).granted config owner now) := by
  unfold acquireScript
  dsimp only
  split
  · left
    exact ⟨by simp, rfl⟩
  · rename_i isFirst
    split
    · left
      exact ⟨by simp, rfl⟩
    · rename_i room
      split
      · left
        exact ⟨by simp, rfl⟩
      · rename_i rate
        right
        simp only [LimiterStore.enqueued_inflight, LimiterStore.enqueued_rpm, not_le] at room rate
        exact ⟨rfl, not_not.mp isFirst, room, rate, rfl⟩

/-! ## Sets that remember -/

/-- A set holds every permit that counts, and its key lasts as long: a permit counts for `span`
milliseconds from its grant. -/
structure Remembers (set : SortedSet String) (now : Int) (span : Nat)
    (score : ProviderPermit → ℚ) (permits : List ProviderPermit) : Prop where
  present : ∀ permit ∈ permits, now < permit.acquiredAtMs + span →
    (permit.owner, score permit) ∈ set.entries
  outlives : ∀ permit ∈ permits, ∀ deadline, set.expireAt = some deadline →
    permit.acquiredAtMs + span ≤ deadline

namespace Remembers

variable {set : SortedSet String} {now : Int} {span : Nat} {score : ProviderPermit → ℚ}
  {permits : List ProviderPermit}

theorem none : Remembers set now span score [] :=
  ⟨fun _ member => absurd member List.not_mem_nil, fun _ member => absurd member List.not_mem_nil⟩

theorem tick (remembers : Remembers set now span score permits) (elapsed : Nat) :
    Remembers set (now + elapsed) span score permits where
  present permit member counts := remembers.present permit member (by omega)
  outlives := remembers.outlives

theorem visible_eq (remembers : Remembers set now span score permits) {permit : ProviderPermit}
    (member : permit ∈ permits) (counts : now < permit.acquiredAtMs + span) :
    set.visible now = set := by
  apply SortedSet.visible_eq
  intro deadline found
  have later := remembers.outlives permit member deadline found
  omega

/-- Sweeping takes only what no longer counts. -/
theorem sweep (remembers : Remembers set now span score permits) {bound : ℚ}
    (above : ∀ permit ∈ permits, now < permit.acquiredAtMs + span → bound < score permit) :
    Remembers ((set.visible now).zremrangebyscore bound) now span score permits where
  present permit member counts := by
    rw [remembers.visible_eq member counts, SortedSet.zremrangebyscore_entries,
      List.mem_filter]
    exact ⟨remembers.present permit member counts, by simpa using above permit member counts⟩
  outlives permit member deadline found :=
    remembers.outlives permit member deadline
      (SortedSet.visible_expireAt (SortedSet.zremrangebyscore_expireAt found))

/-- A grant is remembered, and the deadline moves behind it. -/
theorem grant (remembers : Remembers set now span score permits) (permit : ProviderPermit)
    (started : permit.acquiredAtMs = now) (past : ∀ other ∈ permits, other.acquiredAtMs ≤ now)
    (fresh : ∀ other ∈ permits, other.owner ≠ permit.owner) :
    Remembers ((set.zadd (score permit) permit.owner).pexpire now (span + 1000)) now span score
      (permits ++ [permit]) where
  present other member counts := by
    rw [SortedSet.pexpire_entries, SortedSet.zadd_entries, List.mem_append]
    rcases List.mem_append.mp member with earlier | last
    · left
      rw [List.mem_filter]
      exact ⟨remembers.present other earlier counts, by simpa using fresh other earlier⟩
    · right
      rw [List.mem_singleton.mp last]
      exact List.mem_singleton_self _
  outlives other member deadline found := by
    rw [SortedSet.pexpire_expireAt (by simp), Option.some.injEq] at found
    have early : other.acquiredAtMs ≤ now := by
      rcases List.mem_append.mp member with earlier | last
      · exact past other earlier
      · rw [List.mem_singleton.mp last, started]
    push_cast at found
    omega

/-- A release takes the entry of its owner only. -/
theorem release (remembers : Remembers set now span score permits) {owner : String}
    {kept : List ProviderPermit} (subset : kept ⊆ permits)
    (others : ∀ permit ∈ kept, permit.owner ≠ owner) :
    Remembers ((set.visible now).zrem owner) now span score kept where
  present permit member counts := by
    rw [remembers.visible_eq (subset member) counts, SortedSet.zrem_entries, List.mem_filter]
    exact ⟨remembers.present permit (subset member) counts, by simpa using others permit member⟩
  outlives permit member deadline found :=
    remembers.outlives permit (subset member) deadline
      (SortedSet.visible_expireAt (SortedSet.zrem_expireAt found))

/-- What counts is no more than the set has. -/
theorem count_le (remembers : Remembers set now span score permits)
    (distinct : (permits.map ProviderPermit.owner).Nodup) :
    (permits.filter fun permit => now < permit.acquiredAtMs + span).length ≤ set.zcard := by
  rw [← List.length_map ProviderPermit.owner]
  apply SortedSet.length_le_zcard
  · exact distinct.sublist (List.filter_sublist.map _)
  · intro owner among
    rcases List.mem_map.mp among with ⟨permit, counted, rfl⟩
    rcases List.mem_filter.mp counted with ⟨member, counts⟩
    exact ⟨score permit, remembers.present permit member (by simpa using counts)⟩

end Remembers

/-! ## Steps -/

namespace LimiterSystem

/-- Permits that were not given back. -/
def held (system : LimiterSystem) : List ProviderPermit :=
  system.permits.filter fun permit => !permit.released

/-- Permits whose lease runs and that were not given back. -/
def active (config : LimiterConfig) (system : LimiterSystem) : List ProviderPermit :=
  system.held.filter fun permit => system.now < permit.acquiredAtMs + config.leaseMs

/-- Grants from `start` on, for the length of a window. -/
def grantsIn (config : LimiterConfig) (system : LimiterSystem) (start : Int) :
    List ProviderPermit :=
  system.permits.filter fun permit =>
    start ≤ permit.acquiredAtMs ∧ permit.acquiredAtMs < start + config.rpmWindow

structure Limited (config : LimiterConfig) (system : LimiterSystem) : Prop where
  distinct : (system.permits.map ProviderPermit.owner).Nodup
  ended : ∀ permit ∈ system.permits, permit.owner ∈ system.ended
  past : ∀ permit ∈ system.permits, permit.acquiredAtMs ≤ system.now
  inflight : Remembers system.store.inflight system.now config.leaseMs
    (fun permit => permit.acquiredAtMs + config.leaseMs) system.held
  rpm : Remembers system.store.rpm system.now config.rpmWindow
    (fun permit => permit.acquiredAtMs) system.permits
  inflightBound : (system.active config).length ≤ config.maxInflight
  rpmBound : ∀ start, (system.grantsIn config start).length ≤ config.rpmCapacity

theorem Limited.idle (now : Int) : Limited config (idle now) where
  distinct := List.nodup_nil
  ended _ member := absurd member List.not_mem_nil
  past _ member := absurd member List.not_mem_nil
  inflight := .none
  rpm := .none
  inflightBound := Nat.zero_le _
  rpmBound _ := Nat.zero_le _

variable {system : LimiterSystem}

theorem Limited.tick (limited : Limited config system) (elapsed : Nat) :
    Limited config { system with now := system.now + elapsed } where
  distinct := limited.distinct
  ended := limited.ended
  past permit member := by
    have early := limited.past permit member
    dsimp only
    omega
  inflight := limited.inflight.tick elapsed
  rpm := limited.rpm.tick elapsed
  inflightBound := by
    apply le_trans _ limited.inflightBound
    apply List.Sublist.length_le
    apply List.monotone_filter_right
    intro permit counts
    simp only [decide_eq_true_eq] at counts ⊢
    omega
  rpmBound := limited.rpmBound

/-- The sets after the sweep of a poll. -/
theorem Limited.swept (limited : Limited config system) :
    Remembers (system.store.swept config system.now).inflight system.now config.leaseMs
        (fun permit => permit.acquiredAtMs + config.leaseMs) system.held ∧
      Remembers (system.store.swept config system.now).rpm system.now config.rpmWindow
        (fun permit => permit.acquiredAtMs) system.permits := by
  constructor
  · apply limited.inflight.sweep
    intro permit _ counts
    exact_mod_cast counts
  · apply limited.rpm.sweep
    intro permit _ counts
    have early : system.now - config.rpmWindow < permit.acquiredAtMs := by omega
    exact_mod_cast early

/-- A poll that gets no permit. -/
theorem Limited.wait (limited : Limited config system) {store : LimiterStore}
    (inflight : store.inflight =
      (system.store.swept config system.now).inflight)
    (rpm : store.rpm = (system.store.swept config system.now).rpm) (arrivals : List String) :
    Limited config { system with store, arrivals } where
  distinct := limited.distinct
  ended := limited.ended
  past := limited.past
  inflight := inflight ▸ limited.swept.1
  rpm := rpm ▸ limited.swept.2
  inflightBound := limited.inflightBound
  rpmBound := limited.rpmBound

/-- A grant has counted everything that counts. -/
theorem Limited.grant (limited : Limited config system) {owner : String}
    (polls : owner ∉ system.ended)
    (room : (system.store.swept config system.now).inflight.zcard < config.maxInflight)
    (rate : (system.store.swept config system.now).rpm.zcard < config.rpmCapacity)
    {store : LimiterStore}
    (inflight : store.inflight = (system.store.swept config system.now).inflight)
    (rpm : store.rpm = (system.store.swept config system.now).rpm) (arrivals : List String) :
    Limited config { system with
      store := store.granted config owner system.now
      arrivals
      ended := owner :: system.ended
      permits := system.permits ++ [{ owner, acquiredAtMs := system.now }] } := by
  have fresh : ∀ other ∈ system.permits, other.owner ≠ owner := by
    intro other member equal
    exact polls (equal ▸ limited.ended other member)
  have heldOf : ∀ other ∈ system.held, other ∈ system.permits := by
    intro other member
    exact (List.mem_filter.mp member).1
  have heldDistinct : (system.held.map ProviderPermit.owner).Nodup :=
    limited.distinct.sublist (List.filter_sublist.map _)
  have heldAfter : (system.permits ++ [ProviderPermit.mk owner system.now false]).filter
      (fun permit => !permit.released) =
        system.held ++ [ProviderPermit.mk owner system.now false] := by
    simp [LimiterSystem.held, List.filter_append]
  have activeCount := limited.swept.1.count_le heldDistinct
  have windowCount := limited.swept.2.count_le limited.distinct
  constructor
  · rw [List.map_append, List.nodup_append]
    refine ⟨limited.distinct, List.nodup_singleton _, ?_⟩
    intro name earlier other last
    rcases List.mem_map.mp earlier with ⟨permit, member, rfl⟩
    rw [List.map_singleton, List.mem_singleton] at last
    rw [last]
    exact fresh permit member
  · intro permit member
    rcases List.mem_append.mp member with earlier | last
    · exact List.mem_cons_of_mem _ (limited.ended permit earlier)
    · rw [List.mem_singleton.mp last]
      exact List.mem_cons_self
  · intro permit member
    rcases List.mem_append.mp member with earlier | last
    · exact limited.past permit earlier
    · rw [List.mem_singleton.mp last]
  · have remembered := limited.swept.1.grant { owner, acquiredAtMs := system.now } rfl
      (fun other member => limited.past other (heldOf other member))
      (fun other member => fresh other (heldOf other member))
    rw [← inflight] at remembered
    rw [← heldAfter] at remembered
    exact remembered
  · have remembered := limited.swept.2.grant { owner, acquiredAtMs := system.now } rfl
      limited.past fresh
    rw [← rpm] at remembered
    exact remembered
  · have added := List.length_filter_le
      (fun permit : ProviderPermit => decide (system.now < permit.acquiredAtMs + config.leaseMs))
      [{ owner, acquiredAtMs := system.now }]
    rw [List.length_singleton] at added
    unfold LimiterSystem.active LimiterSystem.held
    rw [heldAfter, List.filter_append, List.length_append]
    dsimp only
    omega
  · intro start
    have bound := limited.rpmBound start
    unfold LimiterSystem.grantsIn at bound ⊢
    rw [List.filter_append, List.length_append]
    by_cases within : start ≤ system.now ∧ system.now < start + config.rpmWindow
    · -- Every grant of the window still counts at this one.
      have earlier : (system.permits.filter fun permit =>
          start ≤ permit.acquiredAtMs ∧ permit.acquiredAtMs < start + config.rpmWindow).length ≤
            (system.permits.filter fun permit =>
              system.now < permit.acquiredAtMs + config.rpmWindow).length := by
        apply List.Sublist.length_le
        apply List.monotone_filter_right
        intro permit inWindow
        simp only [decide_eq_true_eq] at inWindow ⊢
        omega
      simp only [List.filter_singleton, within, and_self, decide_true, cond_true,
        List.length_singleton]
      omega
    · simp only [List.filter_singleton, within, decide_false, cond_false, List.length_nil,
        Nat.add_zero]
      exact bound

/-- A permit once its owner has given it back. -/
def givenBack (owner : String) (permit : ProviderPermit) : ProviderPermit :=
  if permit.owner = owner then { permit with released := true } else permit

@[simp] theorem givenBack_owner (owner : String) (permit : ProviderPermit) :
    (givenBack owner permit).owner = permit.owner := by
  unfold givenBack
  split <;> rfl

@[simp] theorem givenBack_acquiredAtMs (owner : String) (permit : ProviderPermit) :
    (givenBack owner permit).acquiredAtMs = permit.acquiredAtMs := by
  unfold givenBack
  split <;> rfl

theorem held_givenBack (owner : String) (permits : List ProviderPermit) :
    ((permits.map (givenBack owner)).filter fun permit => !permit.released) =
      (permits.filter fun permit => !permit.released).filter fun permit =>
        permit.owner ≠ owner := by
  induction permits with
  | nil => rfl
  | cons head tail induction =>
      by_cases named : head.owner = owner
      · by_cases released : head.released = true
        · simp [givenBack, named, released, induction]
        · simp [givenBack, named, released, induction]
      · by_cases released : head.released = true
        · simp [givenBack, named, released, induction]
        · simp [givenBack, named, released, induction]

/-- A release marks the permit and takes its entry; what others hold stays. -/
theorem Limited.release (limited : Limited config system) (owner : String) :
    Limited config { system with
      store := releaseScript owner system.now system.store
      permits := system.permits.map (givenBack owner) } where
  distinct := by
    have owners : (system.permits.map (givenBack owner)).map ProviderPermit.owner =
        system.permits.map ProviderPermit.owner := by
      rw [List.map_map]
      apply List.map_congr_left
      intro permit _
      exact givenBack_owner owner permit
    rw [owners]
    exact limited.distinct
  ended permit member := by
    rcases List.mem_map.mp member with ⟨old, oldMember, rfl⟩
    rw [givenBack_owner]
    exact limited.ended old oldMember
  past permit member := by
    rcases List.mem_map.mp member with ⟨old, oldMember, rfl⟩
    rw [givenBack_acquiredAtMs]
    exact limited.past old oldMember
  inflight := by
    unfold LimiterSystem.held
    rw [held_givenBack]
    apply limited.inflight.release
    · exact fun permit member => (List.mem_filter.mp member).1
    · intro permit member
      simpa using (List.mem_filter.mp member).2
  rpm := by
    constructor
    · intro permit member counts
      rcases List.mem_map.mp member with ⟨old, oldMember, rfl⟩
      rw [givenBack_acquiredAtMs] at counts ⊢
      rw [givenBack_owner]
      exact limited.rpm.present old oldMember counts
    · intro permit member
      rcases List.mem_map.mp member with ⟨old, oldMember, rfl⟩
      rw [givenBack_acquiredAtMs]
      exact limited.rpm.outlives old oldMember
  inflightBound := by
    unfold LimiterSystem.active LimiterSystem.held
    rw [held_givenBack]
    apply le_trans _ limited.inflightBound
    exact (List.filter_sublist.filter _).length_le
  rpmBound start := by
    have bound := limited.rpmBound start
    unfold LimiterSystem.grantsIn at bound ⊢
    rw [List.filter_map, List.length_map]
    simpa [Function.comp_def] using bound

theorem Limited.cancel (limited : Limited config system) (owner : String) :
    Limited config { system with
      store := cancelWaiterScript owner system.now system.store
      ended := owner :: system.ended } where
  distinct := limited.distinct
  ended permit member := List.mem_cons_of_mem _ (limited.ended permit member)
  past := limited.past
  inflight := limited.inflight
  rpm := limited.rpm
  inflightBound := limited.inflightBound
  rpmBound := limited.rpmBound

theorem Limited.crash (limited : Limited config system) (owner : String) :
    Limited config { system with ended := owner :: system.ended } where
  distinct := limited.distinct
  ended permit member := List.mem_cons_of_mem _ (limited.ended permit member)
  past := limited.past
  inflight := limited.inflight
  rpm := limited.rpm
  inflightBound := limited.inflightBound
  rpmBound := limited.rpmBound

theorem Limited.step {before after : LimiterSystem} (step : Step config before after)
    (limited : Limited config before) : Limited config after := by
  rcases step with ⟨event, performed⟩
  cases event with
  | tick elapsed =>
      cases performed
      exact limited.tick elapsed
  | poll owner =>
      simp only [perform] at performed
      split at performed
      · cases performed
      · rename_i polls
        rcases acquireScript_cases config owner before.now before.store with
          ⟨refused, store⟩ | ⟨granted, _, room, rate, store⟩
        · rw [if_neg refused, store] at performed
          cases performed
          exact limited.wait (by simp) (by simp) _
        · rw [if_pos granted, store] at performed
          cases performed
          exact limited.grant polls room rate (by simp) (by simp) _
  | release owner =>
      simp only [perform] at performed
      split at performed
      · cases performed
        exact limited.release owner
      · cases performed
  | cancel owner =>
      cases performed
      exact limited.cancel owner
  | crash owner =>
      cases performed
      exact limited.crash owner

end LimiterSystem

/-- Whatever the callers do, in whatever order, and however time passes, the permits that are
held and whose lease runs are at most `max_inflight`, and a window of `rpm_window` milliseconds
has at most `rpm_capacity` grants. -/
theorem limiter_limits (config : LimiterConfig) (start : Int) {system : LimiterSystem}
    (reached : Relation.ReflTransGen (LimiterSystem.Step config) (LimiterSystem.idle start)
      system) :
    (system.active config).length ≤ config.maxInflight ∧
      ∀ window, (system.grantsIn config window).length ≤ config.rpmCapacity := by
  have limited := Run.preserves (fun _ _ step => LimiterSystem.Limited.step step) reached
    (LimiterSystem.Limited.idle start)
  exact ⟨limited.inflightBound, limited.rpmBound⟩

/-- One permit, and two callers. The second is served when the lease of the first, which has
crashed, is over. -/
def crashedHolder : List LimiterEvent :=
  [.poll "permit:1", .crash "permit:1", .poll "permit:2", .tick 40000, .poll "permit:2"]

def singlePermit : LimiterConfig :=
  { maxInflight := 1 }

theorem limiter_limits_crashed :
    ∃ system, LimiterSystem.run singlePermit (.idle 0) crashedHolder = some system ∧
      system.permits.map ProviderPermit.owner = ["permit:1", "permit:2"] ∧
      (system.active singlePermit).length ≤ 1 := by
  have served : ((LimiterSystem.run singlePermit (.idle 0) crashedHolder).map fun system =>
      system.permits.map ProviderPermit.owner) = some ["permit:1", "permit:2"] := by
    decide +kernel
  rcases Option.map_eq_some_iff.mp served with ⟨system, ran, owners⟩
  exact ⟨system, ran, owners,
    (limiter_limits singlePermit 0 (LimiterSystem.reached_of_run ran)).1⟩

end SupportGuard
