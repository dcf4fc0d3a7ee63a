import Mathlib.Data.List.Count
import Mathlib.Order.Lattice
import SupportGuard.Foundation.Run
import SupportGuard.Foundation.Table

/-! # Fenced lanes

Jobs wait in lanes and are leased one at a time, in the order they were enqueued.
Each lease hands out a fresh fencing token and makes the job the holder of its run;
a lease ends when it is given back, and it is worth nothing after its deadline. -/

namespace Foundation

namespace FencedLanes

inductive Phase
  | waiting
  | leased
  | finished
deriving DecidableEq

structure Entry (Job Run Lane Time : Type) where
  id : Job
  run : Run
  lane : Lane
  sequence : Nat
  phase : Phase
  token : Nat
  deadline : Option Time

/-- The jobs of all lanes, with the number last given out in each lane, the lane each
run belongs to, the lease each run is held by, and the jobs leased so far. -/
structure State (Job Run Lane Time : Type) where
  now : Time
  entries : List (Entry Job Run Lane Time)
  last : Lane → Nat
  home : Run → Option Lane
  holder : Run → Option (Job × Nat)
  claims : List Job

set_option linter.unusedSectionVars false

variable {Job Run Lane Time : Type}

/-! ## Changes of one entry -/

def Entry.lease (deadline : Option Time) (entry : Entry Job Run Lane Time) :
    Entry Job Run Lane Time :=
  { entry with phase := .leased, token := entry.token + 1, deadline }

def Entry.renew (deadline : Option Time) (entry : Entry Job Run Lane Time) :
    Entry Job Run Lane Time :=
  { entry with deadline }

def Entry.release (phase : Phase) (entry : Entry Job Run Lane Time) :
    Entry Job Run Lane Time :=
  { entry with phase, deadline := none }

/-- The parts of an entry that are fixed when it is enqueued. -/
structure KeepsPlace (change : Entry Job Run Lane Time → Entry Job Run Lane Time) :
    Prop where
  id : ∀ entry, (change entry).id = entry.id
  lane : ∀ entry, (change entry).lane = entry.lane
  sequence : ∀ entry, (change entry).sequence = entry.sequence

theorem keepsPlace_lease (deadline : Option Time) :
    KeepsPlace (Entry.lease deadline : Entry Job Run Lane Time → _) :=
  ⟨fun _ => rfl, fun _ => rfl, fun _ => rfl⟩

theorem keepsPlace_renew (deadline : Option Time) :
    KeepsPlace (Entry.renew deadline : Entry Job Run Lane Time → _) :=
  ⟨fun _ => rfl, fun _ => rfl, fun _ => rfl⟩

theorem keepsPlace_release (phase : Phase) :
    KeepsPlace (Entry.release phase : Entry Job Run Lane Time → _) :=
  ⟨fun _ => rfl, fun _ => rfl, fun _ => rfl⟩

variable [DecidableEq Job]

/-! ## The invariant -/

structure Sound (state : State Job Run Lane Time) : Prop where
  ids : (state.entries.map Entry.id).Nodup
  bounded : ∀ entry ∈ state.entries, entry.sequence ≤ state.last entry.lane
  distinct : state.entries.Pairwise fun left right =>
    left.lane = right.lane → left.sequence ≠ right.sequence
  single : ∀ left ∈ state.entries, ∀ right ∈ state.entries, left.phase = .leased →
    right.phase = .leased → left.lane = right.lane → left = right
  head : ∀ entry ∈ state.entries, entry.phase = .leased → ∀ other ∈ state.entries,
    other.lane = entry.lane → other.phase ≠ .finished → entry.sequence ≤ other.sequence
  held : ∀ entry ∈ state.entries, entry.phase = .leased →
    state.holder entry.run = some (entry.id, entry.token)
  home : ∀ entry ∈ state.entries, entry.phase = .leased →
    state.home entry.run = some entry.lane
  counted : ∀ entry ∈ state.entries, entry.token = state.claims.count entry.id
  known : ∀ job ∈ state.claims, ∃ entry ∈ state.entries, entry.id = job

variable {state : State Job Run Lane Time}

theorem Sound.of_empty (entries : state.entries = []) (claims : state.claims = []) :
    Sound state where
  ids := by simp [entries]
  bounded := by simp [entries]
  distinct := by simp [entries]
  single := by simp [entries]
  head := by simp [entries]
  held := by simp [entries]
  home := by simp [entries]
  counted := by simp [entries]
  known := by simp [claims]

section Change

variable {entries : List (Entry Job Run Lane Time)} {entry : Entry Job Run Lane Time}
  {change : Entry Job Run Lane Time → Entry Job Run Lane Time}

theorem mem_change (ids : (entries.map Entry.id).Nodup) (member : entry ∈ entries)
    {other : Entry Job Run Lane Time} :
    other ∈ Table.update Entry.id entry.id change entries ↔
      (other ∈ entries ∧ other.id ≠ entry.id) ∨ other = change entry := by
  rw [Table.mem_update]
  constructor
  · intro found
    rcases found with kept | ⟨old, oldMember, same, equal⟩
    · exact .inl kept
    · rw [List.inj_on_of_nodup_map ids oldMember member same] at equal
      exact .inr equal
  · intro found
    rcases found with kept | equal
    · exact .inl kept
    · exact .inr ⟨entry, member, rfl, equal⟩

/-- What follows for the changed table whatever the change does to the phases. -/
theorem Sound.places {state : State Job Run Lane Time} (sound : Sound state)
    (keeps : KeepsPlace change) (wanted : Job) :
    ((Table.update Entry.id wanted change state.entries).map Entry.id).Nodup ∧
      (∀ entry ∈ Table.update Entry.id wanted change state.entries,
        entry.sequence ≤ state.last entry.lane) ∧
      (Table.update Entry.id wanted change state.entries).Pairwise fun left right =>
        left.lane = right.lane → left.sequence ≠ right.sequence := by
  refine ⟨?_, ?_, ?_⟩
  · rw [Table.map_update keeps.id]
    exact sound.ids
  · intro entry member
    rcases Table.mem_update.mp member with ⟨kept, _⟩ | ⟨old, oldMember, _, rfl⟩
    · exact sound.bounded entry kept
    · rw [keeps.sequence, keeps.lane]
      exact sound.bounded old oldMember
  · rw [Table.update, List.pairwise_map]
    apply sound.distinct.imp
    intro left right different
    have place (entry : Entry Job Run Lane Time) :
        (if entry.id = wanted then change entry else entry).lane = entry.lane ∧
          (if entry.id = wanted then change entry else entry).sequence = entry.sequence := by
      split
      · exact ⟨keeps.lane entry, keeps.sequence entry⟩
      · exact ⟨rfl, rfl⟩
    rw [(place left).1, (place left).2, (place right).1, (place right).2]
    exact different

end Change

variable [DecidableEq Run] [DecidableEq Lane] [LinearOrder Time]

/-! ## Steps -/

/-- The entry is leased, its lease runs, and its run is held by it. -/
structure Fenced (state : State Job Run Lane Time) (entry : Entry Job Run Lane Time) :
    Prop where
  member : entry ∈ state.entries
  leased : entry.phase = .leased
  running : ∃ deadline, entry.deadline = some deadline ∧ state.now < deadline
  held : state.holder entry.run = some (entry.id, entry.token)

inductive Step : State Job Run Lane Time → State Job Run Lane Time → Prop
  | tick {state : State Job Run Lane Time} (later : Time) (order : state.now ≤ later) :
      Step state { state with now := later }
  | register {state : State Job Run Lane Time} (run : Run) (lane : Lane)
      (fresh : state.home run = none) :
      Step state { state with home := Function.update state.home run (some lane) }
  | enqueue {state : State Job Run Lane Time} (entry : Entry Job Run Lane Time)
      (waiting : entry.phase = .waiting) (token : entry.token = 0)
      (fresh : ∀ other ∈ state.entries, other.id ≠ entry.id)
      (next : entry.sequence = state.last entry.lane + 1) :
      Step state
        { state with
          entries := state.entries ++ [entry]
          last := Function.update state.last entry.lane entry.sequence }
  | lease {state : State Job Run Lane Time} (entry : Entry Job Run Lane Time)
      (deadline : Option Time) (member : entry ∈ state.entries)
      (waiting : entry.phase = .waiting) (home : state.home entry.run = some entry.lane)
      (head : ∀ other ∈ state.entries, other.lane = entry.lane →
        other.phase ≠ .finished → entry.sequence ≤ other.sequence)
      (free : ∀ other ∈ state.entries, other.lane = entry.lane → other.phase ≠ .leased) :
      Step state
        { state with
          entries := Table.update Entry.id entry.id (Entry.lease deadline) state.entries
          holder := Function.update state.holder entry.run
            (some (entry.id, entry.token + 1))
          claims := state.claims ++ [entry.id] }
  | renew {state : State Job Run Lane Time} (entry : Entry Job Run Lane Time)
      (deadline : Option Time) (fenced : Fenced state entry) :
      Step state
        { state with
          entries := Table.update Entry.id entry.id (Entry.renew deadline) state.entries }
  | release {state : State Job Run Lane Time} (entry : Entry Job Run Lane Time)
      (phase : Phase) (ended : phase ≠ .leased) (fenced : Fenced state entry) :
      Step state
        { state with
          entries := Table.update Entry.id entry.id (Entry.release phase) state.entries
          holder := Function.update state.holder entry.run none }

/-! ## Every step keeps the invariant -/

theorem Sound.enqueue (sound : Sound state) {entry : Entry Job Run Lane Time}
    (waiting : entry.phase = .waiting) (token : entry.token = 0)
    (fresh : ∀ other ∈ state.entries, other.id ≠ entry.id)
    (next : entry.sequence = state.last entry.lane + 1) :
    Sound
      { state with
        entries := state.entries ++ [entry]
        last := Function.update state.last entry.lane entry.sequence } := by
  have old {other : Entry Job Run Lane Time} (member : other ∈ state.entries ++ [entry])
      (leased : other.phase = .leased) : other ∈ state.entries := by
    rcases List.mem_append.mp member with earlier | last
    · exact earlier
    · rw [List.mem_singleton.mp last, waiting] at leased
      cases leased
  have below : ∀ other ∈ state.entries, other.lane = entry.lane →
      other.sequence < entry.sequence := by
    intro other member lane
    have bound := sound.bounded other member
    rw [lane] at bound
    omega
  constructor
  case ids =>
    rw [List.map_append, List.map_singleton]
    refine List.Nodup.append sound.ids (List.nodup_singleton _) ?_
    intro job member single
    rw [List.mem_singleton.mp single] at member
    rcases List.mem_map.mp member with ⟨other, present, equal⟩
    exact fresh other present equal
  case bounded =>
    intro other member
    dsimp only
    rcases List.mem_append.mp member with earlier | last
    · by_cases lane : other.lane = entry.lane
      · rw [lane, Function.update_self]
        exact Nat.le_of_lt (below other earlier lane)
      · rw [Function.update_of_ne lane]
        exact sound.bounded other earlier
    · simp [List.mem_singleton.mp last]
  case distinct =>
    rw [List.pairwise_append]
    refine ⟨sound.distinct, List.pairwise_singleton _ _, ?_⟩
    intro other member last lastMember lane
    rw [List.mem_singleton.mp lastMember] at lane ⊢
    exact Nat.ne_of_lt (below other member lane)
  case single =>
    intro left leftMember right rightMember leftLeased rightLeased
    exact sound.single left (old leftMember leftLeased) right (old rightMember rightLeased)
      leftLeased rightLeased
  case head =>
    intro leased leasedMember phase other member lane active
    have earlierLeased := old leasedMember phase
    rcases List.mem_append.mp member with earlier | last
    · exact sound.head leased earlierLeased phase other earlier lane active
    · rw [List.mem_singleton.mp last] at lane ⊢
      exact Nat.le_of_lt (below leased earlierLeased lane.symm)
  case held =>
    intro leased member phase
    exact sound.held leased (old member phase) phase
  case home =>
    intro leased member phase
    exact sound.home leased (old member phase) phase
  case counted =>
    intro other member
    rcases List.mem_append.mp member with earlier | last
    · exact sound.counted other earlier
    · rw [List.mem_singleton.mp last, token, eq_comm, List.count_eq_zero]
      intro claimed
      rcases sound.known entry.id claimed with ⟨known, present, equal⟩
      exact fresh known present equal
  case known =>
    intro job claimed
    rcases sound.known job claimed with ⟨known, present, equal⟩
    exact ⟨known, List.mem_append_left _ present, equal⟩

theorem Sound.lease (sound : Sound state) {entry : Entry Job Run Lane Time} (deadline : Option Time)
    (member : entry ∈ state.entries) (home : state.home entry.run = some entry.lane)
    (head : ∀ other ∈ state.entries, other.lane = entry.lane →
      other.phase ≠ .finished → entry.sequence ≤ other.sequence)
    (free : ∀ other ∈ state.entries, other.lane = entry.lane → other.phase ≠ .leased) :
    Sound
      { state with
        entries := Table.update Entry.id entry.id (Entry.lease deadline) state.entries
        holder := Function.update state.holder entry.run
          (some (entry.id, entry.token + 1))
        claims := state.claims ++ [entry.id] } := by
  have places := sound.places (keepsPlace_lease deadline) entry.id
  have found {other : Entry Job Run Lane Time} :
      other ∈ Table.update Entry.id entry.id (Entry.lease deadline) state.entries ↔
        (other ∈ state.entries ∧ other.id ≠ entry.id) ∨ other = entry.lease deadline :=
    mem_change sound.ids member
  -- A lease that was there before is in another lane, so it holds another run.
  have elsewhere {other : Entry Job Run Lane Time} (present : other ∈ state.entries)
      (leased : other.phase = .leased) : other.lane ≠ entry.lane ∧ other.run ≠ entry.run := by
    have lane : other.lane ≠ entry.lane := fun same => free other present same leased
    refine ⟨lane, ?_⟩
    intro run
    have otherHome := sound.home other present leased
    rw [run, home, Option.some.injEq] at otherHome
    exact lane otherHome.symm
  refine ⟨places.1, places.2.1, places.2.2, ?_, ?_, ?_, ?_, ?_, ?_⟩
  · intro left leftMember right rightMember leftLeased rightLeased lane
    rcases found.mp leftMember with ⟨leftOld, _⟩ | rfl
    · rcases found.mp rightMember with ⟨rightOld, _⟩ | rfl
      · exact sound.single left leftOld right rightOld leftLeased rightLeased lane
      · exact absurd lane (elsewhere leftOld leftLeased).1
    · rcases found.mp rightMember with ⟨rightOld, _⟩ | rfl
      · exact absurd lane.symm (elsewhere rightOld rightLeased).1
      · rfl
  · intro leased leasedMember phase other otherMember lane active
    rcases found.mp leasedMember with ⟨leasedOld, _⟩ | rfl
    · rcases found.mp otherMember with ⟨otherOld, _⟩ | rfl
      · exact sound.head leased leasedOld phase other otherOld lane active
      · exact absurd lane.symm (elsewhere leasedOld phase).1
    · rcases found.mp otherMember with ⟨otherOld, _⟩ | rfl
      · exact head other otherOld lane active
      · exact Nat.le_refl _
  · intro leased leasedMember phase
    dsimp only
    rcases found.mp leasedMember with ⟨leasedOld, _⟩ | rfl
    · rw [Function.update_of_ne (elsewhere leasedOld phase).2]
      exact sound.held leased leasedOld phase
    · exact Function.update_self _ _ _
  · intro leased leasedMember phase
    rcases found.mp leasedMember with ⟨leasedOld, _⟩ | rfl
    · exact sound.home leased leasedOld phase
    · exact home
  · intro other otherMember
    rcases found.mp otherMember with ⟨otherOld, different⟩ | rfl
    · rw [List.count_append, List.count_singleton, beq_false_of_ne (Ne.symm different)]
      exact sound.counted other otherOld
    · rw [List.count_append, List.count_singleton]
      simp [Entry.lease, sound.counted entry member]
  · intro job claimed
    have present : ∃ old ∈ state.entries, old.id = job := by
      rcases List.mem_append.mp claimed with earlier | last
      · exact sound.known job earlier
      · exact ⟨entry, member, (List.mem_singleton.mp last).symm⟩
    rcases present with ⟨old, oldMember, equal⟩
    by_cases same : old.id = entry.id
    · exact ⟨Entry.lease deadline entry, found.mpr (.inr rfl), same.symm.trans equal⟩
    · exact ⟨old, found.mpr (.inl ⟨oldMember, same⟩), equal⟩

theorem Sound.renew (sound : Sound state) {entry : Entry Job Run Lane Time} (deadline : Option Time)
    (member : entry ∈ state.entries) :
    Sound
      { state with
        entries := Table.update Entry.id entry.id (Entry.renew deadline) state.entries } := by
  have places := sound.places (keepsPlace_renew deadline) entry.id
  -- Every entry of the new table has an old one that differs in its deadline only.
  have found {other : Entry Job Run Lane Time}
      (present : other ∈ Table.update Entry.id entry.id (Entry.renew deadline)
        state.entries) : ∃ old ∈ state.entries, old.renew other.deadline = other := by
    rcases Table.mem_update.mp present with ⟨kept, _⟩ | ⟨old, oldMember, _, rfl⟩
    · exact ⟨other, kept, rfl⟩
    · exact ⟨old, oldMember, rfl⟩
  refine ⟨places.1, places.2.1, places.2.2, ?_, ?_, ?_, ?_, ?_, ?_⟩
  · intro left leftMember right rightMember leftLeased rightLeased lane
    rcases found leftMember with ⟨leftOld, leftPresent, leftEqual⟩
    rcases found rightMember with ⟨rightOld, rightPresent, rightEqual⟩
    rw [← leftEqual] at leftLeased lane
    rw [← rightEqual] at rightLeased lane
    have same := sound.single leftOld leftPresent rightOld rightPresent leftLeased
      rightLeased lane
    apply List.inj_on_of_nodup_map places.1 leftMember rightMember
    rw [← leftEqual, ← rightEqual, same]
    rfl
  · intro leased leasedMember phase other otherMember lane active
    rcases found leasedMember with ⟨leasedOld, leasedPresent, leasedEqual⟩
    rcases found otherMember with ⟨otherOld, otherPresent, otherEqual⟩
    rw [← leasedEqual] at phase lane ⊢
    rw [← otherEqual] at lane active ⊢
    exact sound.head leasedOld leasedPresent phase otherOld otherPresent lane active
  · intro leased leasedMember phase
    rcases found leasedMember with ⟨leasedOld, leasedPresent, leasedEqual⟩
    rw [← leasedEqual] at phase ⊢
    exact sound.held leasedOld leasedPresent phase
  · intro leased leasedMember phase
    rcases found leasedMember with ⟨leasedOld, leasedPresent, leasedEqual⟩
    rw [← leasedEqual] at phase ⊢
    exact sound.home leasedOld leasedPresent phase
  · intro other otherMember
    rcases found otherMember with ⟨otherOld, otherPresent, otherEqual⟩
    rw [← otherEqual]
    exact sound.counted otherOld otherPresent
  · intro job claimed
    rcases sound.known job claimed with ⟨old, oldMember, equal⟩
    by_cases same : old.id = entry.id
    · exact ⟨entry.renew deadline, Table.mem_update.mpr (.inr ⟨entry, member, rfl, rfl⟩),
        same.symm.trans equal⟩
    · exact ⟨old, Table.mem_update.mpr (.inl ⟨oldMember, same⟩), equal⟩

theorem Sound.release (sound : Sound state) {entry : Entry Job Run Lane Time} {phase : Phase}
    (ended : phase ≠ .leased) (member : entry ∈ state.entries) (wasLeased : entry.phase = .leased) :
    Sound
      { state with
        entries := Table.update Entry.id entry.id (Entry.release phase) state.entries
        holder := Function.update state.holder entry.run none } := by
  have places := sound.places (keepsPlace_release phase) entry.id
  have found {other : Entry Job Run Lane Time} :
      other ∈ Table.update Entry.id entry.id (Entry.release phase) state.entries ↔
        (other ∈ state.entries ∧ other.id ≠ entry.id) ∨ other = entry.release phase :=
    mem_change sound.ids member
  have stillLeased {other : Entry Job Run Lane Time}
      (present : other ∈ Table.update Entry.id entry.id (Entry.release phase)
        state.entries) (leased : other.phase = .leased) :
      other ∈ state.entries ∧ other.id ≠ entry.id := by
    rcases found.mp present with kept | rfl
    · exact kept
    · exact absurd leased ended
  refine ⟨places.1, places.2.1, places.2.2, ?_, ?_, ?_, ?_, ?_, ?_⟩
  · intro left leftMember right rightMember leftLeased rightLeased lane
    exact sound.single left (stillLeased leftMember leftLeased).1 right
      (stillLeased rightMember rightLeased).1 leftLeased rightLeased lane
  · intro leased leasedMember leasedPhase other otherMember lane active
    have kept := (stillLeased leasedMember leasedPhase).1
    rcases found.mp otherMember with ⟨otherOld, _⟩ | rfl
    · exact sound.head leased kept leasedPhase other otherOld lane active
    · refine sound.head leased kept leasedPhase entry member lane ?_
      rw [wasLeased]
      exact Phase.noConfusion
  · intro leased leasedMember leasedPhase
    dsimp only
    rcases stillLeased leasedMember leasedPhase with ⟨kept, different⟩
    have run : leased.run ≠ entry.run := by
      intro same
      have home := sound.home leased kept leasedPhase
      rw [same, sound.home entry member wasLeased, Option.some.injEq] at home
      rw [sound.single leased kept entry member leasedPhase wasLeased home.symm] at different
      exact different rfl
    rw [Function.update_of_ne run]
    exact sound.held leased kept leasedPhase
  · intro leased leasedMember leasedPhase
    exact sound.home leased (stillLeased leasedMember leasedPhase).1 leasedPhase
  · intro other otherMember
    rcases found.mp otherMember with ⟨otherOld, _⟩ | rfl
    · exact sound.counted other otherOld
    · exact sound.counted entry member
  · intro job claimed
    rcases sound.known job claimed with ⟨old, oldMember, equal⟩
    by_cases same : old.id = entry.id
    · exact ⟨entry.release phase, found.mpr (.inr rfl), same.symm.trans equal⟩
    · exact ⟨old, found.mpr (.inl ⟨oldMember, same⟩), equal⟩

variable {before after : State Job Run Lane Time}

theorem Sound.step (sound : Sound before) (step : Step before after) : Sound after := by
  cases step with
  | tick later order =>
      exact ⟨sound.ids, sound.bounded, sound.distinct, sound.single, sound.head,
        sound.held, sound.home, sound.counted, sound.known⟩
  | register run lane fresh =>
      refine ⟨sound.ids, sound.bounded, sound.distinct, sound.single, sound.head,
        sound.held, ?_, sound.counted, sound.known⟩
      intro entry member leased
      dsimp only
      have home := sound.home entry member leased
      by_cases same : entry.run = run
      · rw [same, fresh] at home
        cases home
      · rw [Function.update_of_ne same]
        exact home
  | enqueue entry waiting token fresh next => exact sound.enqueue waiting token fresh next
  | lease entry deadline member waiting home head free =>
      exact sound.lease deadline member home head free
  | renew entry deadline fenced => exact sound.renew deadline fenced.member
  | release entry phase ended fenced =>
      exact sound.release ended fenced.member fenced.leased

abbrev Steps : State Job Run Lane Time → State Job Run Lane Time → Prop :=
  Relation.ReflTransGen Step

theorem Sound.steps (sound : Sound before) (steps : Steps before after) : Sound after := by
  refine Foundation.Run.preserves ?_ steps sound
  intro earlier later step holds
  exact holds.step step

/-! ## Tokens grow -/

/-- Where an entry goes in one step. -/
theorem Step.entry (step : Step before after) {entry : Entry Job Run Lane Time}
    (member : entry ∈ before.entries) :
    ∃ next ∈ after.entries, next.id = entry.id ∧ entry.token ≤ next.token := by
  have changed (wanted : Job)
      (change : Entry Job Run Lane Time → Entry Job Run Lane Time)
      (keeps : ∀ entry, (change entry).id = entry.id)
      (grows : ∀ entry, entry.token ≤ (change entry).token) :
      ∃ next ∈ Table.update Entry.id wanted change before.entries,
        next.id = entry.id ∧ entry.token ≤ next.token := by
    by_cases same : entry.id = wanted
    · exact ⟨change entry, Table.mem_update.mpr (.inr ⟨entry, member, same, rfl⟩),
        keeps entry, grows entry⟩
    · exact ⟨entry, Table.mem_update.mpr (.inl ⟨member, same⟩), rfl, Nat.le_refl _⟩
  cases step with
  | tick => exact ⟨entry, member, rfl, Nat.le_refl _⟩
  | register => exact ⟨entry, member, rfl, Nat.le_refl _⟩
  | enqueue => exact ⟨entry, List.mem_append_left _ member, rfl, Nat.le_refl _⟩
  | lease => exact changed _ _ (fun _ => rfl) fun _ => Nat.le_succ _
  | renew => exact changed _ _ (fun _ => rfl) fun _ => Nat.le_refl _
  | release => exact changed _ _ (fun _ => rfl) fun _ => Nat.le_refl _

theorem Steps.entry (steps : Steps before after) {entry : Entry Job Run Lane Time}
    (member : entry ∈ before.entries) :
    ∃ next ∈ after.entries, next.id = entry.id ∧ entry.token ≤ next.token := by
  induction steps with
  | refl => exact ⟨entry, member, rfl, Nat.le_refl _⟩
  | tail _ last induction =>
      rcases induction with ⟨middle, middleMember, middleId, middleToken⟩
      rcases last.entry middleMember with ⟨next, nextMember, nextId, nextToken⟩
      exact ⟨next, nextMember, nextId.trans middleId, Nat.le_trans middleToken nextToken⟩

/-! ## Overtaken leases -/

/-- The lease of `job` with the given token is over: a later one was handed out, it was
given back, or its deadline has passed. -/
def Overtaken (state : State Job Run Lane Time) (job : Job) (token : Nat) : Prop :=
  ∃ entry ∈ state.entries, entry.id = job ∧
    (token < entry.token ∨ entry.token = token ∧
      (entry.phase ≠ .leased ∨
        ∀ deadline, entry.deadline = some deadline → deadline ≤ state.now))

theorem Overtaken.not_fenced {job : Job} {token : Nat} (overtaken : Overtaken state job token)
    (ids : (state.entries.map Entry.id).Nodup) {entry : Entry Job Run Lane Time}
    (fenced : Fenced state entry) (id : entry.id = job) : entry.token ≠ token := by
  rcases overtaken with ⟨lapsed, member, lapsedId, ended⟩
  rw [List.inj_on_of_nodup_map ids member fenced.member (lapsedId.trans id.symm)] at ended
  intro equal
  rcases ended with later | ⟨_, left | passed⟩
  · omega
  · exact left fenced.leased
  · rcases fenced.running with ⟨deadline, found, running⟩
    exact absurd (passed deadline found) (not_le.mpr running)

/-- A lease that is lapsed stays lapsed. -/
theorem Overtaken.step {job : Job} {token : Nat} (overtaken : Overtaken before job token)
    (sound : Sound before) (step : Step before after) : Overtaken after job token := by
  have none_fenced {entry : Entry Job Run Lane Time} (fenced : Fenced before entry)
      (id : entry.id = job) : token < entry.token := by
    have different := overtaken.not_fenced sound.ids fenced id
    rcases overtaken with ⟨lapsed, member, lapsedId, ended⟩
    rw [List.inj_on_of_nodup_map sound.ids member fenced.member (lapsedId.trans id.symm)]
      at ended
    rcases ended with later | ⟨equal, _⟩
    · exact later
    · exact absurd equal different
  rcases overtaken with ⟨lapsed, member, lapsedId, ended⟩
  cases step with
  | tick later order =>
      refine ⟨lapsed, member, lapsedId, ended.imp id ?_⟩
      intro current
      refine ⟨current.1, current.2.imp id ?_⟩
      intro passed deadline found
      exact (passed deadline found).trans order
  | register => exact ⟨lapsed, member, lapsedId, ended⟩
  | enqueue => exact ⟨lapsed, List.mem_append_left _ member, lapsedId, ended⟩
  | lease entry deadline present =>
      by_cases same : lapsed.id = entry.id
      · refine ⟨lapsed.lease deadline, Table.mem_update.mpr (.inr ⟨lapsed, member, same, rfl⟩),
          lapsedId, .inl ?_⟩
        show token < lapsed.token + 1
        rcases ended with later | current
        · omega
        · omega
      · exact ⟨lapsed, Table.mem_update.mpr (.inl ⟨member, same⟩), lapsedId, ended⟩
  | renew entry deadline fenced =>
      by_cases same : lapsed.id = entry.id
      · have later := none_fenced fenced (same.symm.trans lapsedId)
        rw [← List.inj_on_of_nodup_map sound.ids member fenced.member same] at later
        exact ⟨lapsed.renew deadline,
          Table.mem_update.mpr (.inr ⟨lapsed, member, same, rfl⟩), lapsedId, .inl later⟩
      · exact ⟨lapsed, Table.mem_update.mpr (.inl ⟨member, same⟩), lapsedId, ended⟩
  | release entry phase notLeased fenced =>
      by_cases same : lapsed.id = entry.id
      · have later := none_fenced fenced (same.symm.trans lapsedId)
        rw [← List.inj_on_of_nodup_map sound.ids member fenced.member same] at later
        exact ⟨lapsed.release phase,
          Table.mem_update.mpr (.inr ⟨lapsed, member, same, rfl⟩), lapsedId, .inl later⟩
      · exact ⟨lapsed, Table.mem_update.mpr (.inl ⟨member, same⟩), lapsedId, ended⟩

theorem Overtaken.steps {job : Job} {token : Nat} (overtaken : Overtaken before job token)
    (sound : Sound before) (steps : Steps before after) : Overtaken after job token := by
  induction steps with
  | refl => exact overtaken
  | tail earlier last induction => exact induction.step (sound.steps earlier) last

/-! ## Lanes are served in order -/

/-- An entry that has been leased has only finished entries before it in its lane. -/
def InOrder (entries : List (Entry Job Run Lane Time)) : Prop :=
  ∀ first ∈ entries, ∀ second ∈ entries, first.lane = second.lane →
    first.sequence < second.sequence → 0 < second.token → first.phase = .finished

/-- An unfinished entry may be changed when a lease is due to it. -/
theorem InOrder.change {entries : List (Entry Job Run Lane Time)}
    {entry : Entry Job Run Lane Time}
    {change : Entry Job Run Lane Time → Entry Job Run Lane Time} (order : InOrder entries)
    (ids : (entries.map Entry.id).Nodup) (keeps : KeepsPlace change)
    (member : entry ∈ entries) (active : entry.phase ≠ .finished)
    (due : ∀ first ∈ entries, first.lane = entry.lane → first.sequence < entry.sequence →
      0 < (change entry).token → first.phase = .finished) :
    InOrder (Table.update Entry.id entry.id change entries) := by
  intro first firstMember second secondMember lane earlier leased
  rcases (mem_change ids member).mp firstMember with ⟨firstOld, _⟩ | rfl
  · rcases (mem_change ids member).mp secondMember with ⟨secondOld, _⟩ | rfl
    · exact order first firstOld second secondOld lane earlier leased
    · rw [keeps.lane] at lane
      rw [keeps.sequence] at earlier
      exact due first firstOld lane earlier leased
  · rcases (mem_change ids member).mp secondMember with ⟨secondOld, _⟩ | rfl
    · rw [keeps.lane] at lane
      rw [keeps.sequence] at earlier
      exact absurd (order entry member second secondOld lane earlier leased) active
    · omega

theorem InOrder.step (order : InOrder before.entries) (sound : Sound before)
    (step : Step before after) : InOrder after.entries := by
  have active {entry : Entry Job Run Lane Time} (fenced : Fenced before entry) :
      entry.phase ≠ .finished := by
    rw [fenced.leased]
    exact Phase.noConfusion
  cases step with
  | tick => exact order
  | register => exact order
  | enqueue entry waiting token fresh next =>
      intro first firstMember second secondMember lane earlier leased
      -- The new entry has not been leased, and it comes last in its lane.
      have secondOld : second ∈ before.entries := by
        rcases List.mem_append.mp secondMember with old | last
        · exact old
        · rw [List.mem_singleton.mp last] at leased
          omega
      rcases List.mem_append.mp firstMember with old | last
      · exact order first old second secondOld lane earlier leased
      · have bound := sound.bounded second secondOld
        rw [← lane, List.mem_singleton.mp last] at bound
        rw [List.mem_singleton.mp last] at earlier
        omega
  | lease entry deadline member waiting home head free =>
      apply order.change sound.ids (keepsPlace_lease deadline) member
      · rw [waiting]
        exact Phase.noConfusion
      · intro first firstMember lane earlier _
        by_contra unfinished
        have ahead := head first firstMember lane unfinished
        omega
  | renew entry deadline fenced =>
      apply order.change sound.ids (keepsPlace_renew deadline) fenced.member (active fenced)
      intro first firstMember
      exact order first firstMember entry fenced.member
  | release entry phase ended fenced =>
      apply order.change sound.ids (keepsPlace_release phase) fenced.member (active fenced)
      intro first firstMember
      exact order first firstMember entry fenced.member

theorem InOrder.steps (order : InOrder before.entries) (sound : Sound before)
    (steps : Steps before after) : InOrder after.entries := by
  induction steps with
  | refl => exact order
  | tail earlier last induction => exact induction.step (sound.steps earlier) last

end FencedLanes

end Foundation
