import SupportGuard.Foundation.Newest
import SupportGuard.Memory.AttemptedActions

/-! # The order of the merged actions

The states of distinct approvals are merged alike in every order, and once more without effect,
as long as the two orders of snapshots agree where one approval is merged with itself. -/

namespace SupportGuard

open Foundation Fallible

namespace AttemptedActions

section

variable (fromIsoformat : List Char → Option DateTime)

/-- What a snapshot is displayed by, the least order where it cannot be read. -/
def rankOf (item : JsonMembers) : DisplayOrder :=
  match displayOrder fromIsoformat item with
  | .ok order => order
  | .error _ => toLex (firstInstant, toLex (0, ""))

def Readable (item : JsonMembers) : Prop :=
  displayOrder fromIsoformat item = .ok (rankOf fromIsoformat item)

def active (item : JsonMembers) : Bool :=
  match isActive item with
  | .ok alive => alive
  | .error _ => false

def Asked (item : JsonMembers) : Prop :=
  isActive item = .ok (active item)

/-- Active items come first, and the newest of each kind. -/
def priority (item : JsonMembers) : Bool ×ₗ DisplayOrderᵒᵈ :=
  toLex (!active item, OrderDual.toDual (rankOf fromIsoformat item))

def newestFirst (items : List JsonMembers) : List JsonMembers :=
  items.insertionSort fun first second => rankOf fromIsoformat second ≤ rankOf fromIsoformat first

def displayed (items : List JsonMembers) : List JsonMembers :=
  items.insertionSort fun first second => rankOf fromIsoformat first ≤ rankOf fromIsoformat second

def byPriority (items : List JsonMembers) : List JsonMembers :=
  items.insertionSort fun first second =>
    priority fromIsoformat first ≤ priority fromIsoformat second

/-- What is kept of items with distinct keys. -/
def kept (limit : Nat) (items : List JsonMembers) : List JsonMembers :=
  displayed fromIsoformat ((byPriority fromIsoformat items).take limit)

end

/-! ## Sorting -/

section

variable {fromIsoformat : List Char → Option DateTime} {items : List JsonMembers}

variable {item : JsonMembers}

theorem Readable.of_ok {order : DisplayOrder} (read : displayOrder fromIsoformat item = .ok order) :
    Readable fromIsoformat item := by
  rw [Readable, rankOf, read]

theorem rankOf_eq {order : DisplayOrder} (read : displayOrder fromIsoformat item = .ok order) :
    rankOf fromIsoformat item = order := by
  rw [rankOf, read]

theorem Asked.of_ok {alive : Bool} (asked : isActive item = .ok alive) :
    Asked item := by
  rw [Asked, active, asked]

theorem withOrder_eq_ok_iff {entry : DisplayOrder × JsonMembers} :
    withOrder fromIsoformat item = .ok entry ↔
      Readable fromIsoformat item ∧ (rankOf fromIsoformat item, item) = entry := by
  constructor
  · intro returned
    rcases bind_eq_ok_iff.mp returned with ⟨order, read, equal⟩
    cases equal
    exact ⟨Readable.of_ok read, by rw [rankOf_eq read]⟩
  · intro both
    rcases both with ⟨read, equal⟩
    rw [← equal]
    exact bind_eq_ok_iff.mpr ⟨_, read, rfl⟩

theorem mapM_withOrder_iff {ranked : List (DisplayOrder × JsonMembers)} :
    items.mapM (withOrder fromIsoformat) = .ok ranked ↔
      (∀ item ∈ items, Readable fromIsoformat item) ∧
        items.map (fun item => (rankOf fromIsoformat item, item)) = ranked := by
  rw [mapM_eq_ok_iff]
  simp only [withOrder_eq_ok_iff]
  constructor
  · intro each
    induction each with
    | nil => exact ⟨fun item member => absurd member List.not_mem_nil, rfl⟩
    | cons first _ induction =>
        rcases induction with ⟨readable, ranks⟩
        refine ⟨?_, ?_⟩
        · intro item member
          rcases List.mem_cons.mp member with same | later
          · exact same ▸ first.1
          · exact readable item later
        · rw [List.map_cons, first.2, ranks]
  · intro both
    rcases both with ⟨readable, ranks⟩
    rw [← ranks, List.forall₂_map_right_iff, List.forall₂_same]
    exact fun item member => ⟨readable item member, rfl⟩

/-- Items that are sorted with their ranks are sorted by them. -/
theorem sortRanked_eq_ok_iff (before : DisplayOrder → DisplayOrder → Prop) [DecidableRel before]
    {sorted : List JsonMembers} :
    (do let ranked ← items.mapM (withOrder fromIsoformat)
        .ok ((ranked.insertionSort fun left right => before left.1 right.1).map Prod.snd)) =
          Except.ok sorted ↔
      (∀ item ∈ items, Readable fromIsoformat item) ∧
        items.insertionSort (fun first second =>
          before (rankOf fromIsoformat first) (rankOf fromIsoformat second)) = sorted := by
  have unranked : ((items.map fun item => (rankOf fromIsoformat item, item)).insertionSort
      fun left right => before left.1 right.1).map Prod.snd =
        items.insertionSort fun first second =>
          before (rankOf fromIsoformat first) (rankOf fromIsoformat second) := by
    rw [List.map_insertionSort (fun left right : DisplayOrder × JsonMembers =>
      before left.1 right.1) fun first second =>
        before (rankOf fromIsoformat first) (rankOf fromIsoformat second)]
    · rw [List.map_map]
      exact congrArg _ (List.map_id items)
    · intro left leftMember right rightMember
      rcases List.mem_map.mp leftMember with ⟨first, _, rfl⟩
      rcases List.mem_map.mp rightMember with ⟨second, _, rfl⟩
      exact Iff.rfl
  simp only [bind_eq_ok_iff, mapM_withOrder_iff, Except.ok.injEq]
  constructor
  · intro returned
    rcases returned with ⟨ranked, ⟨readable, rfl⟩, equal⟩
    exact ⟨readable, unranked.symm.trans equal⟩
  · intro both
    exact ⟨_, ⟨both.1, rfl⟩, unranked.trans both.2⟩

theorem sortNewestFirst_eq_ok_iff {sorted : List JsonMembers} :
    sortNewestFirst fromIsoformat items = .ok sorted ↔
      (∀ item ∈ items, Readable fromIsoformat item) ∧
        newestFirst fromIsoformat items = sorted :=
  sortRanked_eq_ok_iff fun left right => right ≤ left

theorem sortDisplayed_eq_ok_iff {sorted : List JsonMembers} :
    sortDisplayed fromIsoformat items = .ok sorted ↔
      (∀ item ∈ items, Readable fromIsoformat item) ∧
        displayed fromIsoformat items = sorted :=
  sortRanked_eq_ok_iff fun left right => left ≤ right

theorem activeItems_eq_ok_iff {alive : List JsonMembers} :
    activeItems items = .ok alive ↔
      (∀ item ∈ items, Asked item) ∧ items.filter active = alive := by
  induction items generalizing alive with
  | nil => simp [activeItems]
  | cons item rest induction =>
      simp only [activeItems, bind_eq_ok_iff, induction, Except.ok.injEq, List.forall_mem_cons]
      constructor
      · intro returned
        rcases returned with ⟨answer, asked, others, ⟨later, rfl⟩, equal⟩
        have known : active item = answer := by rw [active, asked]
        refine ⟨⟨Asked.of_ok asked, later⟩, ?_⟩
        rw [← equal, List.filter_cons, known]
      · intro both
        rcases both with ⟨⟨asked, later⟩, equal⟩
        refine ⟨active item, asked, _, ⟨later, rfl⟩, ?_⟩
        rw [← equal, List.filter_cons]

theorem newestFirst_perm (items : List JsonMembers) :
    (newestFirst fromIsoformat items).Perm items :=
  List.perm_insertionSort _ items

theorem displayed_perm (items : List JsonMembers) :
    (displayed fromIsoformat items).Perm items :=
  List.perm_insertionSort _ items

theorem byPriority_perm (items : List JsonMembers) :
    (byPriority fromIsoformat items).Perm items :=
  List.perm_insertionSort _ items

/-! ## Retention by priority -/

theorem rank_of_priority {first second : JsonMembers}
    (same : priority fromIsoformat first = priority fromIsoformat second) :
    active first = active second ∧ rankOf fromIsoformat first = rankOf fromIsoformat second := by
  have parts := Prod.ext_iff.mp (toLex.injective same)
  exact ⟨Bool.not_inj parts.1, OrderDual.toDual.injective parts.2⟩

theorem active_of_priority {value : Bool ×ₗ DisplayOrderᵒᵈ}
    (same : priority fromIsoformat item = value) : active item = !(ofLex value).1 := by
  rw [← same]
  exact (Bool.not_not _).symm

/-- Items that agree on being active are not torn apart. -/
theorem filter_split {chosen : JsonMembers → Bool} {alive : Bool} (items : List JsonMembers)
    (agree : ∀ item, chosen item = true → active item = alive) :
    (items.filter active ++ items.filter fun item => !active item).filter chosen =
      items.filter chosen := by
  rw [List.filter_append, List.filter_filter, List.filter_filter]
  have whole (kind : JsonMembers → Bool) (all : ∀ item, chosen item = true → kind item = true) :
      (items.filter fun item => chosen item && kind item) = items.filter chosen := by
    apply List.filter_congr
    intro item _
    cases holds : chosen item with
    | true => rw [all item holds, Bool.true_and]
    | false => rw [Bool.false_and]
  have nothing (kind : JsonMembers → Bool) (no : ∀ item, chosen item = true → kind item = false) :
      (items.filter fun item => chosen item && kind item) = [] := by
    apply List.filter_eq_nil_iff.mpr
    intro item _ both
    rw [Bool.and_eq_true] at both
    rw [no item both.1] at both
    cases both.2
  cases alive with
  | true =>
      rw [whole active agree, nothing (fun item => !active item), List.append_nil]
      intro item holds
      rw [agree item holds, Bool.not_true]
  | false =>
      rw [nothing active agree, whole (fun item => !active item), List.nil_append]
      intro item holds
      rw [agree item holds, Bool.not_false]

/-- Active items and the others behind them, each sorted, are sorted by priority. -/
theorem byPriority_eq (items : List JsonMembers) :
    byPriority fromIsoformat items =
      (newestFirst fromIsoformat items).filter active ++
        (newestFirst fromIsoformat items).filter fun item => !active item := by
  have sorted := List.pairwise_insertionSort
    (fun first second => rankOf fromIsoformat second ≤ rankOf fromIsoformat first) items
  symm
  apply @Newest.eq_of_ranks _ _ _ (priority fromIsoformat)
  · rw [List.pairwise_append]
    refine ⟨?_, ?_, ?_⟩
    · apply List.Pairwise.imp_of_mem _ (sorted.sublist List.filter_sublist)
      intro first second firstMember secondMember newer
      apply Prod.Lex.toLex_le_toLex.mpr
      rw [(List.mem_filter.mp firstMember).2, (List.mem_filter.mp secondMember).2]
      exact .inr ⟨rfl, newer⟩
    · apply List.Pairwise.imp_of_mem _ (sorted.sublist List.filter_sublist)
      intro first second firstMember secondMember newer
      apply Prod.Lex.toLex_le_toLex.mpr
      rw [(List.mem_filter.mp firstMember).2, (List.mem_filter.mp secondMember).2]
      exact .inr ⟨rfl, newer⟩
    · intro first firstMember second secondMember
      apply Prod.Lex.toLex_le_toLex.mpr
      rw [(List.mem_filter.mp firstMember).2, (List.mem_filter.mp secondMember).2]
      exact .inl rfl
  · exact List.pairwise_insertionSort _ items
  · intro value
    have newest : (newestFirst fromIsoformat items).filter
          (fun item => priority fromIsoformat item = value) =
        items.filter fun item => priority fromIsoformat item = value := by
      apply Newest.filter_insertionSort
      intro item other itemValue otherValue
      exact le_of_eq (rank_of_priority
        ((of_decide_eq_true otherValue).trans (of_decide_eq_true itemValue).symm)).2
    have prior : (byPriority fromIsoformat items).filter
          (fun item => priority fromIsoformat item = value) =
        items.filter fun item => priority fromIsoformat item = value := by
      apply Newest.filter_insertionSort
      intro item other itemValue otherValue
      exact le_of_eq ((of_decide_eq_true itemValue).trans (of_decide_eq_true otherValue).symm)
    rw [prior, ← newest]
    exact filter_split _ fun item itemValue => active_of_priority (of_decide_eq_true itemValue)

variable {memory : ActionMemory}

theorem retainedActions_eq_ok_iff {limit : Nat} {retained : List JsonMembers} (room : 0 < limit)
    (distinct : ((memory.map Prod.snd).map identityKey).Nodup) :
    retainedActions fromIsoformat limit memory = .ok retained ↔
      (∀ entry ∈ memory, Readable fromIsoformat entry.2 ∧ Asked entry.2) ∧
        kept fromIsoformat limit (memory.map Prod.snd) = retained := by
  have sorted := @newestFirst_perm fromIsoformat (memory.map Prod.snd)
  have chosen : retain limit []
        ((newestFirst fromIsoformat (memory.map Prod.snd)).filter active ++
          (newestFirst fromIsoformat (memory.map Prod.snd)).take 1 ++
          newestFirst fromIsoformat (memory.map Prod.snd)) =
      (byPriority fromIsoformat (memory.map Prod.snd)).take limit := by
    rw [retain_eq_firsts room, Table.firsts_prioritized identityKey
      ((sorted.map identityKey).nodup_iff.mpr distinct), byPriority_eq]
  unfold retainedActions
  simp only [bind_eq_ok_iff, sortNewestFirst_eq_ok_iff, activeItems_eq_ok_iff,
    sortDisplayed_eq_ok_iff]
  constructor
  · intro returned
    rcases returned with ⟨newest, ⟨readable, rfl⟩, alive, ⟨asked, rfl⟩, _, equal⟩
    refine ⟨?_, ?_⟩
    · intro entry member
      have item : entry.2 ∈ memory.map Prod.snd := List.mem_map_of_mem member
      exact ⟨readable _ item, asked _ (sorted.symm.subset item)⟩
    · rw [← equal, chosen]
      rfl
  · intro both
    have each (item : JsonMembers) (member : item ∈ memory.map Prod.snd) :
        Readable fromIsoformat item ∧ Asked item := by
      rcases List.mem_map.mp member with ⟨entry, entryMember, rfl⟩
      exact both.1 entry entryMember
    refine ⟨_, ⟨fun item member => (each item member).1, rfl⟩, _,
      ⟨fun item member => (each item (sorted.subset member)).2, rfl⟩, ?_, ?_⟩
    · rw [chosen]
      intro item member
      exact (each item ((byPriority_perm _).subset (List.mem_of_mem_take member))).1
    · rw [chosen, ← both.2]
      rfl

/-- What is new may come in any order when priorities tell it apart. -/
theorem kept_append_perm {limit : Nat} {front new new' : List JsonMembers} (same : new.Perm new')
    (distinct : ∀ item ∈ new, ∀ other ∈ new,
      rankOf fromIsoformat item = rankOf fromIsoformat other → item = other) :
    kept fromIsoformat limit (front ++ new) = kept fromIsoformat limit (front ++ new') := by
  have sorted : byPriority fromIsoformat (front ++ new) =
      byPriority fromIsoformat (front ++ new') := by
    apply Newest.insertionSort_append_perm same
    intro item member other otherMember before after
    exact distinct item member other otherMember (rank_of_priority (le_antisymm before after)).2
  rw [kept, kept, sorted]

theorem mem_kept {limit : Nat} {items : List JsonMembers} :
    item ∈ kept fromIsoformat limit items ↔
      item ∈ (byPriority fromIsoformat items).take limit :=
  (displayed_perm _).mem_iff

/-- Items that were not kept are not kept behind the items that were. -/
theorem kept_again {limit : Nat} {items late : List JsonMembers}
    (dropped : ∀ item ∈ late, item ∈ items ∧ item ∉ kept fromIsoformat limit items) :
    kept fromIsoformat limit (kept fromIsoformat limit items ++ late) =
      kept fromIsoformat limit items := by
  have order := List.pairwise_insertionSort
    (fun first second => priority fromIsoformat first ≤ priority fromIsoformat second) items
  have parts : byPriority fromIsoformat items = (byPriority fromIsoformat items).take limit ++
      (byPriority fromIsoformat items).drop limit := (List.take_append_drop _ _).symm
  have behind : ∀ item ∈ late, item ∈ (byPriority fromIsoformat items).drop limit := by
    intro item member
    rcases dropped item member with ⟨present, out⟩
    have sorted := (@byPriority_perm fromIsoformat items).symm.subset present
    rw [parts] at sorted
    rcases List.mem_append.mp sorted with taken | left
    · exact absurd (mem_kept.mpr taken) out
    · exact left
  have whole : byPriority fromIsoformat (kept fromIsoformat limit items ++ late) =
      (byPriority fromIsoformat items).take limit ++ byPriority fromIsoformat late := by
    apply Newest.insertionSort_append_late (order.sublist (List.take_sublist _ _))
    · intro value
      apply Newest.filter_insertionSort
      intro item other itemValue otherValue
      exact le_of_eq (rank_of_priority
        ((of_decide_eq_true itemValue).trans (of_decide_eq_true otherValue).symm)).2
    · intro item member other otherMember
      have apart : (byPriority fromIsoformat items).Pairwise fun first second =>
        priority fromIsoformat first ≤ priority fromIsoformat second := order
      rw [parts] at apart
      exact (List.pairwise_append.mp apart).2.2 item member other (behind other otherMember)
  rw [kept, whole]
  cases late with
  | nil =>
      have nothing : byPriority fromIsoformat [] = [] := rfl
      rw [nothing, List.append_nil, List.take_take, Nat.min_self]
      rfl
  | cons first rest =>
      have left := List.length_pos_of_mem (behind first List.mem_cons_self)
      have full : ((byPriority fromIsoformat items).take limit).length = limit := by
        rw [List.length_drop] at left
        rw [List.length_take]
        omega
      rw [List.take_left' full]
      rfl

/-! ## Comparisons -/

/-- When both snapshots are of one approval, the one of the later version was observed later. -/
def OrdersAgree (fromIsoformat : List Char → Option DateTime) (candidate previous : JsonMembers) :
    Prop :=
  candidate.value "approval_id" = previous.value "approval_id" →
    ∀ newer older late early, versionOrder fromIsoformat candidate = .ok newer →
      versionOrder fromIsoformat previous = .ok older →
      displayOrder fromIsoformat candidate = .ok late →
      displayOrder fromIsoformat previous = .ok early → (older ≤ newer ↔ early ≤ late)

theorem OrdersAgree.refl (item : JsonMembers) : OrdersAgree fromIsoformat item item := by
  intro _ newer older late early first second third fourth
  cases first.symm.trans second
  cases third.symm.trans fourth
  exact ⟨fun _ => le_refl _, fun _ => le_refl _⟩

theorem versionOrder_readable :
    (∃ order, versionOrder fromIsoformat item = .ok order) ↔ Readable fromIsoformat item := by
  constructor
  · intro returned
    rcases returned with ⟨order, read⟩
    rcases bind_eq_ok_iff.mp read with ⟨version, first, read⟩
    rcases bind_eq_ok_iff.mp read with ⟨observed, second, _⟩
    exact Readable.of_ok (bind_eq_ok_iff.mpr ⟨observed, second,
      bind_eq_ok_iff.mpr ⟨version, first, rfl⟩⟩)
  · intro readable
    rcases bind_eq_ok_iff.mp readable with ⟨observed, second, read⟩
    rcases bind_eq_ok_iff.mp read with ⟨version, first, _⟩
    exact ⟨_, bind_eq_ok_iff.mpr ⟨version, first, bind_eq_ok_iff.mpr ⟨observed, second, rfl⟩⟩⟩

theorem attemptedActionIsNewer_readable {candidate previous : JsonMembers} {newer : Bool}
    (asked : attemptedActionIsNewer fromIsoformat candidate previous = .ok newer) :
    Readable fromIsoformat candidate ∧ Readable fromIsoformat previous := by
  unfold attemptedActionIsNewer at asked
  split at asked
  · rcases bind_eq_ok_iff.mp asked with ⟨first, candidateRead, asked⟩
    rcases bind_eq_ok_iff.mp asked with ⟨second, previousRead, _⟩
    exact ⟨versionOrder_readable.mp ⟨first, candidateRead⟩,
      versionOrder_readable.mp ⟨second, previousRead⟩⟩
  · rcases bind_eq_ok_iff.mp asked with ⟨first, candidateRead, asked⟩
    rcases bind_eq_ok_iff.mp asked with ⟨second, previousRead, _⟩
    exact ⟨Readable.of_ok candidateRead, Readable.of_ok previousRead⟩

theorem attemptedActionIsNewer_eq {candidate previous : JsonMembers}
    (candidateRead : Readable fromIsoformat candidate)
    (previousRead : Readable fromIsoformat previous)
    (agree : OrdersAgree fromIsoformat candidate previous) :
    attemptedActionIsNewer fromIsoformat candidate previous =
      .ok (decide (rankOf fromIsoformat previous ≤ rankOf fromIsoformat candidate)) := by
  unfold attemptedActionIsNewer
  split
  · rename_i same
    rcases versionOrder_readable.mpr candidateRead with ⟨newer, candidateVersion⟩
    rcases versionOrder_readable.mpr previousRead with ⟨older, previousVersion⟩
    have equal := agree same newer older _ _ candidateVersion previousVersion candidateRead
      previousRead
    apply bind_eq_ok_iff.mpr ⟨newer, candidateVersion, _⟩
    apply bind_eq_ok_iff.mpr ⟨older, previousVersion, _⟩
    rw [decide_eq_decide.mpr equal]
  · apply bind_eq_ok_iff.mpr ⟨_, candidateRead, _⟩
    exact bind_eq_ok_iff.mpr ⟨_, previousRead, rfl⟩

/-! ## Candidates -/

/-- The snapshot of a current action. -/
def takeSnapshot {Payload : Type}
    (modelValidate : Payload → Except ProjectionRaise ConversationActionStateV1)
    (payload : Payload) : Except MemoryRaise JsonMembers := do
  let projection ← (modelValidate payload).mapError .validation
  attemptedActionSnapshot projection

def mergeCandidate (fromIsoformat : List Char → Option DateTime) (memory : ActionMemory)
    (candidate : JsonMembers) : Except MemoryRaise ActionMemory :=
  mergeSnapshot fromIsoformat memory (identityKey candidate) candidate

variable {Payload : Type}
  {modelValidate : Payload → Except ProjectionRaise ConversationActionStateV1}
  {existing : List JsonMembers} {current : List Payload}

theorem mergeAction_eq_ok_iff {memory next : ActionMemory} {payload : Payload} :
    mergeAction fromIsoformat modelValidate memory payload = .ok next ↔
      ∃ candidate, takeSnapshot modelValidate payload = .ok candidate ∧
        mergeCandidate fromIsoformat memory candidate = .ok next := by
  constructor
  · intro merged
    rcases bind_eq_ok_iff.mp merged with ⟨projection, validated, merged⟩
    rcases bind_eq_ok_iff.mp merged with ⟨candidate, taken, merged⟩
    refine ⟨candidate, bind_eq_ok_iff.mpr ⟨projection, validated, taken⟩, ?_⟩
    rw [mergeCandidate, (attemptedActionSnapshot_spec taken).2]
    exact merged
  · intro both
    rcases both with ⟨candidate, took, merged⟩
    rcases bind_eq_ok_iff.mp took with ⟨projection, validated, taken⟩
    rw [mergeCandidate, (attemptedActionSnapshot_spec taken).2] at merged
    exact bind_eq_ok_iff.mpr ⟨projection, validated,
      bind_eq_ok_iff.mpr ⟨candidate, taken, merged⟩⟩

theorem foldlM_mergeAction_eq_ok_iff {memory final : ActionMemory} :
    current.foldlM (mergeAction fromIsoformat modelValidate) memory = .ok final ↔
      ∃ candidates, current.mapM (takeSnapshot modelValidate) = .ok candidates ∧
        candidates.foldlM (mergeCandidate fromIsoformat) memory = .ok final := by
  induction current generalizing memory with
  | nil =>
      constructor
      · intro merged
        exact ⟨[], rfl, merged⟩
      · intro both
        rcases both with ⟨candidates, mapped, merged⟩
        cases mapped
        exact merged
  | cons payload rest induction =>
      simp only [List.foldlM_cons, List.mapM_cons, bind_eq_ok_iff, mergeAction_eq_ok_iff,
        induction]
      constructor
      · intro merged
        rcases merged with ⟨next, ⟨candidate, taken, step⟩, others, mapped, later⟩
        refine ⟨candidate :: others, ⟨candidate, taken, others, mapped, rfl⟩, ?_⟩
        exact bind_eq_ok_iff.mpr ⟨next, step, later⟩
      · intro both
        rcases both with ⟨_, ⟨candidate, taken, others, mapped, equal⟩, merged⟩
        cases equal
        rcases bind_eq_ok_iff.mp merged with ⟨next, step, later⟩
        exact ⟨next, ⟨candidate, taken, step⟩, others, mapped, later⟩

/-! ## Merging by rank -/

variable {candidate : JsonMembers}

theorem mergeCandidate_eq (candidateRead : Readable fromIsoformat candidate)
    (memoryRead : ∀ entry ∈ memory, Readable fromIsoformat entry.2)
    (agree : ∀ entry ∈ memory, identityKey candidate = entry.1 →
      OrdersAgree fromIsoformat candidate entry.2) :
    mergeCandidate fromIsoformat memory candidate =
      .ok (Newest.put identityKey (rankOf fromIsoformat) memory candidate) := by
  unfold mergeCandidate mergeSnapshot Newest.put
  cases held : memory.lookup (identityKey candidate) with
  | none => rfl
  | some previous =>
      have member := mem_of_lookup held
      apply bind_eq_ok_iff.mpr ⟨_, attemptedActionIsNewer_eq candidateRead
        (memoryRead _ member) (agree _ member rfl), _⟩
      simp only [decide_eq_true_eq]

variable {entry : ActionKey × JsonMembers}

theorem mem_put (member : entry ∈ Newest.put identityKey (rankOf fromIsoformat) memory candidate) :
    entry ∈ memory ∨ entry = (identityKey candidate, candidate) := by
  unfold Newest.put at member
  split at member
  · exact mem_assign member
  · split at member
    · exact mem_assign member
    · exact .inl member

theorem foldlM_mergeCandidate_eq {candidates : List JsonMembers}
    (candidatesRead : ∀ candidate ∈ candidates, Readable fromIsoformat candidate)
    (memoryRead : ∀ entry ∈ memory, Readable fromIsoformat entry.2)
    (agree : ∀ entry ∈ memory, ∀ candidate ∈ candidates, identityKey candidate = entry.1 →
      OrdersAgree fromIsoformat candidate entry.2)
    (approvals : candidates.Pairwise fun earlier later =>
      earlier.value "approval_id" ≠ later.value "approval_id") :
    candidates.foldlM (mergeCandidate fromIsoformat) memory =
      .ok (candidates.foldl (Newest.put identityKey (rankOf fromIsoformat)) memory) := by
  induction candidates generalizing memory with
  | nil => rfl
  | cons candidate rest induction =>
      rcases List.forall_mem_cons.mp candidatesRead with ⟨candidateRead, restRead⟩
      rcases List.pairwise_cons.mp approvals with ⟨apart, later⟩
      rw [List.foldlM_cons, mergeCandidate_eq candidateRead memoryRead fun entry member =>
        agree entry member candidate List.mem_cons_self]
      apply induction restRead _ _ later
      · intro entry member
        rcases mem_put member with old | new
        · exact memoryRead entry old
        · rw [new]
          exact candidateRead
      · intro entry member other otherMember same
        rcases mem_put member with old | new
        · exact agree entry old other (List.mem_cons_of_mem _ otherMember) same
        · intro approval
          rw [new] at approval
          exact absurd approval.symm (apart other otherMember)

theorem mergeCandidate_distinct {memory next : ActionMemory}
    (distinct : (memory.map Prod.fst).Nodup)
    (merged : mergeCandidate fromIsoformat memory candidate = .ok next) :
    (next.map Prod.fst).Nodup := by
  rcases mergeSnapshot_eq merged with assigned | ⟨same, _⟩
  · rw [assigned]
    exact assign_nodup_keys _ _ distinct
  · rw [same]
    exact distinct

/-- What a merge returns can be read only if all of what was merged can. -/
theorem mergeCandidate_readable {memory next : ActionMemory}
    (distinct : (memory.map Prod.fst).Nodup)
    (merged : mergeCandidate fromIsoformat memory candidate = .ok next)
    (read : ∀ entry ∈ next, Readable fromIsoformat entry.2) :
    Readable fromIsoformat candidate ∧ ∀ entry ∈ memory, Readable fromIsoformat entry.2 := by
  have assigned : (identityKey candidate, candidate) ∈
      assign memory (identityKey candidate) candidate :=
    mem_of_lookup (lookup_assign_self memory _ _)
  unfold mergeCandidate mergeSnapshot at merged
  cases held : memory.lookup (identityKey candidate) with
  | none =>
      rw [held] at merged
      cases merged
      refine ⟨read _ assigned, ?_⟩
      intro entry member
      apply read
      have absent : identityKey candidate ∉ memory.map Prod.fst := by
        intro present
        rcases List.mem_map.mp present with ⟨other, otherMember, same⟩
        rw [← same, (Newest.mem_iff_lookup distinct).mp otherMember] at held
        cases held
      rw [assign_of_notMem _ absent]
      exact List.mem_append_left _ member
  | some previous =>
      rw [held] at merged
      rcases bind_eq_ok_iff.mp merged with ⟨newer, asked, equal⟩
      rcases attemptedActionIsNewer_readable asked with ⟨candidateRead, previousRead⟩
      cases equal
      cases newer with
      | false => exact ⟨candidateRead, read⟩
      | true =>
          have keys := assign_nodup_keys (identityKey candidate) candidate distinct
          refine ⟨candidateRead, ?_⟩
          intro entry member
          have found := (Newest.mem_iff_lookup distinct).mp member
          by_cases same : entry.1 = identityKey candidate
          · rw [same, held] at found
            cases found
            exact previousRead
          · rw [← lookup_assign_of_ne same] at found
            exact read entry ((Newest.mem_iff_lookup keys).mpr found)

theorem foldlM_mergeCandidate_readable {candidates : List JsonMembers}
    {memory final : ActionMemory} (distinct : (memory.map Prod.fst).Nodup)
    (merged : candidates.foldlM (mergeCandidate fromIsoformat) memory = .ok final)
    (read : ∀ entry ∈ final, Readable fromIsoformat entry.2) :
    (∀ candidate ∈ candidates, Readable fromIsoformat candidate) ∧
      ∀ entry ∈ memory, Readable fromIsoformat entry.2 := by
  induction candidates generalizing memory with
  | nil =>
      cases merged
      exact ⟨fun candidate member => absurd member List.not_mem_nil, read⟩
  | cons candidate rest induction =>
      rw [List.foldlM_cons] at merged
      rcases bind_eq_ok_iff.mp merged with ⟨next, step, later⟩
      rcases induction (mergeCandidate_distinct distinct step) later with ⟨restRead, nextRead⟩
      rcases mergeCandidate_readable distinct step nextRead with ⟨candidateRead, memoryRead⟩
      exact ⟨List.forall_mem_cons.mpr ⟨candidateRead, restRead⟩, memoryRead⟩

/-! ## Runs -/

/-- Candidates of distinct approvals, for which the orders agree where one is compared with an
item of its own approval. -/
structure Mergeable (fromIsoformat : List Char → Option DateTime) (memory : ActionMemory)
    (candidates : List JsonMembers) : Prop where
  approvals : (candidates.map approvalText).Nodup
  spelled : ∀ candidate ∈ candidates,
    candidate.value "approval_id" = .string (approvalText candidate)
  agree : ∀ entry ∈ memory, ∀ candidate ∈ candidates, identityKey candidate = entry.1 →
    OrdersAgree fromIsoformat candidate entry.2

theorem Mergeable.apart {candidates : List JsonMembers}
    (mergeable : Mergeable fromIsoformat memory candidates) {first second : JsonMembers}
    (firstMember : first ∈ candidates) (secondMember : second ∈ candidates)
    (same : approvalText first = approvalText second) : first = second :=
  List.inj_on_of_nodup_map mergeable.approvals firstMember secondMember same

theorem Mergeable.pairwise {candidates : List JsonMembers}
    (mergeable : Mergeable fromIsoformat memory candidates) :
    candidates.Pairwise fun earlier later =>
      earlier.value "approval_id" ≠ later.value "approval_id" := by
  apply List.Pairwise.imp_of_mem _ (List.pairwise_map.mp mergeable.approvals)
  intro earlier later earlierMember laterMember different same
  rw [mergeable.spelled earlier earlierMember, mergeable.spelled later laterMember] at same
  exact different (Json.string.inj same)

theorem rankOf_approvalText (read : Readable fromIsoformat item) :
    (ofLex (ofLex (rankOf fromIsoformat item)).2).2 = approvalText item := by
  rcases bind_eq_ok_iff.mp read with ⟨observed, _, rest⟩
  rcases bind_eq_ok_iff.mp rest with ⟨version, _, equal⟩
  rw [← Except.ok.inj equal]
  rfl

def newestActions (fromIsoformat : List Char → Option DateTime) (existing : List JsonMembers)
    (candidates : List JsonMembers) : ActionMemory :=
  candidates.foldl (Newest.put identityKey (rankOf fromIsoformat)) (rememberedActions existing)

def legacyMarker (existing : List JsonMembers) : List JsonMembers :=
  if legacyPresent existing then [legacyRecord] else []

/-- What a merge of candidates returns. -/
structure Merged (fromIsoformat : List Char → Option DateTime) (existing : List JsonMembers)
    (candidates result : List JsonMembers) : Prop where
  candidatesRead : ∀ candidate ∈ candidates, Readable fromIsoformat candidate
  existingRead : ∀ entry ∈ rememberedActions existing, Readable fromIsoformat entry.2
  asked : ∀ entry ∈ newestActions fromIsoformat existing candidates, Asked entry.2
  result_eq : legacyMarker existing ++ kept fromIsoformat (retainedLimit existing)
    ((newestActions fromIsoformat existing candidates).map Prod.snd) = result

theorem rememberedActions_append (earlier : List JsonMembers) (last : JsonMembers) :
    rememberedActions (earlier ++ [last]) = remember (rememberedActions earlier) last := by
  rw [rememberedActions, List.foldl_append]
  rfl

theorem rememberedActions_distinct (existing : List JsonMembers) :
    ((rememberedActions existing).map Prod.fst).Nodup := by
  induction existing using List.reverseRecOn with
  | nil => exact List.nodup_nil
  | append_singleton earlier last induction =>
      rw [rememberedActions_append, remember]
      split
      · exact induction
      · exact assign_nodup_keys _ _ induction

theorem memoryKey?_of_rememberedActions (member : entry ∈ rememberedActions existing) :
    memoryKey? entry.2 = some entry.1 := by
  induction existing using List.reverseRecOn with
  | nil => cases member
  | append_singleton earlier last induction =>
      rw [rememberedActions_append, remember] at member
      split at member
      · exact induction member
      · rename_i key found
        rcases mem_assign member with old | new
        · exact induction old
        · rw [new]
          exact found

/-- Well-formed items with distinct keys are remembered one by one. -/
theorem foldl_remember_eq {items : List JsonMembers}
    (wellFormed : ∀ item ∈ items, memoryKey? item = some (identityKey item))
    (distinct : (memory.map Prod.fst ++ items.map identityKey).Nodup) :
    items.foldl remember memory = memory ++ items.map fun item => (identityKey item, item) := by
  induction items generalizing memory with
  | nil => exact (List.append_nil memory).symm
  | cons item rest induction =>
      rcases List.forall_mem_cons.mp wellFormed with ⟨known, others⟩
      have new : identityKey item ∉ memory.map Prod.fst := fun member =>
        List.disjoint_of_nodup_append distinct member List.mem_cons_self
      have step : remember memory item = memory ++ [(identityKey item, item)] := by
        rw [remember, known]
        exact assign_of_notMem item new
      rw [List.foldl_cons, step, induction others, List.append_assoc]
      · rfl
      · rw [List.map_append, List.append_assoc]
        exact distinct

theorem mem_newestActions {candidates : List JsonMembers}
    (member : entry ∈ newestActions fromIsoformat existing candidates) :
    entry ∈ rememberedActions existing ∨
      entry.2 ∈ candidates ∧ identityKey entry.2 = entry.1 := by
  induction candidates using List.reverseRecOn with
  | nil => exact .inl member
  | append_singleton earlier last induction =>
      rw [newestActions, List.foldl_append] at member
      rcases mem_put member with old | new
      · rcases induction old with before | ⟨candidate, key⟩
        · exact .inl before
        · exact .inr ⟨List.mem_append_left _ candidate, key⟩
      · rw [new]
        exact .inr ⟨List.mem_append_right _ (List.mem_singleton_self last), rfl⟩

theorem newestActions_distinct (candidates : List JsonMembers) :
    ((newestActions fromIsoformat existing candidates).map Prod.fst).Nodup :=
  Newest.nodup_keys_foldl_put candidates (rememberedActions_distinct existing)

theorem identityKey_of_newestActions {candidates : List JsonMembers}
    (member : entry ∈ newestActions fromIsoformat existing candidates) :
    identityKey entry.2 = entry.1 := by
  rcases mem_newestActions member with old | ⟨_, key⟩
  · exact (memoryKey?_eq_some (memoryKey?_of_rememberedActions old)).2
  · exact key

theorem newestActions_keys (candidates : List JsonMembers) :
    ((newestActions fromIsoformat existing candidates).map Prod.snd).map identityKey =
      (newestActions fromIsoformat existing candidates).map Prod.fst := by
  rw [List.map_map]
  apply List.map_congr_left
  intro entry member
  exact identityKey_of_newestActions member

theorem mergeAttemptedActions_eq_ok_iff {result : List JsonMembers}
    (mergeable : ∀ candidates, current.mapM (takeSnapshot modelValidate) = .ok candidates →
      Mergeable fromIsoformat (rememberedActions existing) candidates) :
    mergeAttemptedActions fromIsoformat modelValidate existing current = .ok result ↔
      ∃ candidates, current.mapM (takeSnapshot modelValidate) = .ok candidates ∧
        Merged fromIsoformat existing candidates result := by
  have distinct (candidates : List JsonMembers) :
      (((newestActions fromIsoformat existing candidates).map Prod.snd).map identityKey).Nodup := by
    rw [newestActions_keys]
    exact newestActions_distinct candidates
  unfold mergeAttemptedActions mergedActions
  simp only [bind_eq_ok_iff, foldlM_mergeAction_eq_ok_iff]
  constructor
  · intro returned
    rcases returned with ⟨memory, ⟨candidates, mapped, merged⟩, retained, kept, equal⟩
    have able := mergeable candidates mapped
    rcases bind_eq_ok_iff.mp kept with ⟨newest, sorted, _⟩
    have finalRead : ∀ entry ∈ memory, Readable fromIsoformat entry.2 := fun entry member =>
      (sortNewestFirst_eq_ok_iff.mp sorted).1 _ (List.mem_map_of_mem member)
    rcases foldlM_mergeCandidate_readable (rememberedActions_distinct existing) merged
      finalRead with ⟨candidatesRead, existingRead⟩
    have same := merged.symm.trans (foldlM_mergeCandidate_eq candidatesRead existingRead able.agree
      able.pairwise)
    cases same
    have retains := (retainedActions_eq_ok_iff (retainedLimit_pos existing)
      (distinct candidates)).mp kept
    refine ⟨candidates, mapped, candidatesRead, existingRead,
      fun entry member => (retains.1 entry member).2, ?_⟩
    rw [← Except.ok.inj equal, ← retains.2]
    rfl
  · intro both
    rcases both with ⟨candidates, mapped, merged⟩
    have able := mergeable candidates mapped
    refine ⟨_, ⟨candidates, mapped, foldlM_mergeCandidate_eq merged.candidatesRead
      merged.existingRead able.agree able.pairwise⟩, kept fromIsoformat (retainedLimit existing)
        ((newestActions fromIsoformat existing candidates).map Prod.snd), ?_, ?_⟩
    · apply (retainedActions_eq_ok_iff (retainedLimit_pos existing) (distinct candidates)).mpr
      refine ⟨?_, rfl⟩
      intro entry member
      refine ⟨?_, merged.asked entry member⟩
      rcases mem_newestActions member with old | ⟨candidate, _⟩
      · exact merged.existingRead entry old
      · exact merged.candidatesRead entry.2 candidate
    · exact congrArg Except.ok merged.result_eq

/-! ## Another order -/

theorem Mergeable.ranks {candidates : List JsonMembers}
    (mergeable : Mergeable fromIsoformat memory candidates)
    (read : ∀ candidate ∈ candidates, Readable fromIsoformat candidate) :
    ∀ item ∈ candidates, ∀ other ∈ candidates,
      rankOf fromIsoformat item = rankOf fromIsoformat other → item = other := by
  intro item member other otherMember same
  apply mergeable.apart member otherMember
  rw [← rankOf_approvalText (read item member), ← rankOf_approvalText (read other otherMember),
    same]

theorem Merged.perm {candidates candidates' result : List JsonMembers}
    (mergeable : Mergeable fromIsoformat (rememberedActions existing) candidates)
    (same : candidates.Perm candidates')
    (merged : Merged fromIsoformat existing candidates result) :
    Merged fromIsoformat existing candidates' result := by
  have ranks := mergeable.ranks merged.candidatesRead
  rcases @Newest.foldl_put_perm _ _ _ _ _ identityKey _ _ _ _ same ranks
    (rememberedActions_distinct existing) with ⟨front, new, new', first, second, order, members⟩
  have firstActions : newestActions fromIsoformat existing candidates = front ++ new := first
  have secondActions : newestActions fromIsoformat existing candidates' = front ++ new' := second
  refine ⟨?_, merged.existingRead, ?_, ?_⟩
  · intro candidate member
    exact merged.candidatesRead candidate (same.symm.subset member)
  · intro entry member
    apply merged.asked
    rw [secondActions] at member
    rw [firstActions]
    exact (order.append_left front).symm.subset member
  · have equal : kept fromIsoformat (retainedLimit existing)
          ((front ++ new).map Prod.snd) =
        kept fromIsoformat (retainedLimit existing) ((front ++ new').map Prod.snd) := by
      rw [List.map_append, List.map_append]
      apply kept_append_perm (order.map Prod.snd)
      intro item member other otherMember rank
      rcases List.mem_map.mp member with ⟨entry, entryMember, rfl⟩
      rcases List.mem_map.mp otherMember with ⟨otherEntry, otherEntryMember, rfl⟩
      exact ranks _ (members entry entryMember) _ (members otherEntry otherEntryMember) rank
    rw [secondActions, ← equal, ← firstActions]
    exact merged.result_eq

/-! ## Once more -/

theorem newestActions_read {candidates result : List JsonMembers}
    (merged : Merged fromIsoformat existing candidates result)
    (member : entry ∈ newestActions fromIsoformat existing candidates) :
    Readable fromIsoformat entry.2 := by
  rcases mem_newestActions member with old | ⟨candidate, _⟩
  · exact merged.existingRead entry old
  · exact merged.candidatesRead entry.2 candidate

theorem entry_of_kept {candidates : List JsonMembers} {limit : Nat}
    (member : item ∈ kept fromIsoformat limit
      ((newestActions fromIsoformat existing candidates).map Prod.snd)) :
    (identityKey item, item) ∈ newestActions fromIsoformat existing candidates := by
  have taken := (byPriority_perm _).subset (List.mem_of_mem_take (mem_kept.mp member))
  rcases List.mem_map.mp taken with ⟨entry, entryMember, rfl⟩
  rw [identityKey_of_newestActions entryMember]
  exact entryMember

theorem kept_keys_distinct (candidates : List JsonMembers) (limit : Nat) :
    ((kept fromIsoformat limit
      ((newestActions fromIsoformat existing candidates).map Prod.snd)).map identityKey).Nodup := by
  have taken := (List.take_sublist limit (byPriority fromIsoformat
    ((newestActions fromIsoformat existing candidates).map Prod.snd))).map identityKey
  rw [kept, ((displayed_perm _).map identityKey).nodup_iff]
  apply List.Nodup.sublist taken
  rw [((byPriority_perm _).map identityKey).nodup_iff, newestActions_keys]
  exact newestActions_distinct candidates

/-- What a merge leaves is read back item by item. -/
theorem rememberedActions_marked {items : List JsonMembers}
    (wellFormed : ∀ item ∈ items, memoryKey? item = some (identityKey item))
    (distinct : (items.map identityKey).Nodup) :
    legacyPresent (legacyMarker existing ++ items) = legacyPresent existing ∧
      rememberedActions (legacyMarker existing ++ items) =
        items.map fun item => (identityKey item, item) := by
  have clean : legacyPresent items = false := by
    rw [Bool.eq_false_iff, Ne, legacyPresent_iff]
    intro malformed
    rcases malformed with ⟨item, member, absent⟩
    rw [wellFormed item member] at absent
    cases absent
  have plain : items.foldl remember [] = items.map fun item => (identityKey item, item) :=
    foldl_remember_eq wellFormed distinct
  unfold legacyMarker
  cases legacy : legacyPresent existing with
  | true =>
      refine ⟨rfl, ?_⟩
      rw [if_pos rfl, rememberedActions, List.singleton_append, List.foldl_cons, remember,
        memoryKey?_legacyRecord]
      exact plain
  | false =>
      rw [if_neg Bool.false_ne_true, List.nil_append]
      exact ⟨clean, plain⟩

/-- For each candidate, the item that its key ends with is in the result or is itself. -/
def Settled (fromIsoformat : List Char → Option DateTime) (existing : List JsonMembers)
    (candidates result : List JsonMembers) : Prop :=
  ∀ candidate ∈ candidates, ∀ winner,
    (newestActions fromIsoformat existing candidates).lookup (identityKey candidate) =
      some winner → winner ∈ result ∨ winner = candidate

/-- The candidates whose keys are not among the items that are kept. -/
def lateCandidates (fromIsoformat : List Char → Option DateTime) (existing : List JsonMembers)
    (candidates : List JsonMembers) : List JsonMembers :=
  candidates.filter fun candidate => identityKey candidate ∉
    ((kept fromIsoformat (retainedLimit existing)
      ((newestActions fromIsoformat existing candidates).map Prod.snd)).map fun item =>
        (identityKey item, item)).map Prod.fst

theorem mem_result {candidates result : List JsonMembers}
    (merged : Merged fromIsoformat existing candidates result)
    (wellFormed : memoryKey? item = some (identityKey item)) :
    item ∈ result ↔ item ∈ kept fromIsoformat (retainedLimit existing)
      ((newestActions fromIsoformat existing candidates).map Prod.snd) := by
  rw [← merged.result_eq, List.mem_append, legacyMarker]
  constructor
  · intro either
    rcases either with marker | kept
    · split at marker
      · rw [List.mem_singleton] at marker
        rw [marker, memoryKey?_legacyRecord] at wellFormed
        cases wellFormed
      · cases marker
    · exact kept
  · exact .inr

section

variable {candidates result : List JsonMembers}

theorem wellFormed_of_newestActions
    (named : ∀ candidate ∈ candidates, memoryKey? candidate = some (identityKey candidate))
    {entry : ActionKey × JsonMembers}
    (member : entry ∈ newestActions fromIsoformat existing candidates) :
    memoryKey? entry.2 = some (identityKey entry.2) := by
  rcases mem_newestActions member with old | ⟨candidate, _⟩
  · rw [identityKey_of_newestActions member]
    exact memoryKey?_of_rememberedActions old
  · exact named entry.2 candidate

/-- A candidate whose key was not kept is what its key ended with. -/
theorem late_candidate (mergeable : Mergeable fromIsoformat (rememberedActions existing) candidates)
    (merged : Merged fromIsoformat existing candidates result)
    (named : ∀ candidate ∈ candidates, memoryKey? candidate = some (identityKey candidate))
    (settled : Settled fromIsoformat existing candidates result) {candidate : JsonMembers}
    (late : candidate ∈ lateCandidates fromIsoformat existing candidates) :
    (newestActions fromIsoformat existing candidates).lookup (identityKey candidate) =
      some candidate := by
  rcases List.mem_filter.mp late with ⟨member, new⟩
  rcases @Newest.foldl_put_top _ _ _ _ _ identityKey _ (rememberedActions existing) _
    (mergeable.ranks merged.candidatesRead) candidate member with ⟨top, held, _, _⟩
  have found : (newestActions fromIsoformat existing candidates).lookup (identityKey candidate) =
    some top := held
  rcases settled candidate member top found with inResult | same
  · exfalso
    have topMember := mem_of_lookup found
    have wellFormed := wellFormed_of_newestActions named topMember
    have kept := (mem_result merged wellFormed).mp inResult
    have key : identityKey top = identityKey candidate := identityKey_of_newestActions topMember
    apply of_decide_eq_true new
    rw [List.map_map, ← key]
    exact List.mem_map_of_mem (f := identityKey) kept
  · rw [found, same]

theorem newestActions_again
    (mergeable : Mergeable fromIsoformat (rememberedActions existing) candidates)
    (merged : Merged fromIsoformat existing candidates result)
    (named : ∀ candidate ∈ candidates, memoryKey? candidate = some (identityKey candidate))
    (settled : Settled fromIsoformat existing candidates result) :
    legacyPresent result = legacyPresent existing ∧
      rememberedActions result = (kept fromIsoformat (retainedLimit existing)
        ((newestActions fromIsoformat existing candidates).map Prod.snd)).map (fun item =>
          (identityKey item, item)) ∧
      newestActions fromIsoformat result candidates = rememberedActions result ++
        (lateCandidates fromIsoformat existing candidates).map fun item =>
          (identityKey item, item) := by
  have distinct := @kept_keys_distinct fromIsoformat existing
    candidates (retainedLimit existing)
  have ranks := mergeable.ranks merged.candidatesRead
  rcases @rememberedActions_marked existing _ (fun item member =>
    wellFormed_of_newestActions named (entry_of_kept member)) distinct with ⟨legacy, read⟩
  rw [merged.result_eq] at legacy read
  refine ⟨legacy, read, ?_⟩
  have keys : ((rememberedActions result).map Prod.fst).Nodup := rememberedActions_distinct result
  rw [lateCandidates, ← read]
  apply Newest.foldl_put_append _ keys
  · -- Two late candidates of one key are both what it ended with.
    apply List.Nodup.map_on _ (mergeable.approvals.of_map.filter _)
    intro first firstMember second secondMember same
    rw [read] at firstMember secondMember
    have firstFound := late_candidate mergeable merged named settled firstMember
    rw [same, late_candidate mergeable merged named settled secondMember] at firstFound
    exact (Option.some.inj firstFound).symm
  · intro candidate member present
    rcases @Newest.foldl_put_top _ _ _ _ _ identityKey _ (rememberedActions existing) _ ranks
      candidate member with ⟨top, held, _, only⟩
    rcases List.mem_map.mp present with ⟨entry, entryMember, same⟩
    refine ⟨entry.2, ?_, ?_⟩
    · rw [← same]
      exact (Newest.mem_iff_lookup keys).mp entryMember
    · rw [read] at entryMember
      rcases List.mem_map.mp entryMember with ⟨item, itemMember, rfl⟩
      have entered := (Newest.mem_iff_lookup (newestActions_distinct candidates)).mp
        (entry_of_kept itemMember)
      have topFound : (newestActions fromIsoformat existing candidates).lookup
        (identityKey candidate) = some top := held
      dsimp only at same entered
      rw [same, topFound] at entered
      cases entered
      exact only

theorem Mergeable.again
    (mergeable : Mergeable fromIsoformat (rememberedActions existing) candidates)
    (merged : Merged fromIsoformat existing candidates result)
    (named : ∀ candidate ∈ candidates, memoryKey? candidate = some (identityKey candidate))
    (settled : Settled fromIsoformat existing candidates result) :
    Mergeable fromIsoformat (rememberedActions result) candidates where
  approvals := mergeable.approvals
  spelled := mergeable.spelled
  agree entry member candidate candidateMember same := by
    rw [(newestActions_again mergeable merged named settled).2.1] at member
    rcases List.mem_map.mp member with ⟨item, itemMember, rfl⟩
    rcases mem_newestActions (entry_of_kept itemMember) with old | ⟨other, _⟩
    · exact mergeable.agree _ old candidate candidateMember same
    · -- One candidate is compared with another of its approval only when they are one.
      intro approval
      rw [mergeable.spelled candidate candidateMember, mergeable.spelled item other] at approval
      rw [mergeable.apart candidateMember other (Json.string.inj approval)]
      exact OrdersAgree.refl item rfl

theorem Merged.again
    (mergeable : Mergeable fromIsoformat (rememberedActions existing) candidates)
    (merged : Merged fromIsoformat existing candidates result)
    (named : ∀ candidate ∈ candidates, memoryKey? candidate = some (identityKey candidate))
    (settled : Settled fromIsoformat existing candidates result) :
    Merged fromIsoformat result candidates result := by
  rcases newestActions_again mergeable merged named settled with ⟨legacy, read, grown⟩
  have kept_entry {entry : ActionKey × JsonMembers} (member : entry ∈ rememberedActions result) :
      entry ∈ newestActions fromIsoformat existing candidates := by
    rw [read] at member
    rcases List.mem_map.mp member with ⟨item, itemMember, rfl⟩
    exact entry_of_kept itemMember
  have late_entry {item : JsonMembers}
      (late : item ∈ lateCandidates fromIsoformat existing candidates) :
      (identityKey item, item) ∈ newestActions fromIsoformat existing candidates :=
    mem_of_lookup (late_candidate mergeable merged named settled late)
  refine ⟨merged.candidatesRead, ?_, ?_, ?_⟩
  · intro entry member
    exact newestActions_read merged (kept_entry member)
  · intro entry member
    rw [grown] at member
    rcases List.mem_append.mp member with old | new
    · exact merged.asked entry (kept_entry old)
    · rcases List.mem_map.mp new with ⟨item, late, rfl⟩
      exact merged.asked _ (late_entry late)
  · have marker : legacyMarker result = legacyMarker existing := by
      rw [legacyMarker, legacyMarker, legacy]
    have limit : retainedLimit result = retainedLimit existing := by
      rw [retainedLimit, retainedLimit, legacy]
    have unchanged : kept fromIsoformat (retainedLimit existing)
          ((newestActions fromIsoformat result candidates).map Prod.snd) =
        kept fromIsoformat (retainedLimit existing)
          ((newestActions fromIsoformat existing candidates).map Prod.snd) := by
      have values (items : List JsonMembers) :
          (items.map fun item => (identityKey item, item)).map Prod.snd = items := by
        rw [List.map_map]
        exact List.map_id items
      rw [grown, read, List.map_append, values, values]
      apply kept_again
      intro item late
      refine ⟨List.mem_map_of_mem (f := Prod.snd) (late_entry late), ?_⟩
      intro member
      apply of_decide_eq_true (List.mem_filter.mp late).2
      rw [List.map_map]
      exact List.mem_map_of_mem (f := identityKey) member
    rw [marker, limit, unchanged]
    exact merged.result_eq

end

/-! ## Merges of validated actions -/

theorem attemptedActionSnapshot_approval {projection : ConversationActionStateV1}
    (taken : attemptedActionSnapshot projection = .ok candidate) :
    candidate.value "approval_id" = .string projection.approvalId ∧
      approvalText candidate = projection.approvalId := by
  rcases bind_eq_ok_iff.mp taken with ⟨observed, _, equal⟩
  cases equal
  refine ⟨rfl, ?_⟩
  change (if (Json.string projection.approvalId).truthy then projection.approvalId else "") = _
  split
  · rfl
  · rename_i empty
    by_contra different
    exact empty (decide_eq_true (Ne.symm different))

theorem actionType_text_ne (actionType : ActionType) : actionType.text ≠ "" := by
  cases actionType <;> decide

theorem memoryKey?_snapshot {projection : ConversationActionStateV1}
    (taken : attemptedActionSnapshot projection = .ok candidate)
    (named : projection.resourceType ≠ "" ∧ projection.resourceId ≠ "") :
    memoryKey? candidate = some (identityKey candidate) := by
  rcases bind_eq_ok_iff.mp taken with ⟨observed, _, equal⟩
  cases equal
  have actionType : identityText (identityMembers (projectionKey projection)) "action_type" =
      some projection.actionType.text := if_pos (actionType_text_ne projection.actionType)
  have resourceType : identityText (identityMembers (projectionKey projection)) "resource_type" =
      some projection.resourceType := if_pos named.1
  have resourceId : identityText (identityMembers (projectionKey projection)) "resource_id" =
      some projection.resourceId := if_pos named.2
  rw [memoryKey?, if_pos (by rfl)]
  change ((identityText (identityMembers (projectionKey projection)) "action_type").bind
    fun actionType => (identityText (identityMembers (projectionKey projection))
      "resource_type").bind fun resourceType => (identityText
        (identityMembers (projectionKey projection)) "resource_id").bind fun resourceId =>
          some ({ actionType, resourceType, resourceId } : ActionKey)) = _
  rw [actionType, resourceType, resourceId]
  rfl

theorem snapshots_forall₂ {projections : List ConversationActionStateV1}
    {candidates : List JsonMembers} (validated : current.mapM modelValidate = .ok projections)
    (mapped : current.mapM (takeSnapshot modelValidate) = .ok candidates) :
    List.Forall₂ (fun projection candidate => attemptedActionSnapshot projection = .ok candidate)
      projections candidates := by
  have each := mapM_forall₂ validated
  have taken := mapM_forall₂ mapped
  clear validated mapped
  induction each generalizing candidates with
  | nil =>
      cases taken
      exact .nil
  | cons valid _ induction =>
      cases taken with
      | cons first rest =>
          rcases bind_eq_ok_iff.mp first with ⟨projection, found, snapshot⟩
          cases valid.symm.trans (mapError_eq_ok found)
          exact .cons snapshot (induction rest)

theorem mergeable_of_validated {projections : List ConversationActionStateV1}
    {candidates : List JsonMembers}
    (taken : List.Forall₂ (fun projection candidate =>
      attemptedActionSnapshot projection = .ok candidate) projections candidates)
    (distinct : (projections.map fun projection => projection.approvalId).Nodup)
    (agree : ∀ entry ∈ rememberedActions existing, ∀ projection ∈ projections,
      projectionKey projection = entry.1 → ∀ candidate,
      attemptedActionSnapshot projection = .ok candidate →
      OrdersAgree fromIsoformat candidate entry.2) :
    Mergeable fromIsoformat (rememberedActions existing) candidates := by
  refine ⟨?_, ?_, ?_⟩
  · have texts : List.Forall₂ (· = ·) (projections.map fun projection => projection.approvalId)
        (candidates.map approvalText) := by
      rw [List.forall₂_map_left_iff, List.forall₂_map_right_iff]
      exact taken.imp fun _ _ snapshot => (attemptedActionSnapshot_approval snapshot).2.symm
    rw [List.forall₂_eq_eq_eq] at texts
    exact texts ▸ distinct
  · intro candidate member
    rcases exists_of_forall₂ taken member with ⟨projection, _, snapshot⟩
    rw [(attemptedActionSnapshot_approval snapshot).2]
    exact (attemptedActionSnapshot_approval snapshot).1
  · intro entry entryMember candidate member same
    rcases exists_of_forall₂ taken member with ⟨projection, projectionMember, snapshot⟩
    rw [(attemptedActionSnapshot_spec snapshot).2] at same
    exact agree entry entryMember projection projectionMember same candidate snapshot

/-- States of distinct approvals merge alike in every order. -/
theorem mergeAttemptedActions_order {projections : List ConversationActionStateV1}
    (validated : current.mapM modelValidate = .ok projections)
    (distinct : (projections.map fun projection => projection.approvalId).Nodup)
    (agree : ∀ entry ∈ rememberedActions existing, ∀ projection ∈ projections,
      projectionKey projection = entry.1 → ∀ candidate,
      attemptedActionSnapshot projection = .ok candidate →
      OrdersAgree fromIsoformat candidate entry.2) :
    (∀ current', current.Perm current' →
      (mergeAttemptedActions fromIsoformat modelValidate existing current').toOption =
        (mergeAttemptedActions fromIsoformat modelValidate existing current).toOption) ∧
    ∀ result memory,
      mergeAttemptedActions fromIsoformat modelValidate existing current = .ok result →
      mergedActions fromIsoformat modelValidate existing current = .ok memory →
      (∀ projection ∈ projections, projection.resourceType ≠ "" ∧ projection.resourceId ≠ "") →
      (∀ projection ∈ projections, ∀ candidate winner,
        attemptedActionSnapshot projection = .ok candidate →
        memory.lookup (projectionKey projection) = some winner →
        winner ∈ result ∨ winner = candidate) →
      mergeAttemptedActions fromIsoformat modelValidate result current = .ok result := by
  have able {payloads : List Payload} (same : current.Perm payloads)
      (candidates : List JsonMembers)
      (mapped : payloads.mapM (takeSnapshot modelValidate) = .ok candidates) :
      Mergeable fromIsoformat (rememberedActions existing) candidates := by
    rcases mapM_perm same validated with ⟨states, stated, order⟩
    apply mergeable_of_validated (snapshots_forall₂ stated mapped)
    · exact (order.map fun projection => projection.approvalId).nodup_iff.mpr distinct
    · intro entry entryMember projection member
      exact agree entry entryMember projection (order.subset member)
  refine ⟨?_, ?_⟩
  · intro current' same
    apply Option.ext
    intro result
    rw [toOption_eq_some_iff, toOption_eq_some_iff, mergeAttemptedActions_eq_ok_iff (able same),
      mergeAttemptedActions_eq_ok_iff (able (List.Perm.refl current))]
    constructor
    · intro both
      rcases both with ⟨candidates, mapped, merged⟩
      rcases mapM_perm same.symm mapped with ⟨candidates', mapped', order⟩
      exact ⟨candidates', mapped', merged.perm (able same _ mapped) order.symm⟩
    · intro both
      rcases both with ⟨candidates, mapped, merged⟩
      rcases mapM_perm same mapped with ⟨candidates', mapped', order⟩
      exact ⟨candidates', mapped', merged.perm (able (List.Perm.refl current) _ mapped) order.symm⟩
  · intro result memory returned ran named settled
    rcases (mergeAttemptedActions_eq_ok_iff (able (List.Perm.refl current))).mp returned with
      ⟨candidates, mapped, merged⟩
    have mergeable := able (List.Perm.refl current) candidates mapped
    have taken := snapshots_forall₂ validated mapped
    have memory_eq : memory = newestActions fromIsoformat existing candidates := by
      have whole := foldlM_mergeAction_eq_ok_iff.mpr ⟨candidates, mapped,
        foldlM_mergeCandidate_eq merged.candidatesRead merged.existingRead mergeable.agree
          mergeable.pairwise⟩
      exact Except.ok.inj (ran.symm.trans whole)
    have wellNamed : ∀ candidate ∈ candidates,
        memoryKey? candidate = some (identityKey candidate) := by
      intro candidate member
      rcases exists_of_forall₂ taken member with ⟨projection, found, snapshot⟩
      exact memoryKey?_snapshot snapshot (named projection found)
    have settles : Settled fromIsoformat existing candidates result := by
      intro candidate member winner held
      rcases exists_of_forall₂ taken member with ⟨projection, found, snapshot⟩
      rw [← memory_eq, (attemptedActionSnapshot_spec snapshot).2] at held
      exact settled projection found candidate winner snapshot held
    rw [mergeAttemptedActions_eq_ok_iff]
    · exact ⟨candidates, mapped, merged.again mergeable wellNamed settles⟩
    · intro others otherMapped
      cases mapped.symm.trans otherMapped
      exact mergeable.again merged wellNamed settles

end

/-! Two approvals of one resource, and a record that was never observed. -/

def spelledDays (text : List Char) : Option DateTime :=
  if text = "0001-01-01T00:00:00+00:00".toList then
    some ⟨firstInstant, some ⟨0, UtcOffset.utc_bounded⟩⟩
  else spelledMidnight text

def mergeRefunds (existing : List JsonMembers) (current : List ActionStateFields) :
    Except MemoryRaise (List JsonMembers) :=
  mergeAttemptedActions spelledDays ActionStateFields.validate existing current

def executedBefore : List JsonMembers :=
  [recordOf "a0" ⟨"refund", "billing_record", "bill_1"⟩ "executed" 7]

/-- The approval of the record, and another one. -/
def renewedResource : List ActionStateFields :=
  [pendingRefund "a0" "bill_1" 8 julyMidnight, pendingRefund "a2" "bill_1" 1 julyMidnight]

def renewedStates : List ConversationActionStateV1 :=
  [⟨pendingRefund "a0" "bill_1" 8 julyMidnight, rfl⟩,
    ⟨pendingRefund "a2" "bill_1" 1 julyMidnight, rfl⟩]

theorem renewed_settled :
    ((mergeRefunds executedBefore renewedResource).toOption.any fun result =>
      (mergedActions spelledDays ActionStateFields.validate executedBefore
        renewedResource).toOption.any fun memory =>
          memory.all fun entry => entry.2 ∈ result) = true := by
  decide +kernel

def ordersAgree (candidate previous : JsonMembers) : Except MemoryRaise Bool := do
  let newer ← versionOrder spelledDays candidate
  let older ← versionOrder spelledDays previous
  let late ← displayOrder spelledDays candidate
  let early ← displayOrder spelledDays previous
  .ok (decide (candidate.value "approval_id" = previous.value "approval_id" →
    (older ≤ newer ↔ early ≤ late)))

theorem ordersAgree_of_all {candidate previous : JsonMembers}
    (agree : (ordersAgree candidate previous).toOption.all id = true) :
    OrdersAgree spelledDays candidate previous := by
  intro same newer older late early first second third fourth
  have compared : ordersAgree candidate previous = .ok (decide
      (candidate.value "approval_id" = previous.value "approval_id" →
        (older ≤ newer ↔ early ≤ late))) := by
    simp only [ordersAgree, first, second, third, fourth]
    rfl
  rw [compared] at agree
  exact of_decide_eq_true agree same

theorem renewed_agree :
    ((rememberedActions executedBefore).all fun entry => renewedStates.all fun projection =>
      (attemptedActionSnapshot projection).toOption.all fun candidate =>
        (ordersAgree candidate entry.2).toOption.all id) = true := by
  decide +kernel

theorem mergeAttemptedActions_order_renewed :
    (mergeRefunds executedBefore renewedResource.reverse).toOption =
      (mergeRefunds executedBefore renewedResource).toOption ∧
    ∃ result, mergeRefunds executedBefore renewedResource = .ok result ∧
      mergeRefunds result renewedResource = .ok result := by
  have whole := @mergeAttemptedActions_order spelledDays _ ActionStateFields.validate
    executedBefore renewedResource renewedStates rfl (by decide) (by
      intro entry found projection member _ candidate snapshot
      have each := List.all_eq_true.mp (List.all_eq_true.mp renewed_agree entry found) projection
        member
      rw [snapshot] at each
      exact ordersAgree_of_all each)
  refine ⟨whole.1 _ (List.reverse_perm _).symm, ?_⟩
  rcases ok_of_any renewed_settled with ⟨result, returned, rest⟩
  rcases ok_of_any rest with ⟨memory, ran, each⟩
  refine ⟨result, returned, whole.2 result memory returned ran ?_ ?_⟩
  · have named : ∀ projection ∈ renewedStates,
        projection.resourceType ≠ "" ∧ projection.resourceId ≠ "" := by
      decide
    exact named
  · intro projection _ candidate winner _ held
    exact .inl (of_decide_eq_true (List.all_eq_true.mp each _ (mem_of_lookup held)))

def approvalsOf (merged : Except MemoryRaise (List JsonMembers)) : Option (List String) :=
  merged.toOption.map fun result => result.map approvalText

def regressed : ActionStateFields :=
  pendingRefund "a0" "bill_1" 3 julyMidnight

def otherApproval : ActionStateFields :=
  pendingRefund "b0" "bill_1" 1 julyMidnight

def unnamed : ActionStateFields :=
  pendingRefund "a1" "" 1 julyMidnight

def filledMemory : List JsonMembers :=
  recordOf "a0" ⟨"refund", "billing_record", "bill_1"⟩ "executed" 9 ::
    (List.range 63).map fun index => recordOf "a1" ⟨toString index, "key", "key"⟩ "pending" 1

def firstDay : List ActionStateFields :=
  [pendingRefund "last" "bill_2" 1 firstInstant, pendingRefund "new" "bill_1" 2 firstInstant]

theorem regressed_approvals :
    approvalsOf (mergeRefunds executedBefore [regressed, otherApproval]) ≠
      approvalsOf (mergeRefunds executedBefore [otherApproval, regressed]) := by
  decide +kernel

theorem unnamed_again :
    ((mergeRefunds [] [unnamed]).toOption.any fun result =>
      approvalsOf (mergeRefunds result [unnamed]) ≠ some (result.map approvalText)) = true := by
  decide +kernel

theorem filledMemory_again :
    ((mergeRefunds filledMemory firstDay).toOption.any fun result =>
      approvalsOf (mergeRefunds result firstDay) ≠ some (result.map approvalText)) = true := by
  decide +kernel

theorem merged_differently {existing : List JsonMembers} {current : List ActionStateFields}
    (differs : ((mergeRefunds existing current).toOption.any fun result =>
      approvalsOf (mergeRefunds result current) ≠ some (result.map approvalText)) = true) :
    ∃ result, mergeRefunds existing current = .ok result ∧
      mergeRefunds result current ≠ .ok result := by
  rcases ok_of_any differs with ⟨result, returned, different⟩
  refine ⟨result, returned, ?_⟩
  intro same
  apply of_decide_eq_true different
  rw [same]
  rfl

/-- An older version of an approval that was observed later loses to its newer version but not
to what took its place; a resource without a name is not read back; and an item that was dropped
for want of room no longer stands in the way. -/
theorem mergeAttemptedActions_order_matters :
    mergeRefunds executedBefore [regressed, otherApproval] ≠
      mergeRefunds executedBefore [otherApproval, regressed] ∧
    (∃ result, mergeRefunds [] [unnamed] = .ok result ∧
      mergeRefunds result [unnamed] ≠ .ok result) ∧
    ∃ result, mergeRefunds filledMemory firstDay = .ok result ∧
      mergeRefunds result firstDay ≠ .ok result := by
  refine ⟨?_, merged_differently unnamed_again, merged_differently filledMemory_again⟩
  intro same
  exact regressed_approvals (congrArg approvalsOf same)

end AttemptedActions

end SupportGuard
