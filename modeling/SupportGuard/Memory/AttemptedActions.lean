import Mathlib.Data.Prod.Lex
import SupportGuard.Agent.ProposalAssembler
import SupportGuard.Foundation.Grouping
import SupportGuard.Services.InterruptFinalizer

/-! # The memory of attempted actions

`memory/service.py`: `merge_attempted_actions`, which merges the snapshots of a summary with the
states of the actions of the conversation, one for each resource, and keeps so many of them. -/

namespace SupportGuard

open Foundation Fallible

namespace AttemptedActions

inductive MemoryRaise
  | validation (raised : ProjectionRaise)
  | conversion (error : ConversionError)

/-- The canonical identity of the resource of an action. -/
structure ActionKey where
  actionType : String
  resourceType : String
  resourceId : String
deriving DecidableEq

def maxAttemptedActions : Nat := 64

def activeProjectionStates : List String :=
  ["pending", "approved", "executing", "verification_pending"]

/-! ## Spellings -/

def projectionStatusText : ProjectionStatus → String
  | .pending => "pending"
  | .approved => "approved"
  | .executing => "executing"
  | .verificationPending => "verification_pending"
  | .executed => "executed"
  | .rejected => "rejected"
  | .stale => "stale"
  | .withdrawn => "withdrawn"
  | .failed => "failed"
  | .manualTakeoverLegacy => "manual_takeover_legacy"

def decisionClassText : DecisionClass → String
  | .none => "none"
  | .approve => "approve"
  | .editAndApprove => "edit_and_approve"
  | .reject => "reject"
  | .customerWithdrawal => "customer_withdrawal"
  | .systemTransition => "system_transition"
  | .legacyManualTakeover => "legacy_manual_takeover"

def executionStateText : ExecutionState → String
  | .notStarted => "not_started"
  | .queued => "queued"
  | .inProgress => "in_progress"
  | .verificationPending => "verification_pending"
  | .succeeded => "succeeded"
  | .notExecuted => "not_executed"
  | .failed => "failed"
  | .legacyStopped => "legacy_stopped"

/-! ## Times -/

/-- `astimezone(UTC)`, with a naive time read as UTC. -/
def utcInstant (value : DateTime) : Except MemoryRaise Instant :=
  match value.instant? with
  | some instant => .ok instant
  | none => .error (.conversion .overflowError)

/-- `datetime.min` in UTC. -/
def firstInstant : Instant :=
  ⟨0, Instant.first_inRange⟩

/-- A mark for UTC at the end is spelled as an offset. -/
def offsetSpelled (text : List Char) : List Char :=
  if text.getLast? = some 'Z' then text.dropLast ++ "+00:00".toList else text

section

-- `datetime.fromisoformat`; none where it raises a `ValueError`.
variable (fromIsoformat : List Char → Option DateTime)

/-- `_coerce_utc_instant`. -/
def coerceUtcInstant : Json → Except MemoryRaise Instant
  | .string text =>
      if stripSpace text.toList = [] then .ok firstInstant
      else match fromIsoformat (offsetSpelled (stripSpace text.toList)) with
        | none => .ok firstInstant
        | some parsed => utcInstant parsed
  | _ => .ok firstInstant

/-! ## Snapshots -/

def identityMembers (key : ActionKey) : JsonMembers :=
  [("action_type", .string key.actionType), ("resource_type", .string key.resourceType),
    ("resource_id", .string key.resourceId)]

def projectionKey (projection : ConversationActionStateV1) : ActionKey where
  actionType := projection.actionType.text
  resourceType := projection.resourceType
  resourceId := projection.resourceId

/-- `_attempted_action_snapshot`. -/
def attemptedActionSnapshot (projection : ConversationActionStateV1) :
    Except MemoryRaise JsonMembers := do
  let observedAt ← utcInstant projection.updatedAt
  .ok [("schema_version", .string "attempted-action-memory.v1"),
    ("action_identity", .object (identityMembers (projectionKey projection))),
    ("approval_id", .string projection.approvalId),
    ("origin_run_id", .string projection.originRunId),
    ("origin_turn_id", .string projection.originTurnId),
    ("resource_version", .integer projection.resourceVersion),
    ("approval_status", .string projection.approvalStatus.text),
    ("projection_status", .string (projectionStatusText projection.projectionStatus)),
    ("status_version", .integer projection.statusVersion),
    ("decision_class", .string (decisionClassText projection.decisionClass)),
    ("customer_safe_reason_code", .string projection.customerSafeReasonCode),
    ("execution_state", .string (executionStateText projection.executionState)),
    ("business_action_id", Json.optionalText projection.businessActionId),
    ("observed_at", .string (DateTime.isoformat ⟨observedAt, some ⟨0, UtcOffset.utc_bounded⟩⟩)),
    ("source_event_id", Json.optionalText projection.sourceEventId),
    ("source_event_hash", Json.optionalText projection.sourceEventHash),
    ("historical", .bool true),
    ("grants_action_authority", .bool false)]

def identityOf (item : JsonMembers) : Option JsonMembers :=
  match item.value "action_identity" with
  | .object identity => some identity
  | _ => none

/-- A text that is not empty. -/
def identityText (identity : JsonMembers) (name : String) : Option String :=
  match identity.value name with
  | .string text => if text ≠ "" then some text else none
  | _ => none

/-- The key of a snapshot; none where it is malformed or a legacy record. -/
def memoryKey? (item : JsonMembers) : Option ActionKey :=
  if item.value "schema_version" = .string "attempted-action-memory.v1" then do
    let identity ← identityOf item
    let actionType ← identityText identity "action_type"
    let resourceType ← identityText identity "resource_type"
    let resourceId ← identityText identity "resource_id"
    some { actionType, resourceType, resourceId }
  else none

/-! ## Orders -/

/-- `int(value or 0)`. -/
def statusVersion (item : JsonMembers) : Except MemoryRaise Int :=
  if (item.value "status_version").truthy then
    (item.value "status_version").toInt.mapError .conversion
  else .ok 0

def observedAt (item : JsonMembers) : Except MemoryRaise Instant :=
  coerceUtcInstant fromIsoformat (item.value "observed_at")

def approvalText (item : JsonMembers) : String :=
  if (item.value "approval_id").truthy then (item.value "approval_id").toStr else ""

/-- What snapshots are displayed by, as a tuple compares. -/
abbrev DisplayOrder : Type :=
  Instant ×ₗ Int ×ₗ String

/-- `_attempted_action_display_order`. -/
def displayOrder (item : JsonMembers) : Except MemoryRaise DisplayOrder := do
  let observed ← observedAt fromIsoformat item
  let version ← statusVersion item
  .ok (toLex (observed, toLex (version, approvalText item)))

/-- The order of the versions of one approval. -/
def versionOrder (item : JsonMembers) : Except MemoryRaise (Int ×ₗ Instant) := do
  let version ← statusVersion item
  let observed ← observedAt fromIsoformat item
  .ok (toLex (version, observed))

/-- `_attempted_action_is_newer`. -/
def attemptedActionIsNewer (candidate previous : JsonMembers) : Except MemoryRaise Bool :=
  if candidate.value "approval_id" = previous.value "approval_id" then do
    let candidateOrder ← versionOrder fromIsoformat candidate
    let previousOrder ← versionOrder fromIsoformat previous
    .ok (previousOrder ≤ candidateOrder)
  else do
    let candidateOrder ← displayOrder fromIsoformat candidate
    let previousOrder ← displayOrder fromIsoformat previous
    .ok (previousOrder ≤ candidateOrder)

/-! ## Merging -/

/-- The snapshots by their keys: of one key the last snapshot, in the place of the first. -/
abbrev ActionMemory : Type :=
  List (ActionKey × JsonMembers)

def remember (memory : ActionMemory) (item : JsonMembers) : ActionMemory :=
  match memoryKey? item with
  | none => memory
  | some key => assign memory key item

def rememberedActions (existing : List JsonMembers) : ActionMemory :=
  existing.foldl remember []

def legacyPresent (existing : List JsonMembers) : Bool :=
  existing.any fun item => (memoryKey? item).isNone

/-- A snapshot of a current action takes the place of an older one. -/
def mergeSnapshot (memory : ActionMemory) (key : ActionKey) (candidate : JsonMembers) :
    Except MemoryRaise ActionMemory :=
  match memory.lookup key with
  | none => .ok (assign memory key candidate)
  | some previous => do
      let newer ← attemptedActionIsNewer fromIsoformat candidate previous
      .ok (if newer then assign memory key candidate else memory)

section

variable {Payload : Type}
  (modelValidate : Payload → Except ProjectionRaise ConversationActionStateV1)

def mergeAction (memory : ActionMemory) (payload : Payload) : Except MemoryRaise ActionMemory := do
  let projection ← (modelValidate payload).mapError .validation
  let candidate ← attemptedActionSnapshot projection
  mergeSnapshot fromIsoformat memory (projectionKey projection) candidate

def mergedActions (existing : List JsonMembers) (currentActions : List Payload) :
    Except MemoryRaise ActionMemory :=
  currentActions.foldlM (mergeAction fromIsoformat modelValidate) (rememberedActions existing)

/-! ## Retention -/

/-- Membership in a set raises for a list or a dictionary. -/
def isActive (item : JsonMembers) : Except MemoryRaise Bool :=
  match item.value "projection_status" with
  | .string text => .ok (text ∈ activeProjectionStates)
  | .array _ | .object _ => .error (.conversion .typeError)
  | _ => .ok false

def activeItems : List JsonMembers → Except MemoryRaise (List JsonMembers)
  | [] => .ok []
  | item :: rest => do
      let active ← isActive item
      let others ← activeItems rest
      .ok (if active then item :: others else others)

/-- Each item with its order. -/
def withOrder (item : JsonMembers) : Except MemoryRaise (DisplayOrder × JsonMembers) := do
  let order ← displayOrder fromIsoformat item
  .ok (order, item)

/-- `sorted(items, key=_attempted_action_display_order, reverse=True)`: equal items stay in
their order. -/
def sortNewestFirst (items : List JsonMembers) : Except MemoryRaise (List JsonMembers) := do
  let ranked ← items.mapM (withOrder fromIsoformat)
  .ok ((ranked.insertionSort fun left right => right.1 ≤ left.1).map Prod.snd)

def sortDisplayed (items : List JsonMembers) : Except MemoryRaise (List JsonMembers) := do
  let ranked ← items.mapM (withOrder fromIsoformat)
  .ok ((ranked.insertionSort fun left right => left.1 ≤ right.1).map Prod.snd)

/-- The key that an item of the memory is known by. An item of the memory has its identity. -/
def identityKey (item : JsonMembers) : ActionKey :=
  let identity := (identityOf item).getD []
  { actionType := (identity.value "action_type").toStr
    resourceType := (identity.value "resource_type").toStr
    resourceId := (identity.value "resource_id").toStr }

/-- The loop over the items by priority, from what is retained so far. -/
def retain (limit : Nat) : List JsonMembers → List JsonMembers → List JsonMembers
  | retained, [] => retained
  | retained, item :: rest =>
      if identityKey item ∈ retained.map identityKey then retain limit retained rest
      else if limit ≤ retained.length + 1 then retained ++ [item]
      else retain limit (retained ++ [item]) rest

def retainedLimit (existing : List JsonMembers) : Nat :=
  maxAttemptedActions - (if legacyPresent existing then 1 else 0)

def legacyRecord : JsonMembers :=
  [("schema_version", .string "attempted-action-memory-legacy.v1"),
    ("legacy_record_present", .bool true), ("historical", .bool true),
    ("grants_action_authority", .bool false)]

/-- What is retained of a memory, in the order in which it is displayed. -/
def retainedActions (limit : Nat) (memory : ActionMemory) :
    Except MemoryRaise (List JsonMembers) := do
  let newestFirst ← sortNewestFirst fromIsoformat (memory.map Prod.snd)
  let active ← activeItems newestFirst
  let prioritized := active ++ newestFirst.take 1 ++ newestFirst
  sortDisplayed fromIsoformat (retain limit [] prioritized)

/-- `merge_attempted_actions`. -/
def mergeAttemptedActions (existing : List JsonMembers) (currentActions : List Payload) :
    Except MemoryRaise (List JsonMembers) := do
  let merged ← mergedActions fromIsoformat modelValidate existing currentActions
  let retained ← retainedActions fromIsoformat (retainedLimit existing) merged
  .ok ((if legacyPresent existing then [legacyRecord] else []) ++ retained)

end

end

/-! ## Keys -/

section

variable {fromIsoformat : List Char → Option DateTime}

theorem identityText_eq_some {identity : JsonMembers} {name text : String}
    (found : identityText identity name = some text) :
    identity.value name = .string text ∧ text ≠ "" := by
  unfold identityText at found
  split at found
  · rename_i same
    split at found
    · rename_i present
      cases found
      exact ⟨same, present⟩
    · cases found
  · cases found

variable {item : JsonMembers}

/-- A snapshot that is not malformed has its version and is known by its key. -/
theorem memoryKey?_eq_some {key : ActionKey} (found : memoryKey? item = some key) :
    item.value "schema_version" = .string "attempted-action-memory.v1" ∧
      identityKey item = key := by
  unfold memoryKey? at found
  split at found
  · rename_i version
    refine ⟨version, ?_⟩
    simp only [Option.bind_eq_bind, Option.bind_eq_some_iff] at found
    rcases found with ⟨identity, has, actionType, first, resourceType, second, resourceId, third,
      equal⟩
    cases equal
    rw [identityKey, has, Option.getD_some, (identityText_eq_some first).1,
      (identityText_eq_some second).1, (identityText_eq_some third).1]
    rfl
  · cases found

theorem attemptedActionSnapshot_spec {projection : ConversationActionStateV1}
    {candidate : JsonMembers} (taken : attemptedActionSnapshot projection = .ok candidate) :
    candidate.value "schema_version" = .string "attempted-action-memory.v1" ∧
      identityKey candidate = projectionKey projection := by
  rcases bind_eq_ok_iff.mp taken with ⟨observed, _, equal⟩
  cases equal
  exact ⟨rfl, rfl⟩

/-! ## The memory -/

variable {Payload : Type}
  {modelValidate : Payload → Except ProjectionRaise ConversationActionStateV1}
  {existing : List JsonMembers} {current : List Payload}

/-- An item that one of the inputs has under a key. -/
def Remembered (modelValidate : Payload → Except ProjectionRaise ConversationActionStateV1)
    (existing : List JsonMembers) (current : List Payload) (key : ActionKey)
    (item : JsonMembers) : Prop :=
  (item ∈ existing ∧ memoryKey? item = some key) ∨
    ∃ payload ∈ current, ∃ projection, modelValidate payload = .ok projection ∧
      attemptedActionSnapshot projection = .ok item ∧ projectionKey projection = key

theorem Remembered.spec {key : ActionKey}
    (remembered : Remembered modelValidate existing current key item) :
    item.value "schema_version" = .string "attempted-action-memory.v1" ∧
      identityKey item = key := by
  rcases remembered with ⟨_, found⟩ | ⟨payload, _, projection, _, taken, same⟩
  · exact memoryKey?_eq_some found
  · rw [← same]
    exact attemptedActionSnapshot_spec taken

/-- What a memory is: one item for each key, from the inputs, and an item for each key that
the snapshots have. -/
structure MemoryOf (modelValidate : Payload → Except ProjectionRaise ConversationActionStateV1)
    (existing : List JsonMembers) (current : List Payload) (memory : ActionMemory) : Prop where
  distinct : (memory.map Prod.fst).Nodup
  source : ∀ entry ∈ memory, Remembered modelValidate existing current entry.1 entry.2
  complete : ∀ key item, Remembered modelValidate existing current key item →
    key ∈ memory.map Prod.fst

variable {memory : ActionMemory}

/-- Larger inputs, with one item more that is assigned. -/
theorem MemoryOf.assigned {existing' : List JsonMembers} {current' : List Payload} {key : ActionKey}
    (memoryOf : MemoryOf modelValidate existing current memory)
    (grown : ∀ other value, Remembered modelValidate existing current other value →
      Remembered modelValidate existing' current' other value)
    (added : ∀ other value, Remembered modelValidate existing' current' other value →
      Remembered modelValidate existing current other value ∨ other = key)
    (remembered : Remembered modelValidate existing' current' key item) :
    MemoryOf modelValidate existing' current' (assign memory key item) where
  distinct := assign_nodup_keys key item memoryOf.distinct
  source entry member := by
    rcases mem_assign member with old | same
    · exact grown _ _ (memoryOf.source entry old)
    · rw [same]
      exact remembered
  complete other value new := by
    rw [mem_keys_assign]
    rcases added other value new with old | same
    · exact .inl (memoryOf.complete other value old)
    · exact .inr same

/-- Larger inputs whose keys the memory has. -/
theorem MemoryOf.kept {existing' : List JsonMembers} {current' : List Payload}
    (memoryOf : MemoryOf modelValidate existing current memory)
    (grown : ∀ other value, Remembered modelValidate existing current other value →
      Remembered modelValidate existing' current' other value)
    (added : ∀ other value, Remembered modelValidate existing' current' other value →
      Remembered modelValidate existing current other value ∨ other ∈ memory.map Prod.fst) :
    MemoryOf modelValidate existing' current' memory where
  distinct := memoryOf.distinct
  source entry member := grown _ _ (memoryOf.source entry member)
  complete other value new := by
    rcases added other value new with old | present
    · exact memoryOf.complete other value old
    · exact present

theorem rememberedActions_memoryOf (existing : List JsonMembers) :
    MemoryOf modelValidate existing [] (rememberedActions existing) := by
  induction existing using List.reverseRecOn with
  | nil =>
      refine ⟨List.nodup_nil, ?_, ?_⟩
      · intro entry member
        cases member
      · intro key item remembered
        rcases remembered with ⟨member, _⟩ | ⟨payload, member, _⟩
        · cases member
        · cases member
  | append_singleton earlier last induction =>
      have grown (other : ActionKey) (value : JsonMembers)
          (remembered : Remembered modelValidate earlier [] other value) :
          Remembered modelValidate (earlier ++ [last]) [] other value := by
        rcases remembered with ⟨member, found⟩ | ⟨payload, member, _⟩
        · exact .inl ⟨List.mem_append_left _ member, found⟩
        · cases member
      have added (other : ActionKey) (value : JsonMembers)
          (remembered : Remembered modelValidate (earlier ++ [last]) [] other value) :
          Remembered modelValidate earlier [] other value ∨ memoryKey? last = some other := by
        rcases remembered with ⟨member, found⟩ | ⟨payload, member, _⟩
        · rcases List.mem_append.mp member with before | same
          · exact .inl (.inl ⟨before, found⟩)
          · rw [List.mem_singleton] at same
            exact .inr (same ▸ found)
        · cases member
      rw [rememberedActions, List.foldl_append]
      change MemoryOf modelValidate (earlier ++ [last]) []
        (remember (rememberedActions earlier) last)
      unfold remember
      cases key : memoryKey? last with
      | none =>
          apply induction.kept grown
          intro other value remembered
          rcases added other value remembered with old | found
          · exact .inl old
          · rw [key] at found
            cases found
      | some key' =>
          apply induction.assigned grown
          · intro other value remembered
            rcases added other value remembered with old | found
            · exact .inl old
            · rw [key] at found
              exact .inr (Option.some.inj found).symm
          · exact .inl ⟨List.mem_append_right _ (List.mem_singleton_self last), key⟩

theorem mergeSnapshot_eq {memory next : ActionMemory} {key : ActionKey} {candidate : JsonMembers}
    (merged : mergeSnapshot fromIsoformat memory key candidate = .ok next) :
    next = assign memory key candidate ∨ (next = memory ∧ key ∈ memory.map Prod.fst) := by
  unfold mergeSnapshot at merged
  cases found : memory.lookup key with
  | none =>
      rw [found] at merged
      cases merged
      exact .inl rfl
  | some previous =>
      rw [found] at merged
      rcases bind_eq_ok_iff.mp merged with ⟨newer, _, equal⟩
      cases equal
      cases newer with
      | true => exact .inl rfl
      | false => exact .inr ⟨rfl, List.mem_map_of_mem (mem_of_lookup found)⟩

theorem mergeAction_memoryOf {memory next : ActionMemory} {payload : Payload}
    (memoryOf : MemoryOf modelValidate existing current memory)
    (merged : mergeAction fromIsoformat modelValidate memory payload = .ok next) :
    MemoryOf modelValidate existing (current ++ [payload]) next := by
  rcases bind_eq_ok_iff.mp merged with ⟨projection, validated, merged⟩
  rcases bind_eq_ok_iff.mp merged with ⟨candidate, taken, merged⟩
  have valid := mapError_eq_ok validated
  have grown (other : ActionKey) (value : JsonMembers)
      (remembered : Remembered modelValidate existing current other value) :
      Remembered modelValidate existing (current ++ [payload]) other value := by
    rcases remembered with old | ⟨earlier, member, rest⟩
    · exact .inl old
    · exact .inr ⟨earlier, List.mem_append_left _ member, rest⟩
  have added (other : ActionKey) (value : JsonMembers)
      (remembered : Remembered modelValidate existing (current ++ [payload]) other value) :
      Remembered modelValidate existing current other value ∨
        other = projectionKey projection := by
    rcases remembered with old | ⟨earlier, member, found, validEarlier, rest, key⟩
    · exact .inl (.inl old)
    · rcases List.mem_append.mp member with before | same
      · exact .inl (.inr ⟨earlier, before, found, validEarlier, rest, key⟩)
      · rw [List.mem_singleton] at same
        subst same
        cases valid.symm.trans validEarlier
        exact .inr key.symm
  rcases mergeSnapshot_eq merged with assigned | ⟨same, present⟩
  · rw [assigned]
    apply memoryOf.assigned grown added
    exact .inr ⟨payload, List.mem_append_right _ (List.mem_singleton_self payload), projection,
      valid, taken, rfl⟩
  · rw [same]
    apply memoryOf.kept grown
    intro other value remembered
    rcases added other value remembered with old | key
    · exact .inl old
    · exact .inr (key ▸ present)

theorem foldlM_memoryOf {memory final : ActionMemory} (payloads : List Payload)
    (memoryOf : MemoryOf modelValidate existing current memory)
    (merged : payloads.foldlM (mergeAction fromIsoformat modelValidate) memory = .ok final) :
    MemoryOf modelValidate existing (current ++ payloads) final := by
  induction payloads generalizing current memory with
  | nil =>
      cases merged
      rw [List.append_nil]
      exact memoryOf
  | cons payload rest induction =>
      rw [List.foldlM_cons] at merged
      rcases bind_eq_ok_iff.mp merged with ⟨next, step, later⟩
      have whole := induction (mergeAction_memoryOf memoryOf step) later
      rwa [List.append_assoc] at whole

/-! ## Sorting -/

theorem mapM_withOrder {items : List JsonMembers} {ranked : List (DisplayOrder × JsonMembers)}
    (mapped : items.mapM (withOrder fromIsoformat) = .ok ranked) :
    ranked.map Prod.snd = items ∧
      ∀ entry ∈ ranked, displayOrder fromIsoformat entry.2 = .ok entry.1 := by
  have each := mapM_forall₂ mapped
  induction each with
  | nil =>
      refine ⟨rfl, ?_⟩
      intro entry member
      cases member
  | cons computed rest induction =>
      rcases bind_eq_ok_iff.mp computed with ⟨order, read, equal⟩
      cases equal
      rcases induction (mapM_eq_ok_iff.mpr rest) with ⟨items, orders⟩
      refine ⟨congrArg (List.cons _) items, ?_⟩
      intro entry member
      rcases List.mem_cons.mp member with same | later
      · rw [same]
        exact read
      · exact orders entry later

variable {items sorted : List JsonMembers}

theorem sortNewestFirst_perm (returned : sortNewestFirst fromIsoformat items = .ok sorted) :
    sorted.Perm items := by
  rcases bind_eq_ok_iff.mp returned with ⟨ranked, mapped, equal⟩
  cases equal
  rw [← (mapM_withOrder mapped).1]
  exact (List.perm_insertionSort _ ranked).map Prod.snd

theorem sortDisplayed_perm (returned : sortDisplayed fromIsoformat items = .ok sorted) :
    sorted.Perm items := by
  rcases bind_eq_ok_iff.mp returned with ⟨ranked, mapped, equal⟩
  cases equal
  rw [← (mapM_withOrder mapped).1]
  exact (List.perm_insertionSort _ ranked).map Prod.snd

/-- One snapshot has been observed no later than another. -/
def ObservedBefore (fromIsoformat : List Char → Option DateTime) (left right : JsonMembers) :
    Prop :=
  ∃ first second, observedAt fromIsoformat left = .ok first ∧
    observedAt fromIsoformat right = .ok second ∧ first ≤ second

theorem displayOrder_observedAt {order : DisplayOrder}
    (read : displayOrder fromIsoformat item = .ok order) :
    observedAt fromIsoformat item = .ok (ofLex order).1 := by
  rcases bind_eq_ok_iff.mp read with ⟨observed, found, rest⟩
  rcases bind_eq_ok_iff.mp rest with ⟨version, _, equal⟩
  cases equal
  exact found

theorem sortDisplayed_sorted (returned : sortDisplayed fromIsoformat items = .ok sorted) :
    sorted.Pairwise (ObservedBefore fromIsoformat) := by
  rcases bind_eq_ok_iff.mp returned with ⟨ranked, mapped, equal⟩
  cases equal
  rw [List.pairwise_map]
  apply List.Pairwise.imp_of_mem _ (List.pairwise_insertionSort
    (fun left right : DisplayOrder × JsonMembers => left.1 ≤ right.1) ranked)
  intro left right leftMember rightMember before
  have orders := (mapM_withOrder mapped).2
  have first := displayOrder_observedAt
    (orders left ((List.perm_insertionSort _ ranked).subset leftMember))
  have second := displayOrder_observedAt
    (orders right ((List.perm_insertionSort _ ranked).subset rightMember))
  refine ⟨_, _, first, second, ?_⟩
  rcases Prod.Lex.le_iff.mp before with earlier | ⟨same, _⟩
  · exact le_of_lt earlier
  · exact le_of_eq same

/-! ## Retention -/

theorem retain_eq {limit : Nat} {items retained : List JsonMembers}
    (room : retained.length < limit) :
    retain limit retained items =
      (items.foldl (Table.insertNew identityKey) retained).take limit := by
  induction items generalizing retained with
  | nil =>
      rw [retain, List.foldl_nil, List.take_of_length_le (Nat.le_of_lt room)]
  | cons item rest induction =>
      rw [retain, List.foldl_cons, Table.insertNew_eq]
      split
      · exact induction room
      · split
        · rename_i full
          have length : (retained ++ [item]).length = limit := by
            rw [List.length_append, List.length_singleton]
            omega
          rcases Table.prefix_foldl_insertNew identityKey rest (retained ++ [item]) with
            ⟨more, whole⟩
          rw [← whole, List.take_left' length]
        · apply induction
          rw [List.length_append, List.length_singleton]
          omega

theorem retain_eq_firsts {limit : Nat} {items : List JsonMembers} (room : 0 < limit) :
    retain limit [] items = (Table.firsts identityKey items).take limit :=
  retain_eq room

theorem activeItems_spec {items active : List JsonMembers}
    (returned : activeItems items = .ok active) :
    active.Sublist items ∧ (∀ item ∈ active, isActive item = .ok true) ∧
      ∀ item ∈ items, isActive item = .ok true → item ∈ active := by
  induction items generalizing active with
  | nil =>
      cases returned
      refine ⟨List.Sublist.refl _, ?_, ?_⟩
      · intro item member
        cases member
      · intro item member
        cases member
  | cons item rest induction =>
      rcases bind_eq_ok_iff.mp returned with ⟨alive, asked, returned⟩
      rcases bind_eq_ok_iff.mp returned with ⟨others, later, equal⟩
      rcases induction later with ⟨part, all, whole⟩
      cases alive with
      | true =>
          cases equal
          refine ⟨part.cons_cons item, ?_, ?_⟩
          · intro other member
            rcases List.mem_cons.mp member with same | inRest
            · rw [same]
              exact asked
            · exact all other inRest
          · intro other member living
            rcases List.mem_cons.mp member with same | inRest
            · exact same ▸ List.mem_cons_self
            · exact List.mem_cons_of_mem _ (whole other inRest living)
      | false =>
          cases equal
          refine ⟨part.cons item, all, ?_⟩
          intro other member living
          rcases List.mem_cons.mp member with same | inRest
          · rw [same, asked] at living
            cases living
          · exact whole other inRest living

/-- What is retained of a memory: items with distinct keys, and no item that is not active
before one that is. -/
structure RetainedOf (fromIsoformat : List Char → Option DateTime) (limit : Nat)
    (items retained : List JsonMembers) : Prop where
  part : retained ⊆ items
  bounded : retained.length ≤ limit
  distinct : (retained.map identityKey).Nodup
  sorted : retained.Pairwise (ObservedBefore fromIsoformat)
  active : ∀ item ∈ items, isActive item = .ok true → item ∉ retained →
    ∀ kept ∈ retained, isActive kept = .ok true

theorem retainedActions_spec {limit : Nat} {retained : List JsonMembers} (room : 0 < limit)
    (distinct : ((memory.map Prod.snd).map identityKey).Nodup)
    (returned : retainedActions fromIsoformat limit memory = .ok retained) :
    RetainedOf fromIsoformat limit (memory.map Prod.snd) retained := by
  rcases bind_eq_ok_iff.mp returned with ⟨newestFirst, newest, returned⟩
  rcases bind_eq_ok_iff.mp returned with ⟨active, living, returned⟩
  dsimp only at returned
  rw [retain_eq_firsts room, List.append_assoc] at returned
  have order := sortDisplayed_perm returned
  have items := sortNewestFirst_perm newest
  rcases activeItems_spec living with ⟨part, all, whole⟩
  have newestDistinct : (newestFirst.map identityKey).Nodup :=
    (items.map identityKey).nodup_iff.mpr distinct
  have activeDistinct : (active.map identityKey).Nodup :=
    newestDistinct.sublist (part.map identityKey)
  rcases Table.prefix_firsts_append identityKey activeDistinct
    (newestFirst.take 1 ++ newestFirst) with ⟨more, split⟩
  have within : Table.firsts identityKey (active ++ (newestFirst.take 1 ++ newestFirst)) ⊆
      newestFirst := by
    apply List.Subset.trans (Table.firsts_subset identityKey _)
    apply List.append_subset.mpr ⟨part.subset, _⟩
    exact List.append_subset.mpr ⟨(List.take_sublist 1 newestFirst).subset, List.Subset.refl _⟩
  refine ⟨?_, ?_, ?_, sortDisplayed_sorted returned, ?_⟩
  · intro item member
    exact items.subset (within (List.mem_of_mem_take (order.subset member)))
  · rw [order.length_eq]
    exact List.length_take_le _ _
  · rw [(order.map identityKey).nodup_iff, List.map_take]
    exact (Table.nodup_firsts identityKey _).sublist (List.take_sublist _ _)
  · intro item member alive dropped kept keptMember
    have inActive := whole item (items.symm.subset member) alive
    have keptFirst := order.subset keptMember
    have notTaken : item ∉ (Table.firsts identityKey
        (active ++ (newestFirst.take 1 ++ newestFirst))).take limit :=
      fun taken => dropped (order.symm.subset taken)
    rw [← split] at keptFirst notTaken
    rcases Nat.lt_or_ge active.length limit with fewer | enough
    · exfalso
      apply notTaken
      rw [List.take_append, List.take_of_length_le (Nat.le_of_lt fewer)]
      exact List.mem_append_left _ inActive
    · rw [List.take_append_of_le_length enough] at keptFirst
      exact all kept (List.mem_of_mem_take keptFirst)

/-! ## What the memory keeps -/

theorem memoryKey?_legacyRecord : memoryKey? legacyRecord = none := by
  rfl

theorem legacyPresent_iff :
    legacyPresent existing = true ↔ ∃ item ∈ existing, memoryKey? item = none := by
  simp only [legacyPresent, List.any_eq_true, Option.isNone_iff_eq_none]

theorem retainedLimit_pos (existing : List JsonMembers) : 0 < retainedLimit existing := by
  unfold retainedLimit maxAttemptedActions
  split <;> decide

theorem MemoryOf.keys_distinct (memoryOf : MemoryOf modelValidate existing current memory) :
    ((memory.map Prod.snd).map identityKey).Nodup := by
  have keys : (memory.map Prod.snd).map identityKey = memory.map Prod.fst := by
    rw [List.map_map]
    apply List.map_congr_left
    intro entry member
    exact (memoryOf.source entry member).spec.2
  rw [keys]
  exact memoryOf.distinct

theorem mergedActions_memoryOf
    (merged : mergedActions fromIsoformat modelValidate existing current = .ok memory) :
    MemoryOf modelValidate existing current memory :=
  foldlM_memoryOf current (rememberedActions_memoryOf existing) merged

/-- The result of a merge: at most so many items, the legacy record first when there is one,
and behind it what is retained of the merged items. -/
theorem mergeAttemptedActions_keeps {result : List JsonMembers}
    (returned : mergeAttemptedActions fromIsoformat modelValidate existing current =
      .ok result) :
    result.length ≤ maxAttemptedActions ∧
    (result.head? = some legacyRecord ↔ ∃ item ∈ existing, memoryKey? item = none) ∧
    ∃ memory retained,
      mergedActions fromIsoformat modelValidate existing current = .ok memory ∧
      MemoryOf modelValidate existing current memory ∧
      result = (if legacyPresent existing then [legacyRecord] else []) ++ retained ∧
      RetainedOf fromIsoformat (retainedLimit existing) (memory.map Prod.snd) retained ∧
      ∀ item ∈ retained, Remembered modelValidate existing current (identityKey item) item := by
  rcases bind_eq_ok_iff.mp returned with ⟨memory, merged, returned⟩
  rcases bind_eq_ok_iff.mp returned with ⟨retained, kept, equal⟩
  cases equal
  have memoryOf := mergedActions_memoryOf merged
  have retainedOf := retainedActions_spec (retainedLimit_pos existing) memoryOf.keys_distinct kept
  have remembered (item : JsonMembers) (member : item ∈ retained) :
      Remembered modelValidate existing current (identityKey item) item := by
    rcases List.mem_map.mp (retainedOf.part member) with ⟨entry, entryMember, rfl⟩
    have source := memoryOf.source entry entryMember
    rw [source.spec.2]
    exact source
  refine ⟨?_, ?_, memory, retained, merged, memoryOf, rfl, retainedOf, remembered⟩
  · have bounded := retainedOf.bounded
    unfold retainedLimit maxAttemptedActions at bounded
    unfold maxAttemptedActions
    rw [List.length_append]
    by_cases legacy : legacyPresent existing = true
    · rw [if_pos legacy] at bounded ⊢
      rw [List.length_singleton]
      omega
    · rw [if_neg legacy] at bounded ⊢
      rw [List.length_nil]
      omega
  · rw [← legacyPresent_iff]
    by_cases legacy : legacyPresent existing = true
    · rw [if_pos legacy]
      simp [legacy]
    · rw [if_neg legacy, List.nil_append]
      constructor
      · intro first
        have version := (remembered legacyRecord (List.mem_of_mem_head? first)).spec.1
        exact absurd version (by decide)
      · intro present
        exact absurd present legacy

end

/-! A full memory with a record of an earlier version, and two actions on one resource. -/

def pendingRefund (approvalId resourceId : String) (statusVersion : Int) (updatedAt : Instant) :
    ActionStateFields where
  approvalId
  originRunId := "run"
  originTurnId := "turn"
  actionType := .refund
  resourceType := "billing_record"
  resourceId
  resourceVersion := 1
  approvalStatus := .pending
  projectionStatus := .pending
  statusVersion
  actionable := true
  allowedCustomerActions := [.withdraw]
  decisionClass := .none
  customerSafeReasonCode := customerSafeReasonCode .pending
  executionState := executionState .pending
  businessActionId := none
  createdAt := ⟨updatedAt, none⟩
  updatedAt := ⟨updatedAt, none⟩
  sourceEventId := none
  sourceEventHash := none

def julyMidnight : Instant :=
  ⟨63919670400000000, Instant.july2026_inRange⟩

def spelledMidnight (text : List Char) : Option DateTime :=
  if text = "2026-07-15T00:00:00+00:00".toList then
    some ⟨julyMidnight, some ⟨0, UtcOffset.utc_bounded⟩⟩
  else none

def oneResource : List ActionStateFields :=
  [pendingRefund "a1" "bill_1" 1 julyMidnight, pendingRefund "a2" "bill_1" 1 julyMidnight]

def recordOf (approvalId : String) (key : ActionKey) (projectionStatus : String)
    (statusVersion : Int) : JsonMembers :=
  [("schema_version", .string "attempted-action-memory.v1"),
    ("action_identity", .object (identityMembers key)),
    ("approval_id", .string approvalId),
    ("projection_status", .string projectionStatus),
    ("status_version", .integer statusVersion)]

def fullMemory : List JsonMembers :=
  [] :: (List.range 64).map fun index => recordOf "a0" ⟨toString index, "key", "key"⟩ "executed" 1

/-- The action that can still change is kept. -/
theorem fullMemory_merged :
    ((mergeAttemptedActions spelledMidnight ActionStateFields.validate fullMemory
      oneResource).toOption.any fun result => result.length = maxAttemptedActions &&
        result.any fun item => approvalText item = "a2") = true := by
  decide +kernel

theorem mergeAttemptedActions_keeps_fullMemory :
    ∃ result, mergeAttemptedActions spelledMidnight ActionStateFields.validate fullMemory
        oneResource = .ok result ∧
      result.length = maxAttemptedActions ∧ result.head? = some legacyRecord ∧
      ∃ item ∈ result, approvalText item = "a2" := by
  rcases ok_of_any fullMemory_merged with ⟨result, returned, checked⟩
  rw [Bool.and_eq_true, decide_eq_true_eq, List.any_eq_true] at checked
  rcases checked with ⟨full, item, member, approval⟩
  have kept := mergeAttemptedActions_keeps returned
  have legacy : memoryKey? [] = none := rfl
  exact ⟨result, returned, full, kept.2.1.mpr ⟨[], List.mem_cons_self, legacy⟩, item, member,
    of_decide_eq_true approval⟩

end AttemptedActions

end SupportGuard
