import Mathlib.Data.List.Dedup
import SupportGuard.Foundation.JsonRelation

/-! # The finalizer payload

`contracts/finalizer.py`: the payload a segment finalizer persists before its
effect, and the paths at which two payloads differ. -/

namespace SupportGuard

open Foundation

/-! ## Payloads -/

def finalizerTerminalStates : List String :=
  ["resolved", "failed", "rejected", "needs_clarification", "verification_pending",
    "manual_takeover"]

/-- An embedded final state is an object that names a terminal state. -/
def validEmbeddedFinal (state : List (String × Json)) : Prop :=
  match state.lookup "final" with
  | none => True
  | some (.object final) => ∃ terminal ∈ finalizerTerminalStates,
      final.lookup "terminal_state" = some (.string terminal)
  | some _ => False

/-- The state of a segment, as the JSON object it is dumped to. -/
structure StateDelta where
  state : List (String × Json)
  uniqueKeys : (Json.object state).UniqueKeys
  embeddedFinal : validEmbeddedFinal state

/-- A mapping from resource names to versions. -/
structure ResourceVersions where
  entries : List (String × Int)
  uniqueKeys : (entries.map Prod.fst).Nodup

structure FinalizerHeadsV2 where
  expectedTicketHeadEventId : Option String
  expectedTicketSequence : Int
  expectedTicketEventHash : Option String
  expectedRunStatus : String
  expectedRunStatusVersion : Int
  parentCheckpointId : Option String
  parentCheckpointHash : Option String
  parentCheckpointVersion : Int
  finalCheckpointId : String
  finalCheckpointHash : String
  finalCheckpointVersion : Int
  expectedMarkerStatusVersion : Int
  expectedToolLedgerHead : String
  expectedCapabilityLedgerHead : String
  expectedProposalLedgerHead : String
  expectedBudgetLedgerHead : String
  expectedContextSnapshotHash : String
  expectedContextLedgerHash : String
  expectedDomainResourceVersions : ResourceVersions
  ticketSequenceBound : 0 ≤ expectedTicketSequence
  runStatusVersionBound : 1 ≤ expectedRunStatusVersion
  parentCheckpointVersionBound : 0 ≤ parentCheckpointVersion
  finalCheckpointVersionBound : 1 ≤ finalCheckpointVersion
  markerStatusVersionBound : 2 ≤ expectedMarkerStatusVersion

inductive ApprovingDecision
  | approve
  | editAndApprove
deriving DecidableEq

inductive DecliningDecision
  | reject
  | manualTakeover
deriving DecidableEq

inductive ExpectedApprovalStatus
  | approved
  | executed
deriving DecidableEq

inductive DomainOutcomeReason
  | bindingStale
  | logicalDegradation
deriving DecidableEq

inductive DomainDeltaV2
  | agentComplete
  | hitlInterrupt (proposalId proposalHash approvalSnapshotHash
      observationBindingHash : String)
  | actionfulApprovalResume (approvalId humanDecisionId : String)
      (decision : ApprovingDecision) (actionHash businessActionId effectHash : String)
  | actionIntentApprovalResume (approvalId humanDecisionId : String)
      (decision : ApprovingDecision) (actionHash : String)
      (expectedApprovalStatus : ExpectedApprovalStatus)
  | noActionApprovalResume (approvalId humanDecisionId : String)
      (decision : DecliningDecision) (noActionReason : String)
  | failClosedApprovalResume (approvalId humanDecisionId : String)
      (decision : ApprovingDecision) (domainOutcomeReason : DomainOutcomeReason)
      (validationResult : String)
      /- The identifier and the hash of the reconciliation event come together. -/
      (reconciliationEvent : Option (String × String))
deriving DecidableEq

inductive SegmentKind
  | agentStart
  | approvalResume
deriving DecidableEq

structure FinalizerPayloadV2 where
  tenantId : String
  ticketId : String
  runId : String
  jobId : String
  segmentId : String
  deliveryGeneration : Int
  fencingToken : Int
  parentSegmentId : Option String
  markerId : String
  segmentKind : SegmentKind
  preparedPayloadHash : String
  expectedHeads : FinalizerHeadsV2
  stateDelta : StateDelta
  stateDeltaRef : String
  stateDeltaHash : String
  domainDelta : DomainDeltaV2
  domainDeltaRef : String
  domainDeltaHash : String
  payloadHash : String
  deliveryGenerationBounds : 1 ≤ deliveryGeneration ∧ deliveryGeneration ≤ 5
  fencingTokenBound : 1 ≤ fencingToken

/-! The least numbers that the fields admit. -/

theorem leastSequence_bound : (0 : Int) ≤ 0 := le_refl 0

theorem leastVersion_bound : (1 : Int) ≤ 1 := le_refl 1

theorem leastMarkerVersion_bound : (2 : Int) ≤ 2 := le_refl 2

theorem firstGeneration_bounds : (1 : Int) ≤ 1 ∧ (1 : Int) ≤ 5 := by decide

/-! ## Dumps -/

def ApprovingDecision.text : ApprovingDecision → String
  | .approve => "approve"
  | .editAndApprove => "edit_and_approve"

def DecliningDecision.text : DecliningDecision → String
  | .reject => "reject"
  | .manualTakeover => "manual_takeover"

def ExpectedApprovalStatus.text : ExpectedApprovalStatus → String
  | .approved => "approved"
  | .executed => "executed"

def DomainOutcomeReason.text : DomainOutcomeReason → String
  | .bindingStale => "binding_stale"
  | .logicalDegradation => "logical_degradation"

def SegmentKind.text : SegmentKind → String
  | .agentStart => "agent_start"
  | .approvalResume => "approval_resume"

def ResourceVersions.dump (versions : ResourceVersions) : List (String × Json) :=
  versions.entries.map fun entry => (entry.1, .integer entry.2)

def FinalizerHeadsV2.dump (heads : FinalizerHeadsV2) : List (String × Json) :=
  [("expected_ticket_head_event_id", Json.optionalText heads.expectedTicketHeadEventId),
    ("expected_ticket_sequence", .integer heads.expectedTicketSequence),
    ("expected_ticket_event_hash", Json.optionalText heads.expectedTicketEventHash),
    ("expected_run_status", .string heads.expectedRunStatus),
    ("expected_run_status_version", .integer heads.expectedRunStatusVersion),
    ("parent_checkpoint_id", Json.optionalText heads.parentCheckpointId),
    ("parent_checkpoint_hash", Json.optionalText heads.parentCheckpointHash),
    ("parent_checkpoint_version", .integer heads.parentCheckpointVersion),
    ("final_checkpoint_id", .string heads.finalCheckpointId),
    ("final_checkpoint_hash", .string heads.finalCheckpointHash),
    ("final_checkpoint_version", .integer heads.finalCheckpointVersion),
    ("expected_marker_status", .string "checkpoint_written"),
    ("expected_marker_status_version", .integer heads.expectedMarkerStatusVersion),
    ("expected_tool_ledger_head", .string heads.expectedToolLedgerHead),
    ("expected_capability_ledger_head", .string heads.expectedCapabilityLedgerHead),
    ("expected_proposal_ledger_head", .string heads.expectedProposalLedgerHead),
    ("expected_budget_ledger_head", .string heads.expectedBudgetLedgerHead),
    ("expected_context_snapshot_hash", .string heads.expectedContextSnapshotHash),
    ("expected_context_ledger_hash", .string heads.expectedContextLedgerHash),
    ("expected_domain_resource_versions",
      .object heads.expectedDomainResourceVersions.dump)]

def DomainDeltaV2.dump : DomainDeltaV2 → List (String × Json)
  | .agentComplete =>
      [("variant", .string "agent_complete"), ("outcome", .string "completed")]
  | .hitlInterrupt proposalId proposalHash approvalSnapshotHash observationBindingHash =>
      [("variant", .string "hitl_interrupt"), ("outcome", .string "interrupted"),
        ("proposal_id", .string proposalId), ("proposal_hash", .string proposalHash),
        ("approval_snapshot_hash", .string approvalSnapshotHash),
        ("observation_binding_hash", .string observationBindingHash)]
  | .actionfulApprovalResume approvalId humanDecisionId decision actionHash
      businessActionId effectHash =>
      [("variant", .string "approval_actionful"), ("outcome", .string "completed"),
        ("approval_id", .string approvalId),
        ("human_decision_id", .string humanDecisionId),
        ("decision", .string decision.text), ("action_hash", .string actionHash),
        ("business_action_id", .string businessActionId),
        ("effect_hash", .string effectHash)]
  | .actionIntentApprovalResume approvalId humanDecisionId decision actionHash
      expectedApprovalStatus =>
      [("variant", .string "approval_action_intent"), ("outcome", .string "completed"),
        ("approval_id", .string approvalId),
        ("human_decision_id", .string humanDecisionId),
        ("decision", .string decision.text), ("action_hash", .string actionHash),
        ("execution_intent", .string "execute_runtime_action"),
        ("expected_approval_status", .string expectedApprovalStatus.text)]
  | .noActionApprovalResume approvalId humanDecisionId decision noActionReason =>
      [("variant", .string "approval_no_action"), ("outcome", .string "completed"),
        ("approval_id", .string approvalId),
        ("human_decision_id", .string humanDecisionId),
        ("decision", .string decision.text),
        ("no_action_reason", .string noActionReason)]
  | .failClosedApprovalResume approvalId humanDecisionId decision domainOutcomeReason
      validationResult reconciliationEvent =>
      [("variant", .string "approval_fail_closed"), ("outcome", .string "completed"),
        ("approval_id", .string approvalId),
        ("human_decision_id", .string humanDecisionId),
        ("decision", .string decision.text),
        ("domain_outcome_reason", .string domainOutcomeReason.text),
        ("validation_result", .string validationResult),
        ("reconciliation_event_id", Json.optionalText (reconciliationEvent.map Prod.fst)),
        ("reconciliation_event_hash", Json.optionalText (reconciliationEvent.map Prod.snd))]

/-- The members of a payload without its hash. -/
def FinalizerPayloadV2.dump (payload : FinalizerPayloadV2) : List (String × Json) :=
  [("schema_version", .string "finalizer.v2"),
    ("canonicalization_version", .string "canonical-json.v1"),
    ("tenant_id", .string payload.tenantId),
    ("ticket_id", .string payload.ticketId),
    ("run_id", .string payload.runId),
    ("job_id", .string payload.jobId),
    ("segment_id", .string payload.segmentId),
    ("delivery_generation", .integer payload.deliveryGeneration),
    ("fencing_token", .integer payload.fencingToken),
    ("parent_segment_id", Json.optionalText payload.parentSegmentId),
    ("marker_id", .string payload.markerId),
    ("segment_kind", .string payload.segmentKind.text),
    ("prepared_payload_hash", .string payload.preparedPayloadHash),
    ("expected_heads", .object payload.expectedHeads.dump),
    ("state_delta", .object [("state", .object payload.stateDelta.state)]),
    ("state_delta_ref", .string payload.stateDeltaRef),
    ("state_delta_hash", .string payload.stateDeltaHash),
    ("domain_delta", .object payload.domainDelta.dump),
    ("domain_delta_ref", .string payload.domainDeltaRef),
    ("domain_delta_hash", .string payload.domainDeltaHash)]

def FinalizerPayloadV2.body (payload : FinalizerPayloadV2) : Json :=
  .object payload.dump

/-! The keys of a dump are distinct. -/

theorem ResourceVersions.dump_keys (versions : ResourceVersions) :
    versions.dump.map Prod.fst = versions.entries.map Prod.fst := by
  rw [ResourceVersions.dump, List.map_map]
  rfl

theorem ResourceVersions.dump_uniqueKeys (versions : ResourceVersions) :
    (Json.object versions.dump).UniqueKeys := by
  refine ⟨versions.dump_keys ▸ versions.uniqueKeys, ?_⟩
  unfold ResourceVersions.dump
  induction versions.entries with
  | nil => trivial
  | cons _ _ induction => exact ⟨trivial, induction⟩

theorem optionalText_uniqueKeys (text : Option String) :
    (Json.optionalText text).UniqueKeys := by
  cases text <;> trivial

def payloadKeys : List String :=
  ["schema_version", "canonicalization_version", "tenant_id", "ticket_id", "run_id",
    "job_id", "segment_id", "delivery_generation", "fencing_token", "parent_segment_id",
    "marker_id", "segment_kind", "prepared_payload_hash", "expected_heads", "state_delta",
    "state_delta_ref", "state_delta_hash", "domain_delta", "domain_delta_ref",
    "domain_delta_hash"]

theorem FinalizerPayloadV2.dump_keys (payload : FinalizerPayloadV2) :
    payload.dump.map Prod.fst = payloadKeys := rfl

def headKeys : List String :=
  ["expected_ticket_head_event_id", "expected_ticket_sequence",
    "expected_ticket_event_hash", "expected_run_status", "expected_run_status_version",
    "parent_checkpoint_id", "parent_checkpoint_hash", "parent_checkpoint_version",
    "final_checkpoint_id", "final_checkpoint_hash", "final_checkpoint_version",
    "expected_marker_status", "expected_marker_status_version",
    "expected_tool_ledger_head", "expected_capability_ledger_head",
    "expected_proposal_ledger_head", "expected_budget_ledger_head",
    "expected_context_snapshot_hash", "expected_context_ledger_hash",
    "expected_domain_resource_versions"]

theorem FinalizerHeadsV2.dump_keys (heads : FinalizerHeadsV2) :
    heads.dump.map Prod.fst = headKeys := rfl

theorem FinalizerHeadsV2.dump_uniqueKeys (heads : FinalizerHeadsV2) :
    (Json.object heads.dump).UniqueKeys := by
  refine ⟨?_, ?_⟩
  · rw [heads.dump_keys]
    decide +kernel
  · simp only [FinalizerHeadsV2.dump, Json.MembersUniqueKeys, optionalText_uniqueKeys,
      Json.UniqueKeys, true_and, and_true]
    exact heads.expectedDomainResourceVersions.dump_uniqueKeys

theorem DomainDeltaV2.dump_uniqueKeys (delta : DomainDeltaV2) :
    (Json.object delta.dump).UniqueKeys := by
  cases delta <;>
    simp [DomainDeltaV2.dump, Json.MembersUniqueKeys, optionalText_uniqueKeys,
      Json.UniqueKeys]

theorem FinalizerPayloadV2.dump_uniqueKeys (payload : FinalizerPayloadV2) :
    Json.MembersUniqueKeys payload.dump := by
  have heads := payload.expectedHeads.dump_uniqueKeys
  have state := payload.stateDelta.uniqueKeys
  have delta := payload.domainDelta.dump_uniqueKeys
  rw [Json.UniqueKeys] at heads state delta
  simp [FinalizerPayloadV2.dump, Json.MembersUniqueKeys, optionalText_uniqueKeys,
    Json.UniqueKeys, heads, state, delta]

theorem FinalizerPayloadV2.body_uniqueKeys (payload : FinalizerPayloadV2) :
    payload.body.UniqueKeys := by
  refine ⟨?_, payload.dump_uniqueKeys⟩
  rw [payload.dump_keys]
  decide +kernel

/-! ## Mismatch paths -/

namespace FinalizerMismatch

abbrev Paths := List String

def maxPaths : Nat := 32

/-- Equality of scalars: zeros of both signs are equal, a not-a-number differs from
itself, and values of different types always differ. -/
def scalarEqual : Json → Json → Bool
  | .null, .null => true
  | .bool left, .bool right => left = right
  | .integer left, .integer right => left = right
  | .float left, .float right =>
      let zero (value : FloatLiteral) : Bool :=
        value.text = ['0', '.', '0'] || value.text = ['-', '0', '.', '0']
      left = right || zero left && zero right
  | .infinity left, .infinity right => left = right
  | .string left, .string right => left = right
  | _, _ => false

def childPath (path key : String) : String :=
  if path = "" then key else path ++ "." ++ key

def sortedKeys (left right : List (String × Json)) : List String :=
  (left.map Prod.fst ++ right.map Prod.fst).dedup.insertionSort (· ≤ ·)

/-- The loop over the keys of two objects. A key of one object only is recorded even
when the paths are full already; the loop ends after recording it. -/
def compareKeys (comparisons : List (String × (Json → String → Paths → Paths)))
    (right : List (String × Json)) (path : String) : List String → Paths → Paths
  | [], mismatches => mismatches
  | key :: keys, mismatches =>
      match comparisons.lookup key, right.lookup key with
      | some compareLeft, some value =>
          compareKeys comparisons right path keys
            (compareLeft value (childPath path key) mismatches)
      | _, _ =>
          let mismatches := mismatches ++ [childPath path key]
          if maxPaths ≤ mismatches.length then mismatches
          else compareKeys comparisons right path keys mismatches

def compareScalar (left right : Json) (path : String) (mismatches : Paths) : Paths :=
  if maxPaths ≤ mismatches.length then mismatches
  else if scalarEqual left right then mismatches
  else mismatches ++ [if path = "" then "$" else path]

mutual
def compare : Json → Json → String → Paths → Paths
  | .object left, right, path, mismatches => match right with
      | .object right =>
          if maxPaths ≤ mismatches.length then mismatches
          else compareKeys (comparisons left) right path (sortedKeys left right) mismatches
      | right => compareScalar (.object left) right path mismatches
  | .array left, right, path, mismatches => match right with
      | .array right =>
          if maxPaths ≤ mismatches.length then mismatches
          else
            let mismatches :=
              if left.length ≠ right.length then mismatches ++ [path ++ ".length"]
              else mismatches
            if maxPaths ≤ mismatches.length then mismatches
            else compareItems left right path 0 mismatches
      | right => compareScalar (.array left) right path mismatches
  | .null, right, path, mismatches => compareScalar .null right path mismatches
  | .bool value, right, path, mismatches =>
      compareScalar (.bool value) right path mismatches
  | .integer value, right, path, mismatches =>
      compareScalar (.integer value) right path mismatches
  | .float value, right, path, mismatches =>
      compareScalar (.float value) right path mismatches
  | .notANumber, right, path, mismatches =>
      compareScalar .notANumber right path mismatches
  | .infinity negative, right, path, mismatches =>
      compareScalar (.infinity negative) right path mismatches
  | .string value, right, path, mismatches =>
      compareScalar (.string value) right path mismatches

/-- The loop over the items of two lists, as long as both have one. -/
def compareItems : List Json → List Json → String → Nat → Paths → Paths
  | [], _, _, _, mismatches => mismatches
  | _ :: _, [], _, _, mismatches => mismatches
  | left :: leftRest, right :: rightRest, path, index, mismatches =>
      let mismatches :=
        compare left right (path ++ "[" ++ toString index ++ "]") mismatches
      if maxPaths ≤ mismatches.length then mismatches
      else compareItems leftRest rightRest path (index + 1) mismatches

/-- The members of an object, each with the comparison of its value. -/
def comparisons : List (String × Json) →
    List (String × (Json → String → Paths → Paths))
  | [] => []
  | (key, value) :: rest => (key, compare value) :: comparisons rest
end

/-! ## What a comparison reports

Below the limit a comparison adds paths exactly when the two sides differ, and each
path it adds lies under its own. At the limit it adds nothing. -/

/-- The comparison `run` extends the paths it is given, by paths of a kind, and by
none just when the two sides agree. -/
def Reports (run : Paths → Paths) (agree : Prop) (kind : String → Prop) : Prop :=
  ∀ mismatches, ∃ added, run mismatches = mismatches ++ added ∧
    (maxPaths ≤ mismatches.length → added = []) ∧
    (mismatches.length < maxPaths → (added = [] ↔ agree)) ∧
    ∀ path ∈ added, kind path

theorem Reports.mono {run : Paths → Paths} {agree : Prop} {kind wider : String → Prop}
    (reports : Reports run agree kind) (weaken : ∀ path, kind path → wider path) :
    Reports run agree wider := by
  intro mismatches
  rcases reports mismatches with ⟨added, extended, full, exact, kinds⟩
  exact ⟨added, extended, full, exact, fun path member => weaken path (kinds path member)⟩

theorem Reports.congr {run : Paths → Paths} {agree same : Prop} {kind : String → Prop}
    (reports : Reports run agree kind) (equivalent : agree ↔ same) :
    Reports run same kind :=
  propext equivalent ▸ reports

/-- Comparisons made one after another report what each of them reports. -/
theorem Reports.comp {first second : Paths → Paths} {firstAgree secondAgree : Prop}
    {kind : String → Prop} (firstReports : Reports first firstAgree kind)
    (secondReports : Reports second secondAgree kind) :
    Reports (fun mismatches => second (first mismatches)) (firstAgree ∧ secondAgree)
      kind := by
  intro mismatches
  rcases firstReports mismatches with ⟨added, extended, full, exact, kinds⟩
  rcases secondReports (mismatches ++ added) with
    ⟨further, furtherExtended, furtherFull, furtherExact, furtherKinds⟩
  refine ⟨added ++ further, ?_, ?_, ?_, ?_⟩
  · show second (first mismatches) = _
    rw [extended, furtherExtended, List.append_assoc]
  · intro limit
    rw [full limit, List.append_nil] at furtherFull
    rw [full limit, furtherFull limit, List.append_nil]
  · intro below
    rw [List.append_eq_nil_iff, ← exact below]
    constructor
    · intro empty
      refine ⟨empty.1, ?_⟩
      rw [empty.1, List.append_nil] at furtherExact
      exact (furtherExact below).mp empty.2
    · intro agree
      refine ⟨agree.1, ?_⟩
      rw [agree.1, List.append_nil] at furtherExact
      exact (furtherExact below).mpr agree.2
  · intro path member
    rcases List.mem_append.mp member with member | member
    · exact kinds path member
    · exact furtherKinds path member

theorem Reports.foldl {kind : String → Prop} {run : String → Paths → Paths}
    {agree : String → Prop} : ∀ keys : List String,
    (∀ key ∈ keys, Reports (run key) (agree key) kind) →
    Reports (fun mismatches => keys.foldl (fun paths key => run key paths) mismatches)
      (∀ key ∈ keys, agree key) kind
  | [], _ => by
      intro mismatches
      exact ⟨[], by simp, by simp, by simp, by simp⟩
  | key :: keys, each => by
      have first := each key List.mem_cons_self
      have following := Reports.foldl keys fun other member =>
        each other (List.mem_cons_of_mem key member)
      have both := first.comp following
      rw [← List.forall_mem_cons (p := agree)] at both
      exact both

/-! Paths are extended at their end. -/

def Under (path extended : String) : Prop :=
  path.toList <+: extended.toList

instance (path extended : String) : Decidable (Under path extended) :=
  inferInstanceAs (Decidable (_ <+: _))

theorem under_refl (path : String) : Under path path :=
  List.prefix_rfl

theorem under_append (path suffix : String) : Under path (path ++ suffix) := by
  rw [Under, String.toList_append]
  exact List.prefix_append _ _

theorem under_childPath (path key : String) : Under path (childPath path key) := by
  unfold childPath
  split
  · next equal =>
      rw [equal]
      exact List.nil_prefix
  · rw [String.append_assoc]
    exact under_append path _

theorem Under.trans {first second third : String} (left : Under first second)
    (right : Under second third) : Under first third :=
  List.IsPrefix.trans left right

/-! Agreement of two trees, as far as the comparison sees it. -/

def Agrees : Json → Json → Prop :=
  Json.Related fun left right => scalarEqual left right = true

theorem exact_scalarEqual :
    Json.Exact fun left right => scalarEqual left right = true where
  null := rfl
  nullString _ := Bool.false_ne_true
  stringNull _ := Bool.false_ne_true
  string _ _ := by simp [scalarEqual]
  integer _ _ := by simp [scalarEqual]

def AgreesAt : List (String × Json) → List (String × Json) → String → Prop :=
  Json.RelatedAt fun left right => scalarEqual left right = true

theorem mem_sortedKeys {left right : List (String × Json)} {key : String} :
    key ∈ sortedKeys left right ↔
      key ∈ left.map Prod.fst ∨ key ∈ right.map Prod.fst := by
  rw [sortedKeys, List.mem_insertionSort, List.mem_dedup, List.mem_append]

theorem agrees_object_iff {left right : List (String × Json)}
    (unique : (left.map Prod.fst).Nodup) :
    Agrees (.object left) (.object right) ↔
      ∀ key ∈ sortedKeys left right, AgreesAt left right key := by
  simp only [mem_sortedKeys]
  exact Json.related_object_iff_relatedAt _ unique

theorem agreesAt_iff {left right : List (String × Json)} {key : String}
    {value other : Json} (found : left.lookup key = some value)
    (otherFound : right.lookup key = some other) :
    AgreesAt left right key ↔ Agrees value other := by
  simp [AgreesAt, Json.RelatedAt, found, otherFound, Agrees]

/-! The comparison of each shape. -/

theorem compareScalar_reports (left right : Json) (path : String) :
    Reports (compareScalar left right path) (scalarEqual left right = true)
      (Under path) := by
  intro mismatches
  unfold compareScalar
  by_cases limit : maxPaths ≤ mismatches.length
  · refine ⟨[], ?_, ?_, ?_, ?_⟩ <;> simp [limit]
  · by_cases equal : scalarEqual left right = true
    · refine ⟨[], ?_, ?_, ?_, ?_⟩ <;> simp [limit, equal]
    · refine ⟨[if path = "" then "$" else path], ?_, ?_, ?_, ?_⟩
      · simp [limit, equal]
      · intro full
        exact absurd full limit
      · simp [equal]
      · intro added member
        rw [List.mem_singleton.mp member]
        split
        · next empty =>
            rw [empty]
            exact List.nil_prefix
        · exact under_refl path

theorem comparisons_lookup (members : List (String × Json)) (key : String) :
    (comparisons members).lookup key = (members.lookup key).map compare := by
  induction members with
  | nil => rfl
  | cons head rest induction =>
      rw [comparisons, List.lookup_cons, List.lookup_cons]
      split
      · rfl
      · exact induction

section Keys

variable {left right : List (String × Json)} {key : String} {value other : Json}

theorem compareKeys_present (path : String) (keys : List String) (mismatches : Paths)
    (found : left.lookup key = some value) (otherFound : right.lookup key = some other) :
    compareKeys (comparisons left) right path (key :: keys) mismatches =
      compareKeys (comparisons left) right path keys
        (compare value other (childPath path key) mismatches) := by
  rw [compareKeys, comparisons_lookup, found, otherFound]
  rfl

theorem compareKeys_absent (path : String) (keys : List String) (mismatches : Paths)
    (absent : left.lookup key = none ∨ right.lookup key = none) :
    compareKeys (comparisons left) right path (key :: keys) mismatches =
      if maxPaths ≤ (mismatches ++ [childPath path key]).length then
        mismatches ++ [childPath path key]
      else compareKeys (comparisons left) right path keys
        (mismatches ++ [childPath path key]) := by
  rw [compareKeys, comparisons_lookup]
  rcases absent with absent | absent
  · rw [absent]
    rfl
  · rw [absent]
    cases left.lookup key <;> rfl

theorem lookup_cases (left right : List (String × Json)) (key : String) :
    (∃ value other, left.lookup key = some value ∧ right.lookup key = some other) ∨
      (left.lookup key = none ∨ right.lookup key = none) := by
  cases left.lookup key <;> cases right.lookup key <;> simp

theorem not_agreesAt (absent : left.lookup key = none ∨ right.lookup key = none) :
    ¬AgreesAt left right key := by
  intro agrees
  rcases agrees with ⟨value, other, found, otherFound, _⟩
  rcases absent with absent | absent
  · rw [absent] at found
    cases found
  · rw [absent] at otherFound
    cases otherFound

theorem compareKeys_reports (path : String)
    (each : ∀ key value other, left.lookup key = some value →
      right.lookup key = some other → ∀ child,
      Reports (compare value other child) (Agrees value other) (Under child)) :
    ∀ (keys : List String) (mismatches : Paths), ∃ added,
      compareKeys (comparisons left) right path keys mismatches = mismatches ++ added ∧
      (mismatches.length < maxPaths →
        (added = [] ↔ ∀ key ∈ keys, AgreesAt left right key)) ∧
      ∀ extended ∈ added, Under path extended
  | [], mismatches => ⟨[], by simp [compareKeys], by simp, by simp⟩
  | key :: keys, mismatches => by
      rcases lookup_cases left right key with ⟨value, other, found, otherFound⟩ | absent
      · rcases each key value other found otherFound (childPath path key) mismatches with
          ⟨first, extended, _, exact, kinds⟩
        rcases compareKeys_reports path each keys (mismatches ++ first) with
          ⟨further, furtherExtended, furtherExact, furtherKinds⟩
        have agreesAt := agreesAt_iff found otherFound
        refine ⟨first ++ further, ?_, ?_, ?_⟩
        · rw [compareKeys_present path keys mismatches found otherFound, extended,
            furtherExtended, List.append_assoc]
        · intro below
          rw [List.append_eq_nil_iff, List.forall_mem_cons, agreesAt, ← exact below]
          constructor
          · intro empty
            rw [empty.1, List.append_nil] at furtherExact
            exact ⟨empty.1, (furtherExact below).mp empty.2⟩
          · intro agrees
            rw [agrees.1, List.append_nil] at furtherExact
            exact ⟨agrees.1, (furtherExact below).mpr agrees.2⟩
        · intro path' member
          rcases List.mem_append.mp member with member | member
          · exact (under_childPath path key).trans (kinds path' member)
          · exact furtherKinds path' member
      · have disagrees : ¬∀ key' ∈ key :: keys, AgreesAt left right key' := fun agrees =>
          not_agreesAt absent (agrees key List.mem_cons_self)
        rw [compareKeys_absent path keys mismatches absent]
        split
        · refine ⟨[childPath path key], rfl, ?_, ?_⟩
          · intro _
            exact iff_of_false (List.cons_ne_nil _ _) disagrees
          · intro extended member
            rw [List.mem_singleton.mp member]
            exact under_childPath path key
        · rcases compareKeys_reports path each keys (mismatches ++ [childPath path key]) with
            ⟨further, furtherExtended, _, furtherKinds⟩
          refine ⟨childPath path key :: further, ?_, ?_, ?_⟩
          · rw [furtherExtended, List.append_assoc]
            rfl
          · intro _
            exact iff_of_false (List.cons_ne_nil _ _) disagrees
          · intro extended member
            rcases List.mem_cons.mp member with rfl | member
            · exact under_childPath path key
            · exact furtherKinds extended member

end Keys

/-- A comparison that comes down to scalars. -/
theorem reports_of_scalar {left right : Json} (path : String)
    (compared : compare left right path = compareScalar left right path)
    (agrees : Agrees left right ↔ scalarEqual left right = true) :
    Reports (compare left right path) (Agrees left right) (Under path) := by
  rw [compared, agrees]
  exact compareScalar_reports left right path

/-- A comparison that records one path and goes on from there. -/
theorem recorded {result mismatches : Paths} {agree : Prop} {path : String}
    (recordedPath : String) (limit : ¬maxPaths ≤ mismatches.length)
    (nested : Under path recordedPath) (different : ¬agree)
    (continued : ∃ added, result = mismatches ++ [recordedPath] ++ added ∧
      ∀ extended ∈ added, Under path extended) :
    ∃ added, result = mismatches ++ added ∧
      (maxPaths ≤ mismatches.length → added = []) ∧
      (mismatches.length < maxPaths → (added = [] ↔ agree)) ∧
      ∀ extended ∈ added, Under path extended := by
  rcases continued with ⟨added, equal, kinds⟩
  refine ⟨recordedPath :: added, ?_, ?_, ?_, ?_⟩
  · rw [equal, List.append_assoc]
    rfl
  · intro full
    exact absurd full limit
  · intro _
    exact iff_of_false (List.cons_ne_nil _ _) different
  · intro extended member
    rcases List.mem_cons.mp member with rfl | member
    · exact nested
    · exact kinds extended member

mutual
theorem compare_reports : ∀ {left right : Json} (path : String), left.UniqueKeys →
    right.UniqueKeys → Reports (compare left right path) (Agrees left right) (Under path)
  | .object left, right, path, leftUnique, rightUnique => by
      cases right with
      | object right =>
          intro mismatches
          rw [compare]
          by_cases limit : maxPaths ≤ mismatches.length
          · refine ⟨[], ?_, ?_, ?_, ?_⟩ <;> simp [limit]
          · rcases compareKeys_reports path (members_report leftUnique.2 rightUnique.2)
              (sortedKeys left right) mismatches with ⟨added, extended, exact, kinds⟩
            rw [if_neg limit, agrees_object_iff leftUnique.1]
            exact ⟨added, extended, fun full => absurd full limit, exact, kinds⟩
      | _ => exact reports_of_scalar path rfl (iff_of_false id Bool.false_ne_true)
  | .array left, right, path, leftUnique, rightUnique => by
      cases right with
      | array right =>
          intro mismatches
          rw [compare]
          by_cases limit : maxPaths ≤ mismatches.length
          · refine ⟨[], ?_, ?_, ?_, ?_⟩ <;> simp [limit]
          · have further := items_report path 0 leftUnique rightUnique
            rw [if_neg limit]
            by_cases lengths : left.length = right.length
            · rcases further mismatches with ⟨added, extended, exact, kinds⟩
              rw [if_neg (not_not.mpr lengths), if_neg limit]
              exact ⟨added, extended, fun full => absurd full limit,
                fun below => exact below lengths, kinds⟩
            · have different : ¬Agrees (.array left) (.array right) := fun agrees =>
                lengths (Json.ItemsRelated.length_eq agrees)
              rcases further (mismatches ++ [path ++ ".length"]) with
                ⟨added, extended, _, kinds⟩
              rw [if_pos lengths]
              refine recorded (path ++ ".length") limit (under_append path _)
                different ?_
              dsimp only
              split
              · exact ⟨[], by simp, by simp⟩
              · exact ⟨added, extended, kinds⟩
      | _ => exact reports_of_scalar path rfl (iff_of_false id Bool.false_ne_true)
  | .null, _, path, _, _ => reports_of_scalar path rfl Iff.rfl
  | .bool _, _, path, _, _ => reports_of_scalar path rfl Iff.rfl
  | .integer _, _, path, _, _ => reports_of_scalar path rfl Iff.rfl
  | .float _, _, path, _, _ => reports_of_scalar path rfl Iff.rfl
  | .notANumber, _, path, _, _ => reports_of_scalar path rfl Iff.rfl
  | .infinity _, _, path, _, _ => reports_of_scalar path rfl Iff.rfl
  | .string _, _, path, _, _ => reports_of_scalar path rfl Iff.rfl

theorem items_report : ∀ {left right : List Json} (path : String) (index : Nat),
    Json.ItemsUniqueKeys left → Json.ItemsUniqueKeys right →
    ∀ mismatches, ∃ added,
      compareItems left right path index mismatches = mismatches ++ added ∧
      (mismatches.length < maxPaths → left.length = right.length →
        (added = [] ↔ Json.ItemsRelated (fun left right => scalarEqual left right = true)
          left right)) ∧
      ∀ extended ∈ added, Under path extended
  | [], right, path, index, _, _ => by
      intro mismatches
      refine ⟨[], by simp [compareItems], ?_, by simp⟩
      intro _ lengths
      simpa [Json.ItemsRelated, eq_comm] using lengths
  | _ :: _, [], path, index, _, _ => by
      intro mismatches
      refine ⟨[], by simp [compareItems], ?_, by simp⟩
      intro _ lengths
      cases lengths
  | left :: leftRest, right :: rightRest, path, index, leftUnique, rightUnique => by
      intro mismatches
      have child := compare_reports (path ++ "[" ++ toString index ++ "]") leftUnique.1
        rightUnique.1
      have nested : Under path (path ++ "[" ++ toString index ++ "]") := by
        rw [String.append_assoc, String.append_assoc]
        exact under_append path _
      rcases child mismatches with ⟨first, firstExtended, _, firstExact, firstKinds⟩
      rcases items_report path (index + 1) leftUnique.2 rightUnique.2
        (mismatches ++ first) with ⟨further, extended, exact, kinds⟩
      have under : ∀ extended ∈ first, Under path extended := fun extended member =>
        nested.trans (firstKinds extended member)
      rw [compareItems, firstExtended]
      by_cases limit : maxPaths ≤ (mismatches ++ first).length
      · refine ⟨first, by simp only [limit, if_true], ?_, under⟩
        intro below _
        have nonempty : first ≠ [] := by
          intro empty
          rw [empty, List.append_nil] at limit
          omega
        refine iff_of_false nonempty ?_
        intro related
        exact nonempty ((firstExact below).mpr related.1)
      · refine ⟨first ++ further, ?_, ?_, ?_⟩
        · simp only [limit, if_false, extended, List.append_assoc]
        · intro below lengths
          rw [List.append_eq_nil_iff, firstExact below,
            exact (by omega) (Nat.succ.inj lengths)]
          rfl
        · intro extended member
          rcases List.mem_append.mp member with member | member
          · exact under extended member
          · exact kinds extended member

theorem members_report : ∀ {left right : List (String × Json)},
    Json.MembersUniqueKeys left → Json.MembersUniqueKeys right →
    ∀ key value other, left.lookup key = some value → right.lookup key = some other →
      ∀ child, Reports (compare value other child) (Agrees value other) (Under child)
  | [], _, _, _, key, value, other, found, _ => by cases found
  | (head, first) :: rest, right, leftUnique, rightUnique, key, value, other, found,
      otherFound => by
      intro child
      by_cases equal : key = head
      · subst equal
        rw [List.lookup_cons_self, Option.some.injEq] at found
        subst found
        exact compare_reports child leftUnique.1 (rightUnique.of_lookup otherFound)
      · rw [List.lookup_cons, beq_false_of_ne equal] at found
        exact members_report leftUnique.2 rightUnique key value other found otherFound child
end

/-! Objects with the same keys are compared member by member, in key order. -/

theorem sortedKeys_pairwise (left right : List (String × Json)) :
    (sortedKeys left right).Pairwise (· < ·) := by
  have sorted := List.pairwise_insertionSort (α := String) (· ≤ ·)
    (left.map Prod.fst ++ right.map Prod.fst).dedup
  have distinct : (sortedKeys left right).Nodup :=
    (List.perm_insertionSort _ _).nodup_iff.mpr (List.nodup_dedup _)
  exact (sorted.and distinct).imp fun pair => lt_of_le_of_ne pair.1 pair.2

/-- The comparison of the members at one key. -/
def compareAt (left right : List (String × Json)) (path key : String) (mismatches : Paths) :
    Paths :=
  match left.lookup key, right.lookup key with
  | some value, some other => compare value other (childPath path key) mismatches
  | _, _ => mismatches

theorem compareKeys_eq_foldl {left right : List (String × Json)} (path : String) :
    ∀ (keys : List String) (mismatches : Paths),
      (∀ key ∈ keys, key ∈ left.map Prod.fst ∧ key ∈ right.map Prod.fst) →
      compareKeys (comparisons left) right path keys mismatches =
        keys.foldl (fun paths key => compareAt left right path key paths) mismatches
  | [], _, _ => rfl
  | key :: keys, mismatches, present => by
      have both := present key List.mem_cons_self
      rw [← Json.lookup_isSome_iff, ← Json.lookup_isSome_iff, Option.isSome_iff_exists,
        Option.isSome_iff_exists] at both
      rcases both with ⟨⟨value, found⟩, ⟨other, otherFound⟩⟩
      rw [compareKeys_present path keys mismatches found otherFound,
        compareKeys_eq_foldl path keys _ fun key' member =>
          present key' (List.mem_cons_of_mem key member), List.foldl_cons]
      congr 1
      rw [compareAt, found, otherFound]

theorem compareAt_reports {left right : List (String × Json)} (path : String)
    {key : String} (leftUnique : Json.MembersUniqueKeys left)
    (rightUnique : Json.MembersUniqueKeys right)
    (present : key ∈ left.map Prod.fst ∧ key ∈ right.map Prod.fst) :
    Reports (compareAt left right path key) (AgreesAt left right key)
      (Under (childPath path key)) := by
  rw [← Json.lookup_isSome_iff, ← Json.lookup_isSome_iff, Option.isSome_iff_exists,
    Option.isSome_iff_exists] at present
  rcases present with ⟨⟨value, found⟩, ⟨other, otherFound⟩⟩
  have reports := members_report leftUnique rightUnique key value other found otherFound
    (childPath path key)
  have compared : compareAt left right path key =
      compare value other (childPath path key) := by
    funext mismatches
    rw [compareAt, found, otherFound]
  rw [compared, agreesAt_iff found otherFound]
  exact reports

/-- The comparison of two objects with the same keys, divided at one of them. -/
theorem compare_object_split {left right : List (String × Json)} (path key : String)
    (leftUnique : Json.MembersUniqueKeys left) (rightUnique : Json.MembersUniqueKeys right)
    (sameKeys : left.map Prod.fst = right.map Prod.fst) (member : key ∈ left.map Prod.fst)
    (mismatches : Paths) :
    compare (.object left) (.object right) path mismatches =
      ((sortedKeys left right).filter (key < ·)).foldl
        (fun paths key => compareAt left right path key paths)
        (compareAt left right path key
          (((sortedKeys left right).filter (· < key)).foldl
            (fun paths key => compareAt left right path key paths) mismatches)) := by
  have present : ∀ key ∈ sortedKeys left right,
      key ∈ left.map Prod.fst ∧ key ∈ right.map Prod.fst := by
    intro key member
    rw [mem_sortedKeys, ← sameKeys, or_self] at member
    exact ⟨member, sameKeys ▸ member⟩
  have folded : compare (.object left) (.object right) path mismatches =
      (sortedKeys left right).foldl
        (fun paths key => compareAt left right path key paths) mismatches := by
    rw [compare]
    by_cases limit : maxPaths ≤ mismatches.length
    · have reports := Reports.foldl (sortedKeys left right) fun key member =>
        (compareAt_reports path leftUnique rightUnique (present key member)).mono
          fun _ _ => trivial
      rcases reports mismatches with ⟨added, extended, full, _⟩
      rw [full limit, List.append_nil] at extended
      rw [if_pos limit]
      exact extended.symm
    · rw [if_neg limit, compareKeys_eq_foldl path _ _ present]
  rw [folded]
  conv_lhs => rw [Json.eq_filter_of_pairwise (sortedKeys_pairwise left right)
    (mem_sortedKeys.mpr (Or.inl member))]
  rw [List.foldl_append, List.foldl_cons]

end FinalizerMismatch

def finalizerPayloadMismatchPaths (persisted rebuilt : FinalizerPayloadV2) :
    List String :=
  FinalizerMismatch.compare persisted.body rebuilt.body "" []

/-! ## A first segment -/

def segmentHeads : FinalizerHeadsV2 where
  expectedTicketHeadEventId := none
  expectedTicketSequence := 0
  expectedTicketEventHash := none
  expectedRunStatus := "running"
  expectedRunStatusVersion := 1
  parentCheckpointId := none
  parentCheckpointHash := none
  parentCheckpointVersion := 0
  finalCheckpointId := "checkpoint_1"
  finalCheckpointHash := "checkpoint"
  finalCheckpointVersion := 1
  expectedMarkerStatusVersion := 2
  expectedToolLedgerHead := "tool"
  expectedCapabilityLedgerHead := "capability"
  expectedProposalLedgerHead := "proposal"
  expectedBudgetLedgerHead := "budget"
  expectedContextSnapshotHash := "snapshot"
  expectedContextLedgerHash := "ledger"
  expectedDomainResourceVersions := ⟨[], List.nodup_nil⟩
  ticketSequenceBound := leastSequence_bound
  runStatusVersionBound := leastVersion_bound
  parentCheckpointVersionBound := leastSequence_bound
  finalCheckpointVersionBound := leastVersion_bound
  markerStatusVersionBound := leastMarkerVersion_bound

def segmentPayload (state : StateDelta) : FinalizerPayloadV2 where
  tenantId := "tenant"
  ticketId := "ticket_1"
  runId := "run_1"
  jobId := "job_1"
  segmentId := "segment_1"
  deliveryGeneration := 1
  fencingToken := 1
  parentSegmentId := none
  markerId := "marker_1"
  segmentKind := .agentStart
  preparedPayloadHash := "prepared"
  expectedHeads := segmentHeads
  stateDelta := state
  stateDeltaRef := "segment:segment_1:state"
  stateDeltaHash := "state"
  domainDelta := .agentComplete
  domainDeltaRef := "segment:segment_1:domain"
  domainDeltaHash := "domain"
  payloadHash := "payload"
  deliveryGenerationBounds := firstGeneration_bounds
  fencingTokenBound := leastVersion_bound

end SupportGuard
