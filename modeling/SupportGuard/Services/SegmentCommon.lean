import SupportGuard.Contracts.Finalizer

/-! # The restart gate of a segment

`services/segment_common.py` allows a segment without effect to start again when
its rebuilt payload differs from the persisted one only in the versions of the
ticket, run and job it owns. The decision reads the mismatch paths; here it is
traced back to the payloads. -/

namespace SupportGuard

open Foundation FinalizerMismatch

/-! ## The gate -/

def versionsPath : String := "expected_heads.expected_domain_resource_versions"

def versionsPrefix : String := versionsPath ++ "."

/-- `key.split(":", 1)[0] in {"ticket", "run", "job"}`. -/
def ownKind (key : List Char) : Bool :=
  [['t', 'i', 'c', 'k', 'e', 't'], ['r', 'u', 'n'], ['j', 'o', 'b']].contains
    (key.takeWhile (· ≠ ':'))

def restartablePreEffectHeadPaths (paths : List String) : Bool :=
  !paths.isEmpty && paths.all fun path =>
    versionsPrefix.toList.isPrefixOf path.toList &&
      ownKind (path.toList.drop versionsPrefix.toList.length)

/-- The spelling of an own head: a ticket, a run or a job by name. -/
def ownHead (key : String) : Bool :=
  ['t', 'i', 'c', 'k', 'e', 't', ':'].isPrefixOf key.toList ||
    ['r', 'u', 'n', ':'].isPrefixOf key.toList ||
    ['j', 'o', 'b', ':'].isPrefixOf key.toList

abbrev FinalizerPayloadV2.versions (payload : FinalizerPayloadV2) : ResourceVersions :=
  payload.expectedHeads.expectedDomainResourceVersions

/-- A payload without its own heads. -/
def FinalizerPayloadV2.withoutOwnHeads (payload : FinalizerPayloadV2) :
    FinalizerPayloadV2 :=
  { payload with
    expectedHeads :=
      { payload.expectedHeads with
        expectedDomainResourceVersions :=
          { entries := payload.expectedHeads.expectedDomainResourceVersions.entries.filter
              fun entry => !ownHead entry.1
            uniqueKeys := List.Nodup.sublist
              (List.filter_sublist.map Prod.fst)
              payload.expectedHeads.expectedDomainResourceVersions.uniqueKeys } } }

/-! ## The parts of a payload around its versions

Members are compared in key order, so the versions divide a payload in the members
compared before them and the members compared after them. -/

structure SameBeforeVersions (persisted rebuilt : FinalizerPayloadV2) : Prop where
  deliveryGeneration : persisted.deliveryGeneration = rebuilt.deliveryGeneration
  domainDelta : persisted.domainDelta = rebuilt.domainDelta
  domainDeltaHash : persisted.domainDeltaHash = rebuilt.domainDeltaHash
  domainDeltaRef : persisted.domainDeltaRef = rebuilt.domainDeltaRef
  budgetLedgerHead : persisted.expectedHeads.expectedBudgetLedgerHead =
    rebuilt.expectedHeads.expectedBudgetLedgerHead
  capabilityLedgerHead : persisted.expectedHeads.expectedCapabilityLedgerHead =
    rebuilt.expectedHeads.expectedCapabilityLedgerHead
  contextLedgerHash : persisted.expectedHeads.expectedContextLedgerHash =
    rebuilt.expectedHeads.expectedContextLedgerHash
  contextSnapshotHash : persisted.expectedHeads.expectedContextSnapshotHash =
    rebuilt.expectedHeads.expectedContextSnapshotHash

/-- The members compared after the versions, with the states related by `states`. -/
structure SameAfterVersions (states : Json → Json → Prop)
    (persisted rebuilt : FinalizerPayloadV2) : Prop where
  markerStatusVersion : persisted.expectedHeads.expectedMarkerStatusVersion =
    rebuilt.expectedHeads.expectedMarkerStatusVersion
  proposalLedgerHead : persisted.expectedHeads.expectedProposalLedgerHead =
    rebuilt.expectedHeads.expectedProposalLedgerHead
  runStatus : persisted.expectedHeads.expectedRunStatus =
    rebuilt.expectedHeads.expectedRunStatus
  runStatusVersion : persisted.expectedHeads.expectedRunStatusVersion =
    rebuilt.expectedHeads.expectedRunStatusVersion
  ticketEventHash : persisted.expectedHeads.expectedTicketEventHash =
    rebuilt.expectedHeads.expectedTicketEventHash
  ticketHeadEventId : persisted.expectedHeads.expectedTicketHeadEventId =
    rebuilt.expectedHeads.expectedTicketHeadEventId
  ticketSequence : persisted.expectedHeads.expectedTicketSequence =
    rebuilt.expectedHeads.expectedTicketSequence
  toolLedgerHead : persisted.expectedHeads.expectedToolLedgerHead =
    rebuilt.expectedHeads.expectedToolLedgerHead
  finalCheckpointHash : persisted.expectedHeads.finalCheckpointHash =
    rebuilt.expectedHeads.finalCheckpointHash
  finalCheckpointId : persisted.expectedHeads.finalCheckpointId =
    rebuilt.expectedHeads.finalCheckpointId
  finalCheckpointVersion : persisted.expectedHeads.finalCheckpointVersion =
    rebuilt.expectedHeads.finalCheckpointVersion
  parentCheckpointHash : persisted.expectedHeads.parentCheckpointHash =
    rebuilt.expectedHeads.parentCheckpointHash
  parentCheckpointId : persisted.expectedHeads.parentCheckpointId =
    rebuilt.expectedHeads.parentCheckpointId
  parentCheckpointVersion : persisted.expectedHeads.parentCheckpointVersion =
    rebuilt.expectedHeads.parentCheckpointVersion
  fencingToken : persisted.fencingToken = rebuilt.fencingToken
  jobId : persisted.jobId = rebuilt.jobId
  markerId : persisted.markerId = rebuilt.markerId
  parentSegmentId : persisted.parentSegmentId = rebuilt.parentSegmentId
  preparedPayloadHash : persisted.preparedPayloadHash = rebuilt.preparedPayloadHash
  runId : persisted.runId = rebuilt.runId
  segmentId : persisted.segmentId = rebuilt.segmentId
  segmentKind : persisted.segmentKind = rebuilt.segmentKind
  state : states (.object persisted.stateDelta.state) (.object rebuilt.stateDelta.state)
  stateDeltaHash : persisted.stateDeltaHash = rebuilt.stateDeltaHash
  stateDeltaRef : persisted.stateDeltaRef = rebuilt.stateDeltaRef
  tenantId : persisted.tenantId = rebuilt.tenantId
  ticketId : persisted.ticketId = rebuilt.ticketId

/-! ## The versions -/

section Versions

variable (persisted rebuilt : ResourceVersions)

/-- The resources whose versions differ, in key order. -/
def differingKeys : List String :=
  (sortedKeys persisted.dump rebuilt.dump).filter fun key =>
    persisted.entries.lookup key ≠ rebuilt.entries.lookup key

def oneSided (key : String) : Bool :=
  (persisted.entries.lookup key).isSome ≠ (rebuilt.entries.lookup key).isSome

/-- The first 32 differing keys and, unless the last of them is on one side only, the
first later one that is. -/
def reportedKeys : List String :=
  let first := (differingKeys persisted rebuilt).take maxPaths
  if first.getLast?.any (oneSided persisted rebuilt) then first
  else first ++ (((differingKeys persisted rebuilt).drop maxPaths).find?
    (oneSided persisted rebuilt)).toList

end Versions

/-- The gate opens over a difference it was not meant to pass. -/
structure HidesDifference (persisted rebuilt : FinalizerPayloadV2) : Prop where
  before : SameBeforeVersions persisted rebuilt
  differing : differingKeys persisted.versions
    rebuilt.versions ≠ []
  reported : ∀ key ∈ reportedKeys persisted.versions
    rebuilt.versions, ownKind key.toList = true
  after : maxPaths ≤ (differingKeys persisted.versions
      rebuilt.versions).length ∨
    SameAfterVersions Agrees persisted rebuilt
  hidden : (∃ key ∈ differingKeys persisted.versions
      rebuilt.versions, ownHead key = false) ∨
    ¬SameAfterVersions Json.Identical persisted rebuilt

/-! ## The reported versions -/

section Reported

variable {persisted rebuilt : ResourceVersions}

theorem ResourceVersions.dump_lookup (versions : ResourceVersions) (key : String) :
    versions.dump.lookup key = (versions.entries.lookup key).map Json.integer := by
  unfold ResourceVersions.dump
  induction versions.entries with
  | nil => rfl
  | cons entry rest induction =>
      rw [List.map_cons, List.lookup_cons, List.lookup_cons]
      split
      · rfl
      · exact induction

/-- The keys the loop records among the differing ones, with room for `room` more. -/
def recordedKeys (oneSided : String → Bool) : Nat → List String → List String
  | _, [] => []
  | 0, key :: rest => if oneSided key then [key] else recordedKeys oneSided 0 rest
  | room + 1, key :: rest =>
      if oneSided key && room = 0 then [key] else key :: recordedKeys oneSided room rest

theorem recordedKeys_full (oneSided : String → Bool) (keys : List String) :
    recordedKeys oneSided 0 keys = (keys.find? oneSided).toList := by
  induction keys with
  | nil => rfl
  | cons key rest induction =>
      rw [recordedKeys, List.find?_cons]
      split
      · next found => simp [found]
      · next absent => simpa [absent] using induction

theorem recordedKeys_eq (oneSided : String → Bool) (room : Nat) (keys : List String) :
    recordedKeys oneSided (room + 1) keys =
      if (keys.take (room + 1)).getLast?.any oneSided then keys.take (room + 1)
      else keys.take (room + 1) ++ ((keys.drop (room + 1)).find? oneSided).toList := by
  induction room generalizing keys with
  | zero =>
      cases keys with
      | nil => rfl
      | cons key rest =>
          rw [recordedKeys, recordedKeys_full]
          by_cases last : oneSided key = true <;> simp [last]
  | succ room induction =>
      cases keys with
      | nil => rfl
      | cons key rest =>
          rw [recordedKeys, induction]
          cases rest with
          | nil => simp
          | cons next rest =>
              simp only [List.take_succ_cons, List.getLast?_cons_cons, List.drop_succ_cons,
                Nat.add_one_ne_zero, decide_false, Bool.and_false, Bool.false_eq_true,
                if_false]
              split <;> rfl

theorem recordedKeys_length_iff (oneSided : String → Bool) (room : Nat)
    (keys : List String) :
    room + 1 ≤ (recordedKeys oneSided (room + 1) keys).length ↔
      room + 1 ≤ keys.length := by
  rw [recordedKeys_eq]
  by_cases short : keys.length < room + 1
  · have whole : keys.take (room + 1) = keys := List.take_of_length_le short.le
    have nothing : keys.drop (room + 1) = [] := List.drop_of_length_le short.le
    rw [whole, nothing, List.find?_nil, Option.toList_none, List.append_nil, ite_self]
  · have long : room + 1 ≤ keys.length := not_lt.mp short
    have length : (keys.take (room + 1)).length = room + 1 := List.length_take_of_le long
    refine iff_of_true ?_ long
    split
    · exact length.ge
    · rw [List.length_append, length]
      exact Nat.le_add_right _ _

theorem lookup_cases_versions (key : String)
    (present : key ∈ sortedKeys persisted.dump rebuilt.dump) :
    oneSided persisted rebuilt key = true ∧
        persisted.entries.lookup key ≠ rebuilt.entries.lookup key ∧
        (persisted.dump.lookup key = none ∨ rebuilt.dump.lookup key = none) ∨
      ∃ version other, oneSided persisted rebuilt key = false ∧
        persisted.entries.lookup key = some version ∧
        rebuilt.entries.lookup key = some other := by
  rw [mem_sortedKeys, ← Json.lookup_isSome_iff, ← Json.lookup_isSome_iff,
    ResourceVersions.dump_lookup, ResourceVersions.dump_lookup] at present
  rw [oneSided, ResourceVersions.dump_lookup, ResourceVersions.dump_lookup]
  generalize persisted.entries.lookup key = version at present ⊢
  generalize rebuilt.entries.lookup key = other at present ⊢
  cases version <;> cases other <;> simp_all

theorem compareKeys_versions : ∀ (keys : List String) (mismatches : Paths),
    (∀ key ∈ keys, key ∈ sortedKeys persisted.dump rebuilt.dump) →
    compareKeys (comparisons persisted.dump) rebuilt.dump versionsPath keys mismatches =
      mismatches ++ (recordedKeys (oneSided persisted rebuilt)
        (maxPaths - mismatches.length) (keys.filter fun key =>
          persisted.entries.lookup key ≠ rebuilt.entries.lookup key)).map
        (childPath versionsPath)
  | [], mismatches, _ => by simp [compareKeys, recordedKeys]
  | key :: keys, mismatches, present => by
      have following := fun mismatches => compareKeys_versions keys mismatches
        fun other member => present other (List.mem_cons_of_mem key member)
      rcases lookup_cases_versions key (present key List.mem_cons_self) with
        ⟨lone, differs, absent⟩ | ⟨version, other, paired, found, otherFound⟩
      · rw [compareKeys_absent versionsPath keys mismatches absent, following,
          List.filter_cons_of_pos (by simpa using differs), List.length_append,
          List.length_singleton]
        rcases space : maxPaths - mismatches.length with _ | room
        · rw [if_pos (by omega), recordedKeys, if_pos lone]
          rfl
        · have left : maxPaths - (mismatches.length + 1) = room := by omega
          rw [recordedKeys, lone, Bool.true_and, left]
          by_cases last : room = 0
          · rw [if_pos (by omega), if_pos (by simpa using last)]
            rfl
          · rw [if_neg (by omega), if_neg (by simpa using last), List.map_cons,
              List.append_assoc]
            rfl
      · rw [compareKeys_present versionsPath keys mismatches
          (by rw [ResourceVersions.dump_lookup, found]; rfl)
          (by rw [ResourceVersions.dump_lookup, otherFound]; rfl), following,
          FinalizerMismatch.compare, compareScalar]
        by_cases equal : version = other
        · rw [List.filter_cons_of_neg (by simp [found, otherFound, equal])]
          simp [scalarEqual, equal]
        · rw [List.filter_cons_of_pos (by simpa [found, otherFound] using equal)]
          rcases space : maxPaths - mismatches.length with _ | room
          · rw [if_pos (by omega), space, recordedKeys, paired]
            simp
          · rw [if_neg (by omega)]
            have unequal : scalarEqual (.integer version) (.integer other) = false := by
              simpa [scalarEqual] using equal
            have left : maxPaths - (mismatches.length + 1) = room := by omega
            rw [unequal, recordedKeys, paired]
            simp [left, childPath, versionsPath]

theorem recordedKeys_maxPaths :
    recordedKeys (oneSided persisted rebuilt) maxPaths (differingKeys persisted rebuilt) =
      reportedKeys persisted rebuilt :=
  recordedKeys_eq _ 31 _

theorem compare_versions :
    FinalizerMismatch.compare (.object persisted.dump) (.object rebuilt.dump)
        versionsPath [] =
      (reportedKeys persisted rebuilt).map (childPath versionsPath) := by
  rw [FinalizerMismatch.compare, if_neg (by decide),
    compareKeys_versions _ _ fun _ member => member, List.nil_append, List.length_nil,
    Nat.sub_zero, ← recordedKeys_maxPaths]
  rfl

theorem reportedKeys_length_iff :
    maxPaths ≤ (reportedKeys persisted rebuilt).length ↔
      maxPaths ≤ (differingKeys persisted rebuilt).length := by
  rw [← recordedKeys_maxPaths]
  exact recordedKeys_length_iff _ 31 _

theorem reportedKeys_eq_nil_iff :
    reportedKeys persisted rebuilt = [] ↔ differingKeys persisted rebuilt = [] := by
  rw [← recordedKeys_maxPaths, maxPaths]
  cases differingKeys persisted rebuilt with
  | nil => simp [recordedKeys]
  | cons key rest =>
      refine iff_of_false ?_ (List.cons_ne_nil _ _)
      rw [recordedKeys]
      split <;> exact List.cons_ne_nil _ _

end Reported

/-! ## The other members -/

theorem payloadKeys_before : payloadKeys.filter (· < "expected_heads") =
    ["canonicalization_version", "delivery_generation", "domain_delta",
      "domain_delta_ref", "domain_delta_hash"] := by
  decide +kernel

theorem headKeys_before : headKeys.filter (· < "expected_domain_resource_versions") =
    ["expected_capability_ledger_head", "expected_budget_ledger_head",
      "expected_context_snapshot_hash", "expected_context_ledger_hash"] := by
  decide +kernel

theorem headKeys_after : headKeys.filter ("expected_domain_resource_versions" < ·) =
    ["expected_ticket_head_event_id", "expected_ticket_sequence",
      "expected_ticket_event_hash", "expected_run_status",
      "expected_run_status_version", "parent_checkpoint_id", "parent_checkpoint_hash",
      "parent_checkpoint_version", "final_checkpoint_id", "final_checkpoint_hash",
      "final_checkpoint_version", "expected_marker_status",
      "expected_marker_status_version", "expected_tool_ledger_head",
      "expected_proposal_ledger_head"] := by
  decide +kernel

theorem payloadKeys_after : payloadKeys.filter ("expected_heads" < ·) =
    ["schema_version", "tenant_id", "ticket_id", "run_id", "job_id", "segment_id",
      "fencing_token", "parent_segment_id", "marker_id", "segment_kind",
      "prepared_payload_hash", "state_delta", "state_delta_ref",
      "state_delta_hash"] := by
  decide +kernel

/-- A path outside the versions. -/
def Outside (path : String) : Prop :=
  ¬Under versionsPrefix path

theorem outside_of_under {root path : String} (under : Under root path)
    (apart : ¬Under root versionsPrefix ∧ ¬Under versionsPrefix root) : Outside path := by
  intro inside
  rcases List.prefix_or_prefix_of_prefix under inside with shorter | longer
  · exact apart.1 shorter
  · exact apart.2 longer

theorem members_report_outside {left right : List (String × Json)} (path : String)
    (leftUnique : Json.MembersUniqueKeys left) (rightUnique : Json.MembersUniqueKeys right)
    (sameKeys : left.map Prod.fst = right.map Prod.fst) (test : String → Bool)
    (apart : ∀ key ∈ (left.map Prod.fst).filter test,
      ¬Under (childPath path key) versionsPrefix ∧
        ¬Under versionsPrefix (childPath path key)) :
    Reports
      (fun mismatches => ((sortedKeys left right).filter test).foldl
        (fun paths key => compareAt left right path key paths) mismatches)
      (∀ key ∈ (left.map Prod.fst).filter test, AgreesAt left right key) Outside := by
  have member {key : String} : key ∈ (sortedKeys left right).filter test ↔
      key ∈ (left.map Prod.fst).filter test := by
    rw [List.mem_filter, List.mem_filter, mem_sortedKeys, ← sameKeys, or_self]
  have folded := Reports.foldl ((sortedKeys left right).filter test) fun key present =>
    (compareAt_reports path leftUnique rightUnique
      ⟨(List.mem_filter.mp (member.mp present)).1,
        sameKeys ▸ (List.mem_filter.mp (member.mp present)).1⟩).mono
      fun _ under => outside_of_under under (apart key (member.mp present))
  simp only [member] at folded
  exact folded

/-! What the members compared before and after the versions come to. -/

theorem ApprovingDecision.text_inj {left right : ApprovingDecision} :
    left.text = right.text ↔ left = right := by
  cases left <;> cases right <;> decide

theorem DecliningDecision.text_inj {left right : DecliningDecision} :
    left.text = right.text ↔ left = right := by
  cases left <;> cases right <;> decide

theorem ExpectedApprovalStatus.text_inj {left right : ExpectedApprovalStatus} :
    left.text = right.text ↔ left = right := by
  cases left <;> cases right <;> decide

theorem DomainOutcomeReason.text_inj {left right : DomainOutcomeReason} :
    left.text = right.text ↔ left = right := by
  cases left <;> cases right <;> decide

theorem SegmentKind.text_inj {left right : SegmentKind} :
    left.text = right.text ↔ left = right := by
  cases left <;> cases right <;> decide

theorem optionalPair_inj {left right : Option (String × String)} :
    left.map Prod.fst = right.map Prod.fst ∧ left.map Prod.snd = right.map Prod.snd ↔
      left = right := by
  cases left <;> cases right <;> simp [Prod.ext_iff]

section Members

variable {scalar : Json → Json → Prop} (exact : Json.Exact scalar)

include exact

theorem related_domainDelta_iff (left right : DomainDeltaV2) :
    Json.Related scalar (.object left.dump) (.object right.dump) ↔ left = right := by
  cases left <;> cases right <;>
    simp [DomainDeltaV2.dump, Json.Related, Json.MembersRelated, List.lookup_cons,
      exact.string, exact.related_optionalText,
      ApprovingDecision.text_inj, DecliningDecision.text_inj,
      ExpectedApprovalStatus.text_inj, DomainOutcomeReason.text_inj, optionalPair_inj]

theorem related_payload_before_iff {persisted rebuilt : FinalizerPayloadV2} :
    (∀ key ∈ payloadKeys.filter (· < "expected_heads"),
        Json.RelatedAt scalar persisted.dump rebuilt.dump key) ↔
      persisted.deliveryGeneration = rebuilt.deliveryGeneration ∧
        persisted.domainDelta = rebuilt.domainDelta ∧
        persisted.domainDeltaRef = rebuilt.domainDeltaRef ∧
        persisted.domainDeltaHash = rebuilt.domainDeltaHash := by
  rw [payloadKeys_before]
  simp [Json.RelatedAt, FinalizerPayloadV2.dump, List.lookup_cons, exact.related_integer,
    exact.related_string, related_domainDelta_iff exact]

theorem related_heads_before_iff {persisted rebuilt : FinalizerHeadsV2} :
    (∀ key ∈ headKeys.filter (· < "expected_domain_resource_versions"),
        Json.RelatedAt scalar persisted.dump rebuilt.dump key) ↔
      persisted.expectedCapabilityLedgerHead = rebuilt.expectedCapabilityLedgerHead ∧
        persisted.expectedBudgetLedgerHead = rebuilt.expectedBudgetLedgerHead ∧
        persisted.expectedContextSnapshotHash = rebuilt.expectedContextSnapshotHash ∧
        persisted.expectedContextLedgerHash = rebuilt.expectedContextLedgerHash := by
  rw [headKeys_before]
  simp [Json.RelatedAt, FinalizerHeadsV2.dump, List.lookup_cons, exact.related_string]

theorem related_heads_after_iff {persisted rebuilt : FinalizerHeadsV2} :
    (∀ key ∈ headKeys.filter ("expected_domain_resource_versions" < ·),
        Json.RelatedAt scalar persisted.dump rebuilt.dump key) ↔
      persisted.expectedTicketHeadEventId = rebuilt.expectedTicketHeadEventId ∧
        persisted.expectedTicketSequence = rebuilt.expectedTicketSequence ∧
        persisted.expectedTicketEventHash = rebuilt.expectedTicketEventHash ∧
        persisted.expectedRunStatus = rebuilt.expectedRunStatus ∧
        persisted.expectedRunStatusVersion = rebuilt.expectedRunStatusVersion ∧
        persisted.parentCheckpointId = rebuilt.parentCheckpointId ∧
        persisted.parentCheckpointHash = rebuilt.parentCheckpointHash ∧
        persisted.parentCheckpointVersion = rebuilt.parentCheckpointVersion ∧
        persisted.finalCheckpointId = rebuilt.finalCheckpointId ∧
        persisted.finalCheckpointHash = rebuilt.finalCheckpointHash ∧
        persisted.finalCheckpointVersion = rebuilt.finalCheckpointVersion ∧
        persisted.expectedMarkerStatusVersion = rebuilt.expectedMarkerStatusVersion ∧
        persisted.expectedToolLedgerHead = rebuilt.expectedToolLedgerHead ∧
        persisted.expectedProposalLedgerHead = rebuilt.expectedProposalLedgerHead := by
  rw [headKeys_after]
  simp [Json.RelatedAt, FinalizerHeadsV2.dump, List.lookup_cons, exact.related_string,
    exact.related_integer, exact.related_optionalText]

theorem related_payload_after_iff {persisted rebuilt : FinalizerPayloadV2} :
    (∀ key ∈ payloadKeys.filter ("expected_heads" < ·),
        Json.RelatedAt scalar persisted.dump rebuilt.dump key) ↔
      persisted.tenantId = rebuilt.tenantId ∧ persisted.ticketId = rebuilt.ticketId ∧
        persisted.runId = rebuilt.runId ∧ persisted.jobId = rebuilt.jobId ∧
        persisted.segmentId = rebuilt.segmentId ∧
        persisted.fencingToken = rebuilt.fencingToken ∧
        persisted.parentSegmentId = rebuilt.parentSegmentId ∧
        persisted.markerId = rebuilt.markerId ∧
        persisted.segmentKind = rebuilt.segmentKind ∧
        persisted.preparedPayloadHash = rebuilt.preparedPayloadHash ∧
        Json.Related scalar (.object persisted.stateDelta.state)
          (.object rebuilt.stateDelta.state) ∧
        persisted.stateDeltaRef = rebuilt.stateDeltaRef ∧
        persisted.stateDeltaHash = rebuilt.stateDeltaHash := by
  have state : Json.Related scalar
      (.object [("state", .object persisted.stateDelta.state)])
      (.object [("state", .object rebuilt.stateDelta.state)]) ↔
        Json.Related scalar (.object persisted.stateDelta.state)
          (.object rebuilt.stateDelta.state) := by
    rw [Json.Related, Json.MembersRelated, Json.MembersRelated]
    simp
  rw [payloadKeys_after]
  simp [Json.RelatedAt, FinalizerPayloadV2.dump, List.lookup_cons, exact.related_string,
    exact.related_integer, exact.related_optionalText, SegmentKind.text_inj, state]

theorem related_before_iff {persisted rebuilt : FinalizerPayloadV2} :
    (∀ key ∈ payloadKeys.filter (· < "expected_heads"),
        Json.RelatedAt scalar persisted.dump rebuilt.dump key) ∧
      (∀ key ∈ headKeys.filter (· < "expected_domain_resource_versions"),
        Json.RelatedAt scalar persisted.expectedHeads.dump rebuilt.expectedHeads.dump
          key) ↔ SameBeforeVersions persisted rebuilt := by
  rw [related_payload_before_iff exact, related_heads_before_iff exact]
  constructor
  · intro same
    rcases same with ⟨⟨generation, delta, ref, hash⟩, capability, budget, snapshot, ledger⟩
    exact ⟨generation, delta, hash, ref, budget, capability, ledger, snapshot⟩
  · intro same
    exact ⟨⟨same.deliveryGeneration, same.domainDelta, same.domainDeltaRef,
      same.domainDeltaHash⟩, same.capabilityLedgerHead, same.budgetLedgerHead,
      same.contextSnapshotHash, same.contextLedgerHash⟩

theorem related_after_iff {persisted rebuilt : FinalizerPayloadV2} :
    (∀ key ∈ headKeys.filter ("expected_domain_resource_versions" < ·),
        Json.RelatedAt scalar persisted.expectedHeads.dump rebuilt.expectedHeads.dump
          key) ∧
      (∀ key ∈ payloadKeys.filter ("expected_heads" < ·),
        Json.RelatedAt scalar persisted.dump rebuilt.dump key) ↔
      SameAfterVersions (Json.Related scalar) persisted rebuilt := by
  rw [related_payload_after_iff exact, related_heads_after_iff exact]
  constructor
  · intro same
    rcases same with ⟨⟨ticketHead, ticketSequence, ticketHash, runStatus, runVersion,
      parentId, parentHash, parentVersion, finalId, finalHash, finalVersion, markerVersion,
      tool, proposal⟩, tenant, ticket, run, job, segment, fencing, parentSegment, marker,
      kind, prepared, state, stateRef, stateHash⟩
    constructor <;> assumption
  · intro same
    rcases same
    refine ⟨⟨?_, ?_, ?_, ?_, ?_, ?_, ?_, ?_, ?_, ?_, ?_, ?_, ?_, ?_⟩,
      ?_, ?_, ?_, ?_, ?_, ?_, ?_, ?_, ?_, ?_, ?_, ?_, ?_⟩ <;> assumption

end Members

/-! ## The comparison of two payloads -/

/-- The comparison of the versions stands between the comparisons of the members before
and after them. -/
theorem finalizerPayloadMismatchPaths_split (persisted rebuilt : FinalizerPayloadV2) :
    ∃ before after : Paths → Paths,
      Reports before (SameBeforeVersions persisted rebuilt) Outside ∧
      Reports after (SameAfterVersions Agrees persisted rebuilt) Outside ∧
      finalizerPayloadMismatchPaths persisted rebuilt = after (FinalizerMismatch.compare
        (.object persisted.versions.dump)
        (.object rebuilt.versions.dump)
        versionsPath (before [])) := by
  have payloadBefore := members_report_outside "" persisted.dump_uniqueKeys
    rebuilt.dump_uniqueKeys rfl (· < "expected_heads")
    (persisted.dump_keys ▸ payloadKeys_before ▸ by decide +kernel)
  have payloadAfter := members_report_outside "" persisted.dump_uniqueKeys
    rebuilt.dump_uniqueKeys rfl ("expected_heads" < ·)
    (persisted.dump_keys ▸ payloadKeys_after ▸ by decide +kernel)
  have headsBefore := members_report_outside "expected_heads"
    persisted.expectedHeads.dump_uniqueKeys.2 rebuilt.expectedHeads.dump_uniqueKeys.2 rfl
    (· < "expected_domain_resource_versions")
    (persisted.expectedHeads.dump_keys ▸ headKeys_before ▸ by decide +kernel)
  have headsAfter := members_report_outside "expected_heads"
    persisted.expectedHeads.dump_uniqueKeys.2 rebuilt.expectedHeads.dump_uniqueKeys.2 rfl
    ("expected_domain_resource_versions" < ·)
    (persisted.expectedHeads.dump_keys ▸ headKeys_after ▸ by decide +kernel)
  have before := payloadBefore.comp headsBefore
  have after := headsAfter.comp payloadAfter
  refine ⟨_, _, before.congr (related_before_iff exact_scalarEqual),
    after.congr (related_after_iff exact_scalarEqual), ?_⟩
  have heads (mismatches : Paths) :
      compareAt persisted.dump rebuilt.dump "" "expected_heads" mismatches =
        FinalizerMismatch.compare (.object persisted.expectedHeads.dump)
          (.object rebuilt.expectedHeads.dump) "expected_heads" mismatches := rfl
  have versions (mismatches : Paths) :
      compareAt persisted.expectedHeads.dump rebuilt.expectedHeads.dump "expected_heads"
          "expected_domain_resource_versions" mismatches =
        FinalizerMismatch.compare
          (.object persisted.versions.dump)
          (.object rebuilt.versions.dump)
          versionsPath mismatches := rfl
  rw [finalizerPayloadMismatchPaths, FinalizerPayloadV2.body, FinalizerPayloadV2.body,
    compare_object_split "" "expected_heads" persisted.dump_uniqueKeys
      rebuilt.dump_uniqueKeys rfl (by rw [persisted.dump_keys]; decide +kernel), heads,
    compare_object_split "expected_heads" "expected_domain_resource_versions"
      persisted.expectedHeads.dump_uniqueKeys.2 rebuilt.expectedHeads.dump_uniqueKeys.2 rfl
      (by rw [FinalizerHeadsV2.dump_keys]; decide +kernel), versions]

/-! ## The decision of the gate -/

theorem childPath_versionsPath (key : String) :
    (childPath versionsPath key).toList = versionsPrefix.toList ++ key.toList := by
  rw [childPath, if_neg (by decide), String.toList_append]
  rfl

theorem inside_of_restartable {paths : Paths}
    (restartable : restartablePreEffectHeadPaths paths = true) {path : String}
    (member : path ∈ paths) : ¬Outside path := by
  rw [restartablePreEffectHeadPaths, Bool.and_eq_true, List.all_eq_true] at restartable
  have inside := restartable.2 path member
  rw [Bool.and_eq_true, List.isPrefixOf_iff_prefix] at inside
  exact not_not.mpr inside.1

theorem eq_nil_of_outside {paths part : Paths}
    (restartable : restartablePreEffectHeadPaths paths = true)
    (contained : ∀ path ∈ part, path ∈ paths) (outside : ∀ path ∈ part, Outside path) :
    part = [] := by
  rw [List.eq_nil_iff_forall_not_mem]
  intro path member
  exact inside_of_restartable restartable (contained path member) (outside path member)

theorem restartable_versions_iff (keys : List String) :
    restartablePreEffectHeadPaths (keys.map (childPath versionsPath)) = true ↔
      keys ≠ [] ∧ ∀ key ∈ keys, ownKind key.toList = true := by
  have prefixed (key : String) :
      versionsPrefix.toList.isPrefixOf (childPath versionsPath key).toList = true := by
    rw [childPath_versionsPath, List.isPrefixOf_iff_prefix]
    exact List.prefix_append _ _
  have stripped (key : String) :
      (childPath versionsPath key).toList.drop versionsPrefix.toList.length = key.toList := by
    rw [childPath_versionsPath, List.drop_left]
  simp only [restartablePreEffectHeadPaths, Bool.and_eq_true, List.all_map,
    List.all_eq_true, Function.comp_apply, prefixed, stripped, true_and]
  simp

/-- When the gate opens. -/
theorem restartable_iff (persisted rebuilt : FinalizerPayloadV2) :
    restartablePreEffectHeadPaths (finalizerPayloadMismatchPaths persisted rebuilt) = true ↔
      SameBeforeVersions persisted rebuilt ∧
      differingKeys persisted.versions
        rebuilt.versions ≠ [] ∧
      (∀ key ∈ reportedKeys persisted.versions
        rebuilt.versions, ownKind key.toList = true) ∧
      (maxPaths ≤ (differingKeys persisted.versions
          rebuilt.versions).length ∨
        SameAfterVersions Agrees persisted rebuilt) := by
  rcases finalizerPayloadMismatchPaths_split persisted rebuilt with
    ⟨before, after, beforeReports, afterReports, split⟩
  have versionReports := compare_reports versionsPath
    persisted.versions.dump_uniqueKeys
    rebuilt.versions.dump_uniqueKeys
  rcases beforeReports [] with ⟨first, firstExtended, _, firstExact, firstKinds⟩
  rw [List.nil_append] at firstExtended
  rcases versionReports first with ⟨middle, middleExtended, _⟩
  rcases afterReports (first ++ middle) with
    ⟨last, lastExtended, lastFull, lastExact, lastKinds⟩
  rw [split, firstExtended, middleExtended, lastExtended]
  have reported (empty : first = []) : middle =
      (reportedKeys persisted.versions
        rebuilt.versions).map
        (childPath versionsPath) := by
    rw [empty, List.nil_append] at middleExtended
    rw [← middleExtended, compare_versions]
  rw [← firstExact (by decide)]
  by_cases empty : first = []
  · have versions := reported empty
    subst empty
    subst versions
    rw [List.nil_append, List.length_map] at lastFull lastExact
    rw [← reportedKeys_length_iff, ne_eq, ← reportedKeys_eq_nil_iff, List.nil_append]
    constructor
    · intro restartable
      have nothing := eq_nil_of_outside restartable
        (fun path member => List.mem_append_right _ member) lastKinds
      rw [nothing, List.append_nil, restartable_versions_iff] at restartable
      refine ⟨rfl, restartable.1, restartable.2, ?_⟩
      rcases Nat.lt_or_ge (reportedKeys
        persisted.versions
        rebuilt.versions).length maxPaths with
        below | limit
      · exact Or.inr ((lastExact below).mp nothing)
      · exact Or.inl limit
    · intro opens
      rcases opens with ⟨_, nonempty, kinds, limit⟩
      have nothing : last = [] := by
        rcases Nat.lt_or_ge (reportedKeys
          persisted.versions
          rebuilt.versions).length maxPaths with
          below | full
        · rcases limit with limit | same
          · exact absurd limit (not_le.mpr below)
          · exact (lastExact below).mpr same
        · exact lastFull full
      rw [nothing, List.append_nil, restartable_versions_iff]
      exact ⟨nonempty, kinds⟩
  · refine iff_of_false ?_ fun opens => empty opens.1
    intro restartable
    exact empty (eq_nil_of_outside restartable
      (fun path member => List.mem_append_left _ (List.mem_append_left _ member))
      firstKinds)

/-! ## What the gate lets through -/

theorem ResourceVersions.lookup_filter (entries : List (String × Int))
    (keep : String → Bool) (key : String) :
    (entries.filter fun entry => keep entry.1).lookup key =
      if keep key then entries.lookup key else none := by
  induction entries with
  | nil => simp
  | cons entry rest induction =>
      rcases entry with ⟨name, version⟩
      rw [List.filter_cons, List.lookup_cons]
      by_cases equal : key = name
      · subst equal
        by_cases kept : keep key = true
        · simp [kept]
        · rw [if_neg kept, induction, if_neg kept, if_neg kept]
      · rw [beq_false_of_ne equal]
        by_cases kept : keep name = true
        · rw [if_pos kept, List.lookup_cons, beq_false_of_ne equal, induction]
        · rw [if_neg kept, induction]

theorem mem_differingKeys {persisted rebuilt : ResourceVersions} {key : String} :
    key ∈ differingKeys persisted rebuilt ↔
      persisted.entries.lookup key ≠ rebuilt.entries.lookup key := by
  rw [differingKeys, List.mem_filter, mem_sortedKeys, ← Json.lookup_isSome_iff,
    ← Json.lookup_isSome_iff, ResourceVersions.dump_lookup, ResourceVersions.dump_lookup,
    Option.isSome_map, Option.isSome_map]
  cases persisted.entries.lookup key <;> cases rebuilt.entries.lookup key <;> simp

theorem rel_integer_iff (left right : Option Int) :
    Option.Rel (Json.Related Eq) (left.map Json.integer) (right.map Json.integer) ↔
      left = right := by
  cases left <;> cases right <;> simp [Json.Related]

theorem identical_versions_iff (persisted rebuilt : FinalizerPayloadV2) :
    Json.Related Eq (.object persisted.withoutOwnHeads.versions.dump)
        (.object rebuilt.withoutOwnHeads.versions.dump) ↔
      ∀ key ∈ differingKeys persisted.versions rebuilt.versions, ownHead key = true := by
  rw [Json.related_object_iff Eq (ResourceVersions.dump_uniqueKeys _).1]
  apply forall_congr'
  intro key
  rw [ResourceVersions.dump_lookup, ResourceVersions.dump_lookup, rel_integer_iff,
    mem_differingKeys]
  show (persisted.versions.entries.filter fun entry => !ownHead entry.1).lookup key =
    (rebuilt.versions.entries.filter fun entry => !ownHead entry.1).lookup key ↔ _
  rw [ResourceVersions.lookup_filter _ fun name => !ownHead name,
    ResourceVersions.lookup_filter _ fun name => !ownHead name]
  by_cases own : ownHead key = true <;> simp [own]

theorem sameBeforeVersions_withoutOwnHeads {persisted rebuilt : FinalizerPayloadV2} :
    SameBeforeVersions persisted.withoutOwnHeads rebuilt.withoutOwnHeads ↔
      SameBeforeVersions persisted rebuilt := by
  constructor <;> intro same <;> rcases same <;> constructor <;> assumption

theorem sameAfterVersions_withoutOwnHeads {states : Json → Json → Prop}
    {persisted rebuilt : FinalizerPayloadV2} :
    SameAfterVersions states persisted.withoutOwnHeads rebuilt.withoutOwnHeads ↔
      SameAfterVersions states persisted rebuilt := by
  constructor <;> intro same <;> rcases same <;> constructor <;> assumption

theorem related_members_iff {left right : List (String × Json)} {keys : List String}
    (unique : keys.Nodup) (leftKeys : left.map Prod.fst = keys)
    (rightKeys : right.map Prod.fst = keys) :
    Json.Related Eq (.object left) (.object right) ↔
      ∀ key ∈ keys, Json.RelatedAt Eq left right key := by
  rw [Json.related_object_iff_relatedAt Eq (leftKeys ▸ unique), leftKeys, rightKeys]
  simp only [or_self]

theorem identical_iff (persisted rebuilt : FinalizerPayloadV2) :
    persisted.body.Identical rebuilt.body ↔
      SameBeforeVersions persisted rebuilt ∧
      Json.Related Eq (.object persisted.versions.dump) (.object rebuilt.versions.dump) ∧
      SameAfterVersions Json.Identical persisted rebuilt := by
  have heads : Json.RelatedAt Eq persisted.dump rebuilt.dump "expected_heads" ↔
      Json.Related Eq (.object persisted.expectedHeads.dump)
        (.object rebuilt.expectedHeads.dump) := by
    simp [Json.RelatedAt, FinalizerPayloadV2.dump, List.lookup_cons]
  have versions : Json.RelatedAt Eq persisted.expectedHeads.dump
      rebuilt.expectedHeads.dump "expected_domain_resource_versions" ↔
        Json.Related Eq (.object persisted.versions.dump)
          (.object rebuilt.versions.dump) := by
    simp [Json.RelatedAt, FinalizerHeadsV2.dump, List.lookup_cons]
  rw [← related_before_iff Json.exact_eq, Json.Identical,
    ← related_after_iff Json.exact_eq, FinalizerPayloadV2.body, FinalizerPayloadV2.body,
    related_members_iff (by decide +kernel) persisted.dump_keys rebuilt.dump_keys,
    Json.forall_mem_iff_filter (by decide : "expected_heads" ∈ payloadKeys), heads,
    related_members_iff (by decide +kernel) persisted.expectedHeads.dump_keys
      rebuilt.expectedHeads.dump_keys,
    Json.forall_mem_iff_filter
      (by decide : "expected_domain_resource_versions" ∈ headKeys), versions]
  simp only [and_assoc]

/-- Apart from their own heads, two payloads are identical just when the members around
the versions are and no other version differs. -/
theorem identical_withoutOwnHeads_iff (persisted rebuilt : FinalizerPayloadV2) :
    persisted.withoutOwnHeads.body.Identical rebuilt.withoutOwnHeads.body ↔
      SameBeforeVersions persisted rebuilt ∧
      (∀ key ∈ differingKeys persisted.versions rebuilt.versions, ownHead key = true) ∧
      SameAfterVersions Json.Identical persisted rebuilt := by
  rw [identical_iff, sameBeforeVersions_withoutOwnHeads,
    sameAfterVersions_withoutOwnHeads, identical_versions_iff]

/-- The gate opens only over the own heads of a segment, unless it hides a difference. -/
theorem restartable_sound_iff (persisted rebuilt : FinalizerPayloadV2) :
    (restartablePreEffectHeadPaths (finalizerPayloadMismatchPaths persisted rebuilt) =
        true →
      persisted.withoutOwnHeads.body.Identical rebuilt.withoutOwnHeads.body) ↔
      ¬HidesDifference persisted rebuilt := by
  rw [restartable_iff, identical_withoutOwnHeads_iff]
  constructor
  · intro sound hides
    rcases sound ⟨hides.before, hides.differing, hides.reported, hides.after⟩ with
      ⟨_, own, same⟩
    rcases hides.hidden with ⟨key, member, foreign⟩ | different
    · rw [own key member] at foreign
      cases foreign
    · exact different same
  · intro shows opens
    rcases opens with ⟨before, differing, reported, after⟩
    refine ⟨before, ?_, ?_⟩
    · intro key member
      by_contra foreign
      exact shows ⟨before, differing, reported, after,
        Or.inl ⟨key, member, Bool.eq_false_iff.mpr foreign⟩⟩
    · by_contra different
      exact shows ⟨before, differing, reported, after, Or.inr different⟩

/-! Thirty-two drifted jobs fill the paths before the state is compared. -/

def driftedKeys : List String :=
  (List.range 32).map fun index => "job:" ++ toString index

theorem driftedKeys_nodup : driftedKeys.Nodup := by
  decide +kernel

theorem driftedKeys_own {key : String} (member : key ∈ driftedKeys) :
    ownKind key.toList = true := by
  rcases List.mem_map.mp member with ⟨index, _, rfl⟩
  rw [String.toList_append]
  rfl

def driftedVersions (version : Int) : ResourceVersions where
  entries := driftedKeys.map fun key => (key, version)
  uniqueKeys := by
    rw [List.map_map]
    exact (List.map_id driftedKeys).symm ▸ driftedKeys_nodup

theorem driftedVersions_lookup (version : Int) (key : String) :
    (driftedVersions version).entries.lookup key =
      if key ∈ driftedKeys then some version else none := by
  show (driftedKeys.map fun key => (key, version)).lookup key = _
  induction driftedKeys with
  | nil => rfl
  | cons head rest induction =>
      rw [List.map_cons, List.lookup_cons, induction]
      by_cases equal : key = head
      · simp [equal]
      · simp [equal, beq_false_of_ne equal]

theorem mem_differingKeys_drifted {key : String} :
    key ∈ differingKeys (driftedVersions 1) (driftedVersions 2) ↔ key ∈ driftedKeys := by
  rw [mem_differingKeys, driftedVersions_lookup, driftedVersions_lookup]
  by_cases member : key ∈ driftedKeys <;> simp [member]

theorem mem_differingKeys_of_reported {persisted rebuilt : ResourceVersions} {key : String}
    (member : key ∈ reportedKeys persisted rebuilt) :
    key ∈ differingKeys persisted rebuilt := by
  unfold reportedKeys at member
  dsimp only at member
  split at member
  · exact List.mem_of_mem_take member
  · rcases List.mem_append.mp member with early | late
    · exact List.mem_of_mem_take early
    · rw [Option.mem_toList] at late
      exact List.mem_of_mem_drop (List.mem_of_find?_eq_some late)

theorem differingKeys_drifted_length :
    maxPaths ≤ (differingKeys (driftedVersions 1) (driftedVersions 2)).length := by
  have subperm := List.subperm_of_subset driftedKeys_nodup fun key member =>
    mem_differingKeys_drifted.mpr member
  have counted : driftedKeys.length = maxPaths := by
    rw [driftedKeys, List.length_map, List.length_range, maxPaths]
  exact counted ▸ subperm.length_le

def unchangedState : StateDelta :=
  ⟨[], ⟨List.nodup_nil, trivial⟩, trivial⟩

def driftedPayload (version : Int) (stateDeltaHash : String) : FinalizerPayloadV2 :=
  { segmentPayload unchangedState with
    expectedHeads := { segmentHeads with expectedDomainResourceVersions := driftedVersions version }
    stateDeltaHash }

theorem restartable_over_changed_state :
    restartablePreEffectHeadPaths (finalizerPayloadMismatchPaths
        (driftedPayload 1 "persisted") (driftedPayload 2 "rebuilt")) = true ∧
      ¬(driftedPayload 1 "persisted").withoutOwnHeads.body.Identical
        (driftedPayload 2 "rebuilt").withoutOwnHeads.body := by
  constructor
  · rw [restartable_iff]
    refine ⟨by constructor <;> rfl, ?_, ?_, Or.inl differingKeys_drifted_length⟩
    · intro empty
      have limit := differingKeys_drifted_length
      rw [show differingKeys (driftedVersions 1) (driftedVersions 2) = [] from empty]
        at limit
      cases limit
    · intro key member
      exact driftedKeys_own
        (mem_differingKeys_drifted.mp (mem_differingKeys_of_reported member))
  · rw [identical_withoutOwnHeads_iff]
    intro same
    exact absurd same.2.2.stateDeltaHash (by decide)

end SupportGuard
