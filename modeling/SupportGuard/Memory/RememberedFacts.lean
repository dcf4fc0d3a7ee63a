import Mathlib.Data.List.Flatten
import SupportGuard.Agent.EvidenceDecision
import SupportGuard.Memory.AttemptedActions

/-! # Remembered facts

`memory/service.py`: the facts that `MemoryService.persist_summary` keeps of a run, and the
ones that `load_relevant_history` leaves active. What a session assigns to a JSON column is
stored. -/

namespace SupportGuard

open Foundation Fallible

namespace MemoryService

/-! ## Facts -/

inductive FactStatus
  | active
  | expired
  | superseded
deriving DecidableEq

/-- The policies of `FRESHNESS`, and that of the tools it does not list. -/
inductive FreshnessPolicy
  | apiUsage
  | serviceIncident
  | accountSubscription
  | billingObservation
  | observationOnly
deriving DecidableEq

namespace FreshnessPolicy

def text : FreshnessPolicy → String
  | apiUsage => "api_usage_5m"
  | serviceIncident => "service_incident_2m"
  | accountSubscription => "account_subscription_15m"
  | billingObservation => "billing_observation_only"
  | observationOnly => "observation_only"

/-- In microseconds. -/
def lifetime : FreshnessPolicy → Int
  | apiUsage => 300000000
  | serviceIncident => 120000000
  | accountSubscription => 900000000
  | billingObservation | observationOnly => 0

/-- `FRESHNESS.get(tool_name, …)`. -/
def ofTool : String → FreshnessPolicy
  | "query_api_usage" => apiUsage
  | "check_service_status" => serviceIncident
  | "query_account" | "query_subscription" => accountSubscription
  | "query_billing_record" => billingObservation
  | _ => observationOnly

end FreshnessPolicy

/-- The observation time of a fact: what the evidence says, or the time of a business read. -/
inductive ObservationTime
  | effective (value : Json)
  | read (time : Instant)

/-- A fact without its value. A time that it records as a text is the instant that
`fromisoformat` reads off that text. -/
structure MemoryFact where
  factId : String
  customerId : String
  factType : String
  sourceType : String
  sourceId : String
  observedAt : ObservationTime
  confirmedAt : Instant
  validUntil : Option Instant
  freshnessPolicy : String
  resourceVersion : Json
  documentId : Json := .null
  indexVersion : Json := .null
  locatorHash : Json := .null
  supersedesFactId : Option String := none
  status : FactStatus

/-! ## What a run leaves -/

structure SourceRef where
  sourceType : String
  sourceId : String
  observedAt : TimeValue

structure RunObservation where
  toolName : Option String
  observedAt : TimeValue
  sourceRefs : List SourceRef
  resourceVersion : Json

structure RunEvidence where
  chunkId : String
  effectiveAt : Option Json
  documentId : Json
  version : Json
  indexVersion : Json
  locatorHash : Json

/-- The state of a finished run as far as a summary keeps it. -/
structure FinishedState where
  runId : String
  ticketId : String
  terminalState : String
  answer : String
  issueType : Option String
  risk : Option String
  knowledgeChunkIds : List String
  businessSourceIds : List String
  evidence : List RunEvidence
  toolObservations : List RunObservation

/-! ## The database -/

structure MemoryRun where
  ticketId : String
  status : String
  canonicalCheckpointHash : Option String
  agentFinishReason : Option String

structure MemoryTicket where
  tenantId : String
  customerId : String
  status : String
  issueType : String
  risk : String
  finalResponse : String
  automationMode : String

structure TicketSummary where
  tenantId : String
  ticketId : String
  customerId : String
  issueType : String
  confirmedFacts : List MemoryFact
  attemptedActions : List JsonMembers
  openQuestions : List String
  sourceRefs : List (String × String)
  sourceRunId : String
  canonicalCheckpointHash : String
  eventWatermark : Nat
  freshnessAt : Instant
  updatedAt : Instant

/-- Everything beside the summaries that memory reads. `actionStates` are the action states of
the conversation of a ticket. -/
structure Surroundings (Payload : Type) where
  runs : String → Option MemoryRun
  unclosedTurns : String → Nat
  eventWatermarks : String → Option Nat
  tickets : String → Option MemoryTicket
  actionStates : String → Except AttemptedActions.MemoryRaise (List Payload)
  currentDocument : Json → Json → Json → Bool

/-- A ticket has one summary at most. -/
structure MemoryDatabase (Payload : Type) where
  surroundings : Surroundings Payload
  summaries : List TicketSummary
  distinct : (summaries.map TicketSummary.ticketId).Nodup

inductive PersistRaise
  | runMissing
  | runNotFinalized
  | unclosedTurnGroup
  | noEventWatermark
  | ticketNotFound
  | memory (raised : AttemptedActions.MemoryRaise)

/-! ## The facts of a run -/

section

variable (fromIsoformat : List Char → Option DateTime)

/-- `_as_datetime`. -/
def asDatetime (value : TimeValue) (fallback : Instant) :
    Except AttemptedActions.MemoryRaise Instant :=
  match value with
  | .datetime parsed => AttemptedActions.utcInstant parsed
  | .json (.string text) =>
      match fromIsoformat (spellOffset text).toList with
      | none => .error (.conversion .valueError)
      | some parsed => AttemptedActions.utcInstant parsed
  | .json _ => .ok fallback

def knowledgeFact (customerId : String) (now : Instant) (evidence : RunEvidence) : MemoryFact where
  factId := ""
  customerId := customerId
  factType := "knowledge_evidence"
  sourceType := "knowledge_chunk"
  sourceId := evidence.chunkId
  observedAt := match evidence.effectiveAt with
    | some value => .effective value
    | none => .read now
  confirmedAt := now
  validUntil := none
  freshnessPolicy := "versioned_knowledge"
  resourceVersion := evidence.version
  documentId := evidence.documentId
  indexVersion := evidence.indexVersion
  locatorHash := evidence.locatorHash
  status := .active

def RunObservation.tool (observation : RunObservation) : String :=
  observation.toolName.getD "query_account"

def RunObservation.policy (observation : RunObservation) : FreshnessPolicy :=
  .ofTool observation.tool

/-- The sources of an observation that become facts. -/
def usedSources (businessSourceIds : List String) (observation : RunObservation) :
    List SourceRef :=
  observation.sourceRefs.filter fun source =>
    source.sourceType ≠ "knowledge_chunk" && source.sourceId ∈ businessSourceIds

def businessFact (customerId : String) (now observed validUntil : Instant)
    (observation : RunObservation) (source : SourceRef) :
    Except AttemptedActions.MemoryRaise MemoryFact := do
  let sourceObserved ← asDatetime fromIsoformat source.observedAt observed
  .ok
    { factId := ""
      customerId
      factType := observation.tool
      sourceType := source.sourceType
      sourceId := source.sourceId
      observedAt := .read sourceObserved
      confirmedAt := now
      validUntil := some validUntil
      freshnessPolicy := observation.policy.text
      resourceVersion := observation.resourceVersion
      status := if now < validUntil then .active else .expired }

/-- `observed_at + lifetime`. -/
def expiry (observation : RunObservation) (observed : Instant) :
    Except AttemptedActions.MemoryRaise Instant :=
  match observed.add? observation.policy.lifetime with
  | some validUntil => .ok validUntil
  | none => .error (.conversion .overflowError)

def observationFacts (customerId : String) (now : Instant) (businessSourceIds : List String)
    (observation : RunObservation) : Except AttemptedActions.MemoryRaise (List MemoryFact) := do
  let observed ← asDatetime fromIsoformat observation.observedAt now
  let validUntil ← expiry observation observed
  (usedSources businessSourceIds observation).mapM
    (businessFact fromIsoformat customerId now observed validUntil observation)

/-- The facts of a run under the identities that are made for them. -/
def confirmedFacts (customerId : String) (now : Instant) (newFactId : Nat → String)
    (state : FinishedState) : Except AttemptedActions.MemoryRaise (List MemoryFact) := do
  let business ← state.toolObservations.mapM
    (observationFacts fromIsoformat customerId now state.businessSourceIds)
  let knowledge := (state.evidence.filter fun evidence =>
    evidence.chunkId ∈ state.knowledgeChunkIds).map (knowledgeFact customerId now)
  .ok ((knowledge ++ business.flatten).mapIdx fun index fact =>
    { fact with factId := newFactId index })

end

/-! ## Earlier facts -/

/-- The fact is replaced by a newer one of its kind. -/
def MemoryFact.replaceable (fact : MemoryFact) : Bool :=
  fact.factType ≠ "knowledge_evidence" && fact.factType ≠ "query_billing_record"

def MemoryFact.key (fact : MemoryFact) : String × String :=
  (fact.factType, fact.sourceId)

def replaces (current previous : MemoryFact) : Bool :=
  previous.status = .active && previous.key = current.key

/-- The column `updated_at` moves with each update of its row. -/
def TicketSummary.supersede (now : Instant) (current : MemoryFact) (summary : TicketSummary) :
    TicketSummary :=
  { summary with
    confirmedFacts := summary.confirmedFacts.map fun previous =>
      if replaces current previous then { previous with status := .superseded } else previous
    updatedAt := if summary.confirmedFacts.any (replaces current) then now
      else summary.updatedAt }

/-- One fact of the loop of `_supersede_previous`: the last fact it replaces gives it its
`supersedes_fact_id`. -/
def supersedeFact (now : Instant) (customerId : String) (current : MemoryFact)
    (summaries : List TicketSummary) : MemoryFact × List TicketSummary :=
  if current.replaceable then
    let previous := ((summaries.filter fun summary => summary.customerId = customerId).flatMap
      TicketSummary.confirmedFacts).filter (replaces current)
    ({ current with
        supersedesFactId := (previous.getLast?.map MemoryFact.factId).or current.supersedesFactId },
      summaries.map fun summary =>
        if summary.customerId = customerId then summary.supersede now current else summary)
  else (current, summaries)

/-- `_supersede_previous`. -/
def supersedePrevious (now : Instant) (customerId : String) :
    List MemoryFact → List TicketSummary → List MemoryFact × List TicketSummary
  | [], summaries => ([], summaries)
  | current :: later, summaries =>
      let (fact, replaced) := supersedeFact now customerId current summaries
      let (facts, final) := supersedePrevious now customerId later replaced
      (fact :: facts, final)

/-! ## The two operations -/

def retryableMemoryReasons : List String :=
  ["provider_failed", "tool_failed", "proposal_not_durable", "logical_degradation",
    "time_budget_exhausted"]

/-- `follow_up_questions`. -/
def followUpQuestions (terminalState : String) (finishReason : Option String)
    (automationMode : String) : List String :=
  if automationMode = "human_queue" ∧ finishReason = some "manual_takeover" then
    ["durable_human_queue"]
  else if terminalState = "needs_clarification" ∨ finishReason = some "needs_clarification" then
    ["clarification"]
  else if finishReason.any (retryableMemoryReasons.contains ·) then ["retryable_failure"]
  else []

section

variable {Payload : Type} (fromIsoformat : List Char → Option DateTime)
  (modelValidate : Payload → Except ProjectionRaise ConversationActionStateV1)

/-- The finished run with its checkpoint hash and the last event of its ticket. -/
def finalizedRun (surroundings : Surroundings Payload) (state : FinishedState) :
    Except PersistRaise (MemoryRun × String × Nat) := do
  refuseWhen (state.runId = "") .runMissing
  match surroundings.runs state.runId with
  | none => .error .runNotFinalized
  | some run =>
      match run.canonicalCheckpointHash.filter (· ≠ "") with
      | none => .error .runNotFinalized
      | some checkpoint => do
          refuseWhen (run.status ≠ "completed" ∨ run.ticketId ≠ state.ticketId) .runNotFinalized
          refuseWhen (surroundings.unclosedTurns state.runId ≠ 0) .unclosedTurnGroup
          match surroundings.eventWatermarks run.ticketId with
          | none => .error .noEventWatermark
          | some watermark => .ok (run, checkpoint, watermark)

/-- The summary already tells of this run. -/
def TicketSummary.tells (runId checkpoint : String) (watermark : Nat)
    (summary : TicketSummary) : Bool :=
  summary.sourceRunId = runId && summary.canonicalCheckpointHash = checkpoint &&
    summary.eventWatermark = watermark

def finalizedTicket (state : FinishedState) (ticket : MemoryTicket) : MemoryTicket :=
  { ticket with
    status := state.terminalState
    issueType := state.issueType.getD "unknown"
    risk := state.risk.getD ticket.risk
    finalResponse := state.answer }

/-- The summary of a ticket with the facts of a run: a new one, or the one there is. -/
def summarized (state : FinishedState) (run : MemoryRun) (checkpoint : String)
    (watermark : Nat) (ticket : MemoryTicket) (facts : List MemoryFact)
    (attempted : List JsonMembers) (now : Instant) (summary : Option TicketSummary) :
    TicketSummary where
  tenantId := (summary.map TicketSummary.tenantId).getD ticket.tenantId
  ticketId := state.ticketId
  customerId := (summary.map TicketSummary.customerId).getD ticket.customerId
  issueType := ticket.issueType
  confirmedFacts := facts
  attemptedActions := attempted
  openQuestions := followUpQuestions state.terminalState run.agentFinishReason
    ticket.automationMode
  sourceRefs := facts.map fun fact => (fact.sourceType, fact.sourceId)
  sourceRunId := state.runId
  canonicalCheckpointHash := checkpoint
  eventWatermark := watermark
  freshnessAt := now
  updatedAt := now

theorem supersedeFact_ticketIds (now : Instant) (customerId : String) (current : MemoryFact)
    (summaries : List TicketSummary) :
    (supersedeFact now customerId current summaries).2.map TicketSummary.ticketId =
      summaries.map TicketSummary.ticketId := by
  rw [supersedeFact]
  split
  · rw [List.map_map]
    apply List.map_congr_left
    intro summary _
    rw [Function.comp_apply]
    split <;> rfl
  · rfl

theorem supersedePrevious_ticketIds (now : Instant) (customerId : String) (facts : List MemoryFact)
    (summaries : List TicketSummary) :
    (supersedePrevious now customerId facts summaries).2.map TicketSummary.ticketId =
      summaries.map TicketSummary.ticketId := by
  induction facts generalizing summaries with
  | nil => rfl
  | cons current later induction =>
      rw [supersedePrevious]
      exact (induction _).trans (supersedeFact_ticketIds now customerId current summaries)

theorem persisted_distinct {summaries : List TicketSummary}
    (distinct : (summaries.map TicketSummary.ticketId).Nodup) (now : Instant)
    (customerId : String) (facts : List MemoryFact) (summary : TicketSummary) :
    ((Table.put TicketSummary.ticketId summary
      (supersedePrevious now customerId facts summaries).2).map TicketSummary.ticketId).Nodup := by
  apply Table.put_distinct
  rw [supersedePrevious_ticketIds]
  exact distinct

/-- `MemoryService.persist_summary`; the audit event is left out. -/
def persistSummary (now : Instant) (newFactId : Nat → String) (state : FinishedState)
    (database : MemoryDatabase Payload) : Except PersistRaise (MemoryDatabase Payload) := do
  let (run, checkpoint, watermark) ← finalizedRun database.surroundings state
  let summary := Table.find TicketSummary.ticketId database.summaries state.ticketId
  if summary.any (TicketSummary.tells state.runId checkpoint watermark) then .ok database
  else
    match database.surroundings.tickets state.ticketId with
    | none => .error .ticketNotFound
    | some found => do
        let ticket := finalizedTicket state found
        let facts ← (confirmedFacts fromIsoformat ticket.customerId now newFactId state).mapError
          PersistRaise.memory
        let superseded := supersedePrevious now ticket.customerId facts database.summaries
        let current ← (database.surroundings.actionStates state.ticketId).mapError
          PersistRaise.memory
        let attempted ← (AttemptedActions.mergeAttemptedActions fromIsoformat modelValidate
          ((summary.map TicketSummary.attemptedActions).getD []) current).mapError
            PersistRaise.memory
        .ok
          { surroundings := { database.surroundings with
              tickets := fun ticketId =>
                if ticketId = state.ticketId then some ticket
                else database.surroundings.tickets ticketId }
            summaries := Table.put TicketSummary.ticketId
              (summarized state run checkpoint watermark ticket superseded.1 attempted now summary)
              superseded.2
            distinct := persisted_distinct database.distinct now ticket.customerId facts
              (summarized state run checkpoint watermark ticket superseded.1 attempted now
                summary) }

/-! ### Loading -/

def terminalStates : List String :=
  ["resolved", "rejected", "manual_takeover", "failed"]

structure HistoryRequest where
  customerId : String
  issueType : String
  limit : Nat := 3

/-- The summary meets the conditions of the query. -/
def HistoryRequest.matches (request : HistoryRequest) (surroundings : Surroundings Payload)
    (summary : TicketSummary) : Bool :=
  summary.customerId = request.customerId && summary.issueType = request.issueType &&
    (surroundings.tickets summary.ticketId).any (fun ticket =>
      terminalStates.contains ticket.status) &&
    (surroundings.runs summary.sourceRunId).any fun run =>
      run.status = "completed" &&
        run.canonicalCheckpointHash = some summary.canonicalCheckpointHash

/-- The summaries that were updated last. Those updated at once stay in their order. -/
def HistoryRequest.select (request : HistoryRequest) (database : MemoryDatabase Payload) :
    List TicketSummary :=
  ((database.summaries.filter (request.matches database.surroundings)).insertionSort
    fun left right => right.updatedAt ≤ left.updatedAt).take (min request.limit 3)

/-- Knowledge that is no longer current is superseded. -/
def MemoryFact.checkDocument (surroundings : Surroundings Payload) (fact : MemoryFact) :
    MemoryFact :=
  if fact.status = .active ∧ fact.factType = "knowledge_evidence" ∧
      surroundings.currentDocument fact.documentId fact.resourceVersion fact.indexVersion = false
    then { fact with status := .superseded }
  else fact

/-- A fact whose time has come is expired. -/
def MemoryFact.checkTime (now : Instant) (fact : MemoryFact) : MemoryFact :=
  if fact.status = .active ∧ fact.validUntil.any (· ≤ now) then { fact with status := .expired }
  else fact

def MemoryFact.review (surroundings : Surroundings Payload) (now : Instant)
    (fact : MemoryFact) : MemoryFact :=
  (fact.checkDocument surroundings).checkTime now

/-- The time of the last update moves with the facts. -/
def TicketSummary.review (surroundings : Surroundings Payload) (now : Instant)
    (summary : TicketSummary) : TicketSummary :=
  let facts := summary.confirmedFacts.map (MemoryFact.review surroundings now)
  let changed := facts.map MemoryFact.status ≠ summary.confirmedFacts.map MemoryFact.status
  { summary with
    confirmedFacts := facts
    updatedAt := if changed then now else summary.updatedAt }

theorem reviewed_distinct {summaries : List TicketSummary}
    (distinct : (summaries.map TicketSummary.ticketId).Nodup)
    (surroundings : Surroundings Payload) (now : Instant) (chosen : TicketSummary → Bool) :
    ((summaries.map fun summary => if chosen summary then summary.review surroundings now
      else summary).map TicketSummary.ticketId).Nodup := by
  have same : (summaries.map fun summary => if chosen summary then
      summary.review surroundings now else summary).map TicketSummary.ticketId =
        summaries.map TicketSummary.ticketId := by
    rw [List.map_map]
    apply List.map_congr_left
    intro summary _
    rw [Function.comp_apply]
    split <;> rfl
  rw [same]
  exact distinct

/-- `MemoryService.load_relevant_history`. -/
def loadRelevantHistory (now : Instant) (request : HistoryRequest)
    (database : MemoryDatabase Payload) : List TicketSummary × MemoryDatabase Payload :=
  let selected := request.select database
  let chosen := fun summary : TicketSummary =>
    (selected.map TicketSummary.ticketId).contains summary.ticketId
  (selected.map (TicketSummary.review database.surroundings now),
    { database with
      summaries := database.summaries.map fun summary =>
        if chosen summary then summary.review database.surroundings now else summary
      distinct := reviewed_distinct database.distinct database.surroundings now chosen })

end

/-! ## Calls -/

inductive MemoryCall (Payload : Type)
  | persist (now : Instant) (newFactId : Nat → String) (state : FinishedState)
  | load (now : Instant) (request : HistoryRequest)
  /-- Something else than the summaries changes. -/
  | elsewhere (surroundings : Surroundings Payload)

section

variable {Payload : Type} (fromIsoformat : List Char → Option DateTime)
  (modelValidate : Payload → Except ProjectionRaise ConversationActionStateV1)

/-- What a call leaves behind. One that raises is rolled back. -/
def perform (database : MemoryDatabase Payload) :
    MemoryCall Payload → Option (MemoryDatabase Payload)
  | .persist now newFactId state =>
      match persistSummary fromIsoformat modelValidate now newFactId state database with
      | .ok next => some next
      | .error _ => some database
  | .load now request => some (loadRelevantHistory now request database).2
  | .elsewhere surroundings => some { database with surroundings }

/-- A call can always be made. -/
theorem perform_returns (database : MemoryDatabase Payload) (call : MemoryCall Payload) :
    ∃ next, perform fromIsoformat modelValidate database call = some next := by
  cases call with
  | persist now newFactId state =>
      rw [perform]
      split
      · exact ⟨_, rfl⟩
      · exact ⟨_, rfl⟩
  | load now request => exact ⟨_, rfl⟩
  | elsewhere surroundings => exact ⟨_, rfl⟩

/-- The tickets that are summarized are those of the customer. -/
def OfCustomer (customerId : String) (database : MemoryDatabase Payload) :
    MemoryCall Payload → Prop
  | .persist _ _ state => ∀ ticket, database.surroundings.tickets state.ticketId = some ticket →
      ticket.customerId = customerId
  | .load _ _ | .elsewhere _ => True

/-- The observation is not expired when it is remembered. -/
def RunObservation.lasts (now : Instant) (observation : RunObservation) : Bool :=
  (asDatetime fromIsoformat observation.observedAt now >>=
    expiry observation).toOption.any (now < ·)

/-- What is remembered of an observation as active and stands alone. -/
def lastingReads (now : Instant) (businessSourceIds : List String)
    (observation : RunObservation) : List (String × String) :=
  if observation.lasts fromIsoformat now ∧ observation.tool ≠ "knowledge_evidence" ∧
      observation.tool ≠ "query_billing_record" then
    (usedSources businessSourceIds observation).map fun source =>
      (observation.tool, source.sourceId)
  else []

/-- The used sources are no older than the observations that name them, and no two of those
that last are the same. -/
structure Orderly (now : Instant) (state : FinishedState) : Prop where
  times : ∀ observation ∈ state.toolObservations,
    observation.lasts fromIsoformat now = true →
      ∀ source ∈ usedSources state.businessSourceIds observation, ∀ observed sourceObserved,
        asDatetime fromIsoformat observation.observedAt now = .ok observed →
        asDatetime fromIsoformat source.observedAt observed = .ok sourceObserved →
          observed ≤ sourceObserved
  distinct : (state.toolObservations.flatMap
    (lastingReads fromIsoformat now state.businessSourceIds)).Nodup

def OrderlyCall : MemoryCall Payload → Prop
  | .persist now _ state => Orderly fromIsoformat now state
  | .load _ _ | .elsewhere _ => True

end

/-! ## Freshness -/

def MemoryFact.singular (fact : MemoryFact) : Bool :=
  fact.status = .active && fact.replaceable

/-- The keys of the active business facts other than billing records. -/
def factKeys (facts : List MemoryFact) : List (String × String) :=
  (facts.filter MemoryFact.singular).map MemoryFact.key

def activeKeys (summaries : List TicketSummary) : List (String × String) :=
  summaries.flatMap fun summary => factKeys summary.confirmedFacts

/-- The time is within the lifetime of the policy of the fact, counted from the observation
time that the fact records. -/
def MemoryFact.FreshAt (now : Instant) (fact : MemoryFact) : Prop :=
  ∃ observed policy, fact.observedAt = .read observed ∧
    fact.freshnessPolicy = FreshnessPolicy.text policy ∧
    (now.microseconds : Int) < observed.microseconds + policy.lifetime

def LeavesFresh {Payload : Type} (database : MemoryDatabase Payload) :
    MemoryCall Payload → Prop
  | .load now request =>
      ∀ summary ∈ (loadRelevantHistory now request database).1,
        ∀ fact ∈ summary.confirmedFacts, fact.factType ≠ "knowledge_evidence" →
          fact.status = .active → fact.FreshAt now
  | .persist _ _ _ | .elsewhere _ => True

def ActiveAlone {Payload : Type} (customerId : String) (database : MemoryDatabase Payload) :
    Prop :=
  (activeKeys (database.summaries.filter fun summary =>
    summary.customerId = customerId)).Nodup

/-! ## Summaries that say less -/

/-- The later summary has no active fact that the earlier one has not. -/
structure TicketSummary.Weaker (before after : TicketSummary) : Prop where
  customer : after.customerId = before.customerId
  facts : ∀ fact ∈ after.confirmedFacts, fact.status = .active → fact ∈ before.confirmedFacts
  keys : (factKeys after.confirmedFacts).Sublist (factKeys before.confirmedFacts)

theorem TicketSummary.Weaker.refl (summary : TicketSummary) : summary.Weaker summary where
  customer := rfl
  facts := fun _ member _ => member
  keys := List.Sublist.refl _

theorem TicketSummary.Weaker.trans {first second third : TicketSummary}
    (earlier : first.Weaker second) (later : second.Weaker third) : first.Weaker third where
  customer := later.customer.trans earlier.customer
  facts := fun fact member active => earlier.facts fact (later.facts fact member active) active
  keys := later.keys.trans earlier.keys

/-- Facts that change only where they stop being active. -/
theorem TicketSummary.weaker_map {summary after : TicketSummary} {change : MemoryFact → MemoryFact}
    (customer : after.customerId = summary.customerId)
    (changed : after.confirmedFacts = summary.confirmedFacts.map change)
    (kept : ∀ fact ∈ summary.confirmedFacts, (change fact).key = fact.key)
    (active : ∀ fact ∈ summary.confirmedFacts, (change fact).status = .active →
      change fact = fact) : summary.Weaker after where
  customer := customer
  facts := by
    intro fact member stays
    rw [changed] at member
    rcases List.mem_map.mp member with ⟨before, among, rfl⟩
    rw [active before among stays]
    exact among
  keys := by
    rw [changed]
    apply Table.filter_map_key_sublist kept
    intro fact among singular
    have stays := (Bool.and_eq_true _ _ ▸ singular : _ ∧ _).1
    rw [active fact among (of_decide_eq_true stays)] at singular
    exact singular

variable {before after : List TicketSummary}

theorem activeKeys_sublist (weaker : List.Forall₂ TicketSummary.Weaker before after) :
    (activeKeys after).Sublist (activeKeys before) := by
  induction weaker with
  | nil => exact List.Sublist.refl _
  | cons first _ induction =>
      rw [activeKeys, activeKeys, List.flatMap_cons, List.flatMap_cons]
      exact first.keys.append induction

theorem forall₂_weaker_trans {first second third : List TicketSummary}
    (earlier : List.Forall₂ TicketSummary.Weaker first second)
    (later : List.Forall₂ TicketSummary.Weaker second third) :
    List.Forall₂ TicketSummary.Weaker first third := by
  induction earlier generalizing third with
  | nil =>
      cases later
      exact List.Forall₂.nil
  | cons head _ induction =>
      cases later with
      | cons next rest => exact List.Forall₂.cons (head.trans next) (induction rest)

theorem weaker_customer {customerId : String}
    (weaker : List.Forall₂ TicketSummary.Weaker before after)
    (customer : ∀ summary ∈ before, summary.customerId = customerId) :
    ∀ summary ∈ after, summary.customerId = customerId := by
  intro summary member
  rcases exists_of_forall₂ weaker member with ⟨earlier, among, same⟩
  exact same.customer.trans (customer earlier among)

variable {summaries : List TicketSummary}

/-- One summary after the other is changed or stays. -/
theorem weaker_of_map {change : TicketSummary → TicketSummary}
    (each : ∀ summary ∈ summaries, summary.Weaker (change summary)) :
    List.Forall₂ TicketSummary.Weaker summaries (summaries.map change) := by
  rw [List.forall₂_map_right_iff, List.forall₂_same]
  exact each

/-! ## Superseding -/

theorem supersede_weaker (now : Instant) (current : MemoryFact) (summary : TicketSummary) :
    summary.Weaker (summary.supersede now current) := by
  have changed : (summary.supersede now current).confirmedFacts =
      summary.confirmedFacts.map fun previous =>
        if replaces current previous then { previous with status := .superseded }
        else previous := rfl
  have customer : (summary.supersede now current).customerId = summary.customerId := rfl
  apply TicketSummary.weaker_map customer changed
  · intro fact _
    split <;> rfl
  · intro fact _ active
    split at active
    · cases active
    · next kept => exact if_neg kept

theorem supersedeFact_weaker (now : Instant) (customerId : String) (current : MemoryFact)
    (summaries : List TicketSummary) :
    List.Forall₂ TicketSummary.Weaker summaries
      (supersedeFact now customerId current summaries).2 := by
  rw [supersedeFact]
  split
  · apply weaker_of_map
    intro summary _
    split
    · exact supersede_weaker now current summary
    · exact TicketSummary.Weaker.refl summary
  · exact List.forall₂_same.mpr fun summary _ => TicketSummary.Weaker.refl summary

/-- Once a fact has come, none of its kind is active in the summaries of its customer. -/
theorem supersedeFact_absent {now : Instant} {customerId : String} {current : MemoryFact}
    (customer : ∀ summary ∈ summaries, summary.customerId = customerId)
    (replaceable : current.replaceable = true) :
    current.key ∉ activeKeys (supersedeFact now customerId current summaries).2 := by
  rw [supersedeFact, if_pos replaceable]
  intro member
  rcases List.mem_flatMap.mp member with ⟨after, among, keyed⟩
  rcases List.mem_map.mp among with ⟨summary, before, rfl⟩
  rw [if_pos (customer summary before)] at keyed
  rcases List.mem_map.mp keyed with ⟨fact, singular, named⟩
  rcases List.mem_filter.mp singular with ⟨stays, alone⟩
  have active : fact.status = .active :=
    of_decide_eq_true (Bool.and_eq_true _ _ ▸ alone : _ ∧ _).1
  rcases List.mem_map.mp stays with ⟨previous, _, rfl⟩
  split at active
  · cases active
  · next kept =>
      rw [if_neg kept] at named
      apply kept
      rw [replaces, Bool.and_eq_true]
      exact ⟨decide_eq_true active, decide_eq_true named⟩

theorem supersedePrevious_weaker (now : Instant) (customerId : String) (facts : List MemoryFact)
    (summaries : List TicketSummary) :
    List.Forall₂ TicketSummary.Weaker summaries
      (supersedePrevious now customerId facts summaries).2 := by
  induction facts generalizing summaries with
  | nil => exact List.forall₂_same.mpr fun summary _ => TicketSummary.Weaker.refl summary
  | cons current later induction =>
      rw [supersedePrevious]
      exact forall₂_weaker_trans (supersedeFact_weaker now customerId current summaries)
        (induction _)

theorem supersedePrevious_absent {now : Instant} {customerId : String} {facts : List MemoryFact}
    (customer : ∀ summary ∈ summaries, summary.customerId = customerId) :
    ∀ fact ∈ facts, fact.replaceable = true →
      fact.key ∉ activeKeys (supersedePrevious now customerId facts summaries).2 := by
  induction facts generalizing summaries with
  | nil => exact fun fact member => absurd member List.not_mem_nil
  | cons current later induction =>
      have weaker := supersedeFact_weaker now customerId current summaries
      intro fact member replaceable
      rw [supersedePrevious]
      rcases List.mem_cons.mp member with rfl | among
      · intro present
        apply supersedeFact_absent customer replaceable
        exact (activeKeys_sublist (supersedePrevious_weaker now customerId later _)).subset present
      · exact induction (weaker_customer weaker customer) fact among replaceable

/-- The facts are those of the run, each with what it supersedes. -/
theorem supersedePrevious_facts (now : Instant) (customerId : String) (facts : List MemoryFact)
    (summaries : List TicketSummary) :
    List.Forall₂ (fun fact final => ∃ previous, final = { fact with supersedesFactId := previous })
      facts (supersedePrevious now customerId facts summaries).1 := by
  induction facts generalizing summaries with
  | nil => exact List.Forall₂.nil
  | cons current later induction =>
      rw [supersedePrevious]
      apply List.Forall₂.cons
      · rw [supersedeFact]
        split
        · exact ⟨_, rfl⟩
        · exact ⟨current.supersedesFactId, rfl⟩
      · exact induction _

/-! ## Reviewing -/

theorem MemoryFact.checkDocument_kept {Payload : Type} (surroundings : Surroundings Payload)
    (fact : MemoryFact) : (fact.checkDocument surroundings).key = fact.key ∧
      ((fact.checkDocument surroundings).status = .active →
        fact.checkDocument surroundings = fact) := by
  rw [checkDocument]
  split
  · exact ⟨rfl, fun active => by cases active⟩
  · exact ⟨rfl, fun _ => rfl⟩

/-- A fact that passes is active until later. -/
theorem MemoryFact.checkTime_kept (now : Instant) (fact : MemoryFact) :
    (fact.checkTime now).key = fact.key ∧
      ((fact.checkTime now).status = .active →
        fact.checkTime now = fact ∧ fact.validUntil.any (· ≤ now) = false) := by
  rw [checkTime]
  split
  · exact ⟨rfl, fun active => by cases active⟩
  · next passed =>
      apply And.intro rfl
      intro active
      exact ⟨rfl, Bool.eq_false_iff.mpr fun due => passed ⟨active, due⟩⟩

theorem MemoryFact.review_kept {Payload : Type} (surroundings : Surroundings Payload)
    (now : Instant) (fact : MemoryFact) : (fact.review surroundings now).key = fact.key ∧
      ((fact.review surroundings now).status = .active →
        fact.review surroundings now = fact ∧ fact.validUntil.any (· ≤ now) = false) := by
  have document := fact.checkDocument_kept surroundings
  have time := (fact.checkDocument surroundings).checkTime_kept now
  rw [review]
  apply And.intro (time.1.trans document.1)
  intro active
  have passed := time.2 active
  have same := document.2 (passed.1 ▸ active)
  rw [same] at passed
  rw [same]
  exact passed

theorem review_weaker {Payload : Type} (surroundings : Surroundings Payload) (now : Instant)
    (summary : TicketSummary) : summary.Weaker (summary.review surroundings now) :=
  TicketSummary.weaker_map rfl rfl
    (fun fact _ => (fact.review_kept surroundings now).1)
    (fun fact _ active => ((fact.review_kept surroundings now).2 active).1)

/-! ## The facts of an orderly run -/

/-- The fact of an active business read is valid for the lifetime of its policy at most. -/
def MemoryFact.Within (fact : MemoryFact) : Prop :=
  fact.factType ≠ "knowledge_evidence" → fact.status = .active →
    ∃ observed policy validUntil, fact.observedAt = .read observed ∧
      fact.freshnessPolicy = FreshnessPolicy.text policy ∧
      fact.validUntil = some validUntil ∧
      (validUntil.microseconds : Int) ≤ observed.microseconds + policy.lifetime

section

variable {fromIsoformat : List Char → Option DateTime} {customerId : String} {now : Instant}

variable {observation : RunObservation}

theorem expiry_microseconds {observed validUntil : Instant}
    (lasting : expiry observation observed = .ok validUntil) :
    (validUntil.microseconds : Int) = observed.microseconds + observation.policy.lifetime := by
  rw [expiry] at lasting
  split at lasting
  · next shifted =>
      cases lasting
      rw [Instant.add?] at shifted
      split at shifted
      · next inRange =>
          cases shifted
          exact Int.toNat_of_nonneg inRange.1
      · cases shifted
  · cases lasting

theorem lasts_eq {observed validUntil : Instant}
    (read : asDatetime fromIsoformat observation.observedAt now = .ok observed)
    (lasting : expiry observation observed = .ok validUntil) :
    observation.lasts fromIsoformat now = decide (now < validUntil) := by
  rw [RunObservation.lasts, read]
  change ((expiry observation observed).toOption.any (now < ·)) = _
  rw [lasting]
  rfl

variable {facts : List MemoryFact}

/-- The facts of one observation, source by source. -/
theorem observationFacts_spec {ids : List String}
    (returned : observationFacts fromIsoformat customerId now ids observation = .ok facts) :
    ∃ observed validUntil,
      asDatetime fromIsoformat observation.observedAt now = .ok observed ∧
      expiry observation observed = .ok validUntil ∧
      List.Forall₂ (fun source fact => ∃ sourceObserved,
          asDatetime fromIsoformat source.observedAt observed = .ok sourceObserved ∧
          fact.observedAt = .read sourceObserved ∧ fact.validUntil = some validUntil ∧
          fact.freshnessPolicy = observation.policy.text ∧
          fact.key = (observation.tool, source.sourceId) ∧
          fact.status = if now < validUntil then .active else .expired)
        (usedSources ids observation) facts := by
  rcases bind_eq_ok_iff.mp returned with ⟨observed, read, returned⟩
  rcases bind_eq_ok_iff.mp returned with ⟨validUntil, lasting, returned⟩
  apply Exists.intro observed
  apply Exists.intro validUntil
  apply And.intro read
  apply And.intro lasting
  apply (mapM_forall₂ returned).imp
  intro source fact made
  rcases bind_eq_ok_iff.mp made with ⟨sourceObserved, sourceRead, made⟩
  cases made
  exact ⟨sourceObserved, sourceRead, rfl, rfl, rfl, rfl, rfl⟩

theorem observationFacts_within {ids : List String}
    (returned : observationFacts fromIsoformat customerId now ids observation = .ok facts)
    (times : observation.lasts fromIsoformat now = true →
      ∀ source ∈ usedSources ids observation, ∀ observed sourceObserved,
        asDatetime fromIsoformat observation.observedAt now = .ok observed →
        asDatetime fromIsoformat source.observedAt observed = .ok sourceObserved →
          observed ≤ sourceObserved) :
    ∀ fact ∈ facts, fact.Within := by
  rcases observationFacts_spec returned with ⟨observed, validUntil, read, lasting, each⟩
  intro fact member _ active
  rcases exists_of_forall₂ each member with
    ⟨source, used, sourceObserved, sourceRead, recorded, valid, policy, _, status⟩
  rw [active] at status
  split at status
  · next later =>
      have lasts : observation.lasts fromIsoformat now = true := by
        rw [lasts_eq read lasting]
        exact decide_eq_true later
      have ordered : observed.microseconds ≤ sourceObserved.microseconds :=
        times lasts source used observed sourceObserved read sourceRead
      have ends := expiry_microseconds lasting
      exact ⟨sourceObserved, observation.policy, validUntil, recorded, policy, valid, by omega⟩
  · cases status

theorem observationFacts_keys {ids : List String}
    (returned : observationFacts fromIsoformat customerId now ids observation = .ok facts) :
    factKeys facts = lastingReads fromIsoformat now ids observation := by
  rcases observationFacts_spec returned with ⟨observed, validUntil, read, lasting, each⟩
  have keys : facts.map MemoryFact.key = (usedSources ids observation).map fun source =>
      (observation.tool, source.sourceId) := by
    apply Eq.symm
    rw [← List.forall₂_eq_eq_eq, List.forall₂_map_left_iff, List.forall₂_map_right_iff]
    apply each.imp
    intro source fact made
    rcases made with ⟨_, _, _, _, _, named, _⟩
    exact named.symm
  have alone : ∀ fact ∈ facts, fact.singular = decide (decide (now < validUntil) = true ∧
      observation.tool ≠ "knowledge_evidence" ∧ observation.tool ≠ "query_billing_record") := by
    intro fact member
    rcases exists_of_forall₂ each member with ⟨source, _, _, _, _, _, _, named, status⟩
    have type : fact.factType = observation.tool := congrArg Prod.fst named
    rw [MemoryFact.singular, MemoryFact.replaceable, type, status]
    split
    · next later => simp [later]
    · next later => simp [later]
  rw [lastingReads, lasts_eq read lasting, factKeys]
  split
  · next lasts =>
      have every : facts.filter MemoryFact.singular = facts := by
        apply List.filter_eq_self.mpr
        intro fact member
        rw [alone fact member]
        exact decide_eq_true lasts
      rw [every, keys]
  · next ends =>
      have none : facts.filter MemoryFact.singular = [] := by
        apply List.filter_eq_nil_iff.mpr
        intro fact member
        rw [alone fact member]
        exact fun lasts => ends (of_decide_eq_true lasts)
      rw [none]
      rfl

theorem factKeys_append (first second : List MemoryFact) :
    factKeys (first ++ second) = factKeys first ++ factKeys second := by
  rw [factKeys, factKeys, factKeys, List.filter_append, List.map_append]

theorem factKeys_knowledge (evidence : List RunEvidence) :
    factKeys (evidence.map (knowledgeFact customerId now)) = [] := by
  have none : (evidence.map (knowledgeFact customerId now)).filter MemoryFact.singular = [] := by
    apply List.filter_eq_nil_iff.mpr
    intro fact member
    rcases List.mem_map.mp member with ⟨item, _, rfl⟩
    exact Bool.false_ne_true
  rw [factKeys, none]
  rfl

/-- Facts are known by the same keys under other identities. -/
theorem factKeys_congr {facts finals : List MemoryFact}
    (same : List.Forall₂ (fun fact final => final.key = fact.key ∧ final.status = fact.status)
      facts finals) : factKeys finals = factKeys facts := by
  induction same with
  | nil => rfl
  | @cons fact final _ _ equal _ induction =>
      have type : final.factType = fact.factType := congrArg Prod.fst equal.1
      have singular : final.singular = fact.singular := by
        rw [MemoryFact.singular, MemoryFact.singular, MemoryFact.replaceable,
          MemoryFact.replaceable, type, equal.2]
      rw [factKeys, factKeys, List.filter_cons, List.filter_cons, singular]
      split
      · rw [List.map_cons, List.map_cons, equal.1]
        exact congrArg (fact.key :: ·) induction
      · exact induction

theorem numbered (newFactId : Nat → String) (facts : List MemoryFact) :
    List.Forall₂ (fun fact final => ∃ factId, final = { fact with factId := factId }) facts
      (facts.mapIdx fun index fact => { fact with factId := newFactId index }) := by
  induction facts generalizing newFactId with
  | nil => exact List.Forall₂.nil
  | cons fact rest induction =>
      rw [List.mapIdx_cons]
      apply List.Forall₂.cons
      · exact ⟨newFactId 0, rfl⟩
      · exact induction fun index => newFactId (index + 1)

/-- The facts of an orderly run are within the lifetimes of their policies, and no two of them
that stand alone are the same. -/
theorem confirmedFacts_spec {newFactId : Nat → String} {state : FinishedState}
    (orderly : Orderly fromIsoformat now state)
    (returned : confirmedFacts fromIsoformat customerId now newFactId state = .ok facts) :
    (∀ fact ∈ facts, fact.Within) ∧ (factKeys facts).Nodup := by
  rcases bind_eq_ok_iff.mp returned with ⟨business, mapped, rest⟩
  have each := mapM_forall₂ mapped
  have same := numbered newFactId ((state.evidence.filter fun evidence =>
    evidence.chunkId ∈ state.knowledgeChunkIds).map (knowledgeFact customerId now) ++
      business.flatten)
  cases rest
  apply And.intro
  · intro final member
    rcases exists_of_forall₂ same member with ⟨fact, among, factId, rfl⟩
    rcases List.mem_append.mp among with knowledge | read
    · rcases List.mem_map.mp knowledge with ⟨item, _, rfl⟩
      exact fun other => absurd rfl other
    · rcases List.mem_flatten.mp read with ⟨facts, listed, named⟩
      rcases exists_of_forall₂ each listed with ⟨observation, observed, made⟩
      exact observationFacts_within made (orderly.times observation observed) fact named
  · have keys : ∀ {observations : List RunObservation} {lists : List (List MemoryFact)},
        List.Forall₂ (fun observation facts => observationFacts fromIsoformat customerId now
          state.businessSourceIds observation = .ok facts) observations lists →
        factKeys lists.flatten =
          observations.flatMap (lastingReads fromIsoformat now state.businessSourceIds) := by
      intro observations lists made
      induction made with
      | nil => rfl
      | cons first _ induction =>
          rw [List.flatten_cons, factKeys_append, List.flatMap_cons, induction,
            observationFacts_keys first]
    rw [factKeys_congr (same.imp fun fact final numbered => by
      rcases numbered with ⟨factId, rfl⟩
      exact ⟨rfl, rfl⟩), factKeys_append, factKeys_knowledge, List.nil_append, keys each]
    exact orderly.distinct

end

/-! ## Steps -/

structure Remembers (customerId : String) (summaries : List TicketSummary) : Prop where
  customer : ∀ summary ∈ summaries, summary.customerId = customerId
  within : ∀ summary ∈ summaries, ∀ fact ∈ summary.confirmedFacts, fact.Within
  unique : (activeKeys summaries).Nodup

theorem Remembers.of_weaker {customerId : String} (remembers : Remembers customerId before)
    (weaker : List.Forall₂ TicketSummary.Weaker before after) : Remembers customerId after where
  customer := weaker_customer weaker remembers.customer
  within := by
    intro summary member fact named business active
    rcases exists_of_forall₂ weaker member with ⟨earlier, among, less⟩
    exact remembers.within earlier among fact (less.facts fact named active) business active
  unique := remembers.unique.sublist (activeKeys_sublist weaker)

/-- The summary of a ticket takes the place of its earlier one. -/
theorem Remembers.put {customerId : String} {summary : TicketSummary}
    (remembers : Remembers customerId summaries)
    (distinct : (summaries.map TicketSummary.ticketId).Nodup)
    (customer : summary.customerId = customerId)
    (within : ∀ fact ∈ summary.confirmedFacts, fact.Within)
    (unique : (factKeys summary.confirmedFacts).Nodup)
    (absent : ∀ key ∈ factKeys summary.confirmedFacts, key ∉ activeKeys summaries) :
    Remembers customerId (Table.put TicketSummary.ticketId summary summaries) := by
  have order := Table.put_perm TicketSummary.ticketId distinct summary
  have kept : ∀ other ∈ Table.put TicketSummary.ticketId summary summaries,
      other = summary ∨ other ∈ summaries := by
    intro other member
    rcases List.mem_cons.mp (order.mem_iff.mp member) with same | among
    · exact Or.inl same
    · exact Or.inr (List.mem_filter.mp among).1
  constructor
  · intro other member
    rcases kept other member with rfl | among
    · exact customer
    · exact remembers.customer other among
  · intro other member
    rcases kept other member with rfl | among
    · exact within
    · exact remembers.within other among
  · have others : (activeKeys (summaries.filter fun other =>
        other.ticketId ≠ summary.ticketId)).Sublist (activeKeys summaries) :=
      List.filter_sublist.flatMap _
    rw [activeKeys, (order.flatMap_right _).nodup_iff, List.flatMap_cons, List.nodup_append]
    apply And.intro unique
    apply And.intro (remembers.unique.sublist others)
    intro key fresh other among same
    exact absent key fresh (others.subset (same ▸ among))

section

variable {Payload : Type} {fromIsoformat : List Char → Option DateTime}
  {modelValidate : Payload → Except ProjectionRaise ConversationActionStateV1}
  {customerId : String} {database next : MemoryDatabase Payload}

/-- A summary is left as it is, or written with the facts of the run. -/
theorem persistSummary_cases {now : Instant} {newFactId : Nat → String} {state : FinishedState}
    (returned : persistSummary fromIsoformat modelValidate now newFactId state database =
      .ok next) :
    next = database ∨ ∃ ticket facts summary,
      database.surroundings.tickets state.ticketId = some ticket ∧
      confirmedFacts fromIsoformat ticket.customerId now newFactId state = .ok facts ∧
      summary.ticketId = state.ticketId ∧
      summary.confirmedFacts =
        (supersedePrevious now ticket.customerId facts database.summaries).1 ∧
      summary.customerId = ((Table.find TicketSummary.ticketId database.summaries
        state.ticketId).map TicketSummary.customerId).getD ticket.customerId ∧
      next.summaries = Table.put TicketSummary.ticketId summary
        (supersedePrevious now ticket.customerId facts database.summaries).2 := by
  rcases bind_eq_ok_iff.mp returned with ⟨⟨run, checkpoint, watermark⟩, _, returned⟩
  dsimp only at returned
  split at returned
  · cases returned
    exact Or.inl rfl
  · split at returned
    · cases returned
    · next ticket found =>
        rcases bind_eq_ok_iff.mp returned with ⟨facts, made, returned⟩
        rcases bind_eq_ok_iff.mp returned with ⟨current, _, returned⟩
        rcases bind_eq_ok_iff.mp returned with ⟨attempted, _, returned⟩
        cases returned
        apply Or.inr
        exact ⟨ticket, facts, _, found, mapError_eq_ok made, rfl, rfl, rfl, rfl⟩

theorem persistSummary_remembers {now : Instant} {newFactId : Nat → String}
    {state : FinishedState}
    (returned : persistSummary fromIsoformat modelValidate now newFactId state database =
      .ok next)
    (remembers : Remembers customerId database.summaries)
    (owned : ∀ ticket, database.surroundings.tickets state.ticketId = some ticket →
      ticket.customerId = customerId)
    (orderly : Orderly fromIsoformat now state) : Remembers customerId next.summaries := by
  rcases persistSummary_cases returned with same |
    ⟨ticket, facts, summary, found, made, _, kept, customer, saved⟩
  · rw [same]
    exact remembers
  have owner := owned ticket found
  rw [owner] at made kept customer saved
  rcases confirmedFacts_spec orderly made with ⟨within, unique⟩
  have earlier := remembers.of_weaker
    (supersedePrevious_weaker now customerId facts database.summaries)
  have distinct : ((supersedePrevious now customerId facts database.summaries).2.map
      TicketSummary.ticketId).Nodup := by
    rw [supersedePrevious_ticketIds]
    exact database.distinct
  have facts_same := supersedePrevious_facts now customerId facts database.summaries
  rw [← kept] at facts_same
  have keys : factKeys summary.confirmedFacts = factKeys facts :=
    factKeys_congr (facts_same.imp fun fact final same => by
      rcases same with ⟨previous, rfl⟩
      exact ⟨rfl, rfl⟩)
  rw [saved]
  apply earlier.put distinct
  · rw [customer]
    cases summarized : Table.find TicketSummary.ticketId database.summaries state.ticketId with
    | none => rfl
    | some before => exact remembers.customer before (Table.find_mem summarized).1
  · intro final member
    rcases exists_of_forall₂ facts_same member with ⟨fact, among, previous, rfl⟩
    exact within fact among
  · rw [keys]
    exact unique
  · intro key fresh
    rw [keys] at fresh
    rcases List.mem_map.mp fresh with ⟨fact, singular, rfl⟩
    rcases List.mem_filter.mp singular with ⟨among, alone⟩
    apply supersedePrevious_absent remembers.customer fact among
    exact (Bool.and_eq_true _ _ ▸ alone : _ ∧ _).2

theorem loadRelevantHistory_remembers {now : Instant} {request : HistoryRequest}
    (remembers : Remembers customerId database.summaries) :
    Remembers customerId (loadRelevantHistory now request database).2.summaries := by
  apply remembers.of_weaker
  apply weaker_of_map
  intro summary _
  split
  · exact review_weaker database.surroundings now summary
  · exact TicketSummary.Weaker.refl summary

/-- What is loaded was remembered. -/
theorem select_subset {request : HistoryRequest} {summary : TicketSummary}
    (selected : summary ∈ request.select database) : summary ∈ database.summaries := by
  have sorted := List.mem_of_mem_take selected
  exact (List.mem_filter.mp ((List.perm_insertionSort _ _).mem_iff.mp sorted)).1

theorem loadRelevantHistory_fresh {now : Instant} {request : HistoryRequest}
    (remembers : Remembers customerId database.summaries) :
    LeavesFresh database (.load now request) := by
  intro reviewed member fact named business active
  rcases List.mem_map.mp member with ⟨summary, selected, rfl⟩
  rcases List.mem_map.mp named with ⟨before, among, rfl⟩
  rcases (before.review_kept database.surroundings now).2 active with ⟨same, passed⟩
  rw [same] at business active ⊢
  rcases remembers.within summary (select_subset selected) before among business active with
    ⟨observed, policy, validUntil, recorded, policyText, valid, ends⟩
  rw [valid, Option.any_some, decide_eq_false_iff_not] at passed
  have later : now.microseconds < validUntil.microseconds := Nat.lt_of_not_le passed
  exact ⟨observed, policy, recorded, policyText, by omega⟩

theorem Remembers.alone (remembers : Remembers customerId database.summaries) :
    ActiveAlone customerId database :=
  remembers.unique.sublist (List.filter_sublist.flatMap _)

/-- One call. -/
theorem perform_remembers {call : MemoryCall Payload}
    (remembers : Remembers customerId database.summaries)
    (performed : perform fromIsoformat modelValidate database call = some next)
    (condition : OfCustomer customerId database call ∧ OrderlyCall fromIsoformat call) :
    Remembers customerId next.summaries ∧
      (LeavesFresh database call ∧ ActiveAlone customerId next) := by
  have kept : Remembers customerId next.summaries := by
    cases call with
    | persist now newFactId state =>
        rw [perform] at performed
        split at performed
        · next returned =>
            cases performed
            exact persistSummary_remembers returned remembers condition.1 condition.2
        · cases performed
          exact remembers
    | load now request =>
        cases performed
        exact loadRelevantHistory_remembers remembers
    | elsewhere surroundings =>
        cases performed
        exact remembers
  apply And.intro kept
  apply And.intro _ kept.alone
  cases call with
  | load now request => exact loadRelevantHistory_fresh remembers
  | persist | elsewhere => trivial

/-- In a run of orderly calls over the tickets of one customer, what is loaded as active is
fresh, and no two active facts are the same. -/
theorem rememberedFacts_fresh (fromIsoformat : List Char → Option DateTime)
    (modelValidate : Payload → Except ProjectionRaise ConversationActionStateV1)
    (customerId : String) (initial : MemoryDatabase Payload) (calls : List (MemoryCall Payload))
    (empty : initial.summaries = [])
    (conditions : Run.EveryStep (perform fromIsoformat modelValidate)
      (fun database call _ => OfCustomer customerId database call ∧
        OrderlyCall fromIsoformat call) initial calls) :
    Run.EveryStep (perform fromIsoformat modelValidate)
      (fun database call next => LeavesFresh database call ∧ ActiveAlone customerId next)
      initial calls := by
  have initially : Remembers customerId initial.summaries := by
    rw [empty]
    exact ⟨fun _ member => absurd member List.not_mem_nil,
      fun _ member => absurd member List.not_mem_nil, List.nodup_nil⟩
  exact Run.EveryStep.of_invariant
    (fun _ _ _ remembers performed condition =>
      perform_remembers remembers performed condition) initially conditions

end

/-! ### A service status -/

theorem afterTwoMinutes_inRange : 150000000 < calendarDays * microsecondsPerDay := by decide

def minuteTime : Instant := ⟨60000000, Instant.minute_inRange⟩

/-- A ticket of the customer with a completed run. -/
def statusDatabase : MemoryDatabase Empty where
  surroundings :=
    { runs := fun _ => some
        { ticketId := "ticket"
          status := "completed"
          canonicalCheckpointHash := some "hash"
          agentFinishReason := none }
      unclosedTurns := fun _ => 0
      eventWatermarks := fun _ => some 1
      tickets := fun _ => some
        { tenantId := "tenant"
          customerId := "customer"
          status := "open"
          issueType := "unknown"
          risk := "low"
          finalResponse := ""
          automationMode := "agent" }
      actionStates := fun _ => .ok []
      currentDocument := fun _ _ _ => true }
  summaries := []
  distinct := List.nodup_nil

/-- The run has read the status of a service after one minute. The sources that it names have
times of their own. -/
def statusRun (sourceTimes : List Instant) : FinishedState where
  runId := "run"
  ticketId := "ticket"
  terminalState := "resolved"
  answer := "ok"
  issueType := some "incident_support"
  risk := none
  knowledgeChunkIds := []
  businessSourceIds := ["status"]
  evidence := []
  toolObservations := [
    { toolName := some "check_service_status"
      observedAt := .datetime ⟨minuteTime, none⟩
      sourceRefs := sourceTimes.map fun time => ⟨"service", "status", .datetime ⟨time, none⟩⟩
      resourceVersion := .null }]

/-- The run is remembered at once; its facts are loaded after two minutes and a half. -/
def statusCalls (sourceTimes : List Instant) : List (MemoryCall Empty) :=
  [.persist minuteTime (fun _ => "fact") (statusRun sourceTimes),
    .load ⟨150000000, afterTwoMinutes_inRange⟩ ⟨"customer", "incident_support", 3⟩]

/-- What is remembered of the status. -/
def rememberedStatus (sourceTimes : List Instant) : MemoryDatabase Empty :=
  (perform (fun _ => none) Empty.elim statusDatabase
    (.persist minuteTime (fun _ => "fact") (statusRun sourceTimes))).getD statusDatabase

def loadedStatus (sourceTimes : List Instant) : List MemoryFact :=
  (loadRelevantHistory ⟨150000000, afterTwoMinutes_inRange⟩
    ⟨"customer", "incident_support", 3⟩ (rememberedStatus sourceTimes)).1.flatMap
      TicketSummary.confirmedFacts

example : (loadedStatus [minuteTime]).map MemoryFact.status = [.active] := by decide

theorem perform_statusRun (sourceTimes : List Instant) :
    perform (fun _ => none) Empty.elim statusDatabase
      (.persist minuteTime (fun _ => "fact") (statusRun sourceTimes)) =
        some (rememberedStatus sourceTimes) := by
  rcases perform_returns (fun _ => none) Empty.elim statusDatabase
    (.persist minuteTime (fun _ => "fact") (statusRun sourceTimes)) with ⟨next, performed⟩
  rw [rememberedStatus, performed]
  rfl

theorem statusRun_owned (sourceTimes : List Instant) :
    OfCustomer "customer" statusDatabase
      (.persist minuteTime (fun _ => "fact") (statusRun sourceTimes)) := by
  intro ticket found
  cases found
  rfl

theorem statusRun_orderly : Orderly (fun _ => none) minuteTime (statusRun [minuteTime]) where
  times := by
    intro observation member _ source used observed sourceObserved read sourceRead
    cases List.mem_singleton.mp member
    cases List.mem_singleton.mp (List.mem_filter.mp used).1
    cases read
    cases sourceRead
    exact Nat.le_refl _
  distinct := by decide

/-- The status is read off a source of that minute. -/
theorem rememberedFacts_fresh_status :
    Run.EveryStep (perform (fun _ => none) Empty.elim)
      (fun database call next => LeavesFresh database call ∧ ActiveAlone "customer" next)
      statusDatabase (statusCalls [minuteTime]) := by
  apply rememberedFacts_fresh (fun _ => none) Empty.elim "customer" statusDatabase
    (statusCalls [minuteTime]) rfl
  intro next _
  apply And.intro ⟨statusRun_owned [minuteTime], statusRun_orderly⟩
  intro final _
  exact ⟨⟨trivial, trivial⟩, trivial⟩

/-- The status is read off a source of the first minute, twice: two active facts are the same,
and what is loaded is older than two minutes. -/
theorem olderSource_unfresh :
    statusDatabase.summaries = [] ∧
      Run.EveryStep (perform (fun _ => none) Empty.elim)
        (fun database call _ => OfCustomer "customer" database call) statusDatabase
        (statusCalls [AttemptedActions.firstInstant, AttemptedActions.firstInstant]) ∧
      ¬Run.EveryStep (perform (fun _ => none) Empty.elim)
        (fun database call _ => LeavesFresh database call) statusDatabase
        (statusCalls [AttemptedActions.firstInstant, AttemptedActions.firstInstant]) ∧
      ¬Run.EveryStep (perform (fun _ => none) Empty.elim)
        (fun _ _ next => ActiveAlone "customer" next) statusDatabase
        (statusCalls [AttemptedActions.firstInstant, AttemptedActions.firstInstant]) := by
  have performed := perform_statusRun [AttemptedActions.firstInstant, AttemptedActions.firstInstant]
  apply And.intro rfl
  apply And.intro
  · intro next _
    apply And.intro (statusRun_owned _)
    intro final _
    exact ⟨trivial, trivial⟩
  apply And.intro
  · intro every
    have fresh := ((every _ performed).2 _ rfl).1
    have loaded : (loadedStatus [AttemptedActions.firstInstant,
        AttemptedActions.firstInstant]).map (fun fact => (fact.factType, fact.status,
          fact.freshnessPolicy, match fact.observedAt with
            | .read time => time.microseconds
            | .effective _ => 1)) =
        [("check_service_status", .active, "service_incident_2m", 0),
          ("check_service_status", .active, "service_incident_2m", 0)] := by decide
    have present : loadedStatus [AttemptedActions.firstInstant,
        AttemptedActions.firstInstant] ≠ [] := by
      intro none
      rw [none] at loaded
      cases loaded
    rcases List.exists_mem_of_ne_nil _ present with ⟨fact, member⟩
    have listed := List.mem_map_of_mem (f := fun fact : MemoryFact => (fact.factType, fact.status,
      fact.freshnessPolicy, match fact.observedAt with
        | .read time => time.microseconds
        | .effective _ => 1)) member
    rw [loaded] at listed
    have known : (fact.factType, fact.status, fact.freshnessPolicy, match fact.observedAt with
        | .read time => time.microseconds
        | .effective _ => 1) =
          ("check_service_status", FactStatus.active, "service_incident_2m", 0) := by
      simpa using listed
    simp only [Prod.mk.injEq] at known
    rcases known with ⟨type, active, policyText, time⟩
    rcases List.mem_flatMap.mp member with ⟨summary, selected, among⟩
    rcases fresh summary selected fact among (by rw [type]; decide) active with
      ⟨observed, policy, recorded, named, later⟩
    rw [recorded] at time
    rw [policyText] at named
    have lifetime : policy.lifetime = 120000000 := by
      cases policy
      case serviceIncident => rfl
      all_goals exact absurd named (by decide)
    rw [lifetime] at later
    dsimp only at later time
    omega
  · intro every
    have twice : ¬ActiveAlone "customer" (rememberedStatus [AttemptedActions.firstInstant,
        AttemptedActions.firstInstant]) := by
      rw [ActiveAlone]
      decide
    exact twice (every _ performed).1

end MemoryService

end SupportGuard
