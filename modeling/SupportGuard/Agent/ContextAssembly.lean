import SupportGuard.Agent.ProposalAssembler
import SupportGuard.Foundation.Selection

/-! # Assembling the context of a decision

`agent/context.py`: `ContextAssembler`, which packs the goal, the trusted state, the
observations, the evidence and the history of a conversation into one text of bounded size,
with a manifest of what it holds and of what was left out. -/

namespace SupportGuard

open Foundation

namespace ContextAssembler

inductive ContextRaise
  | contextBudgetExceeded (message : String)
  | typeError
  | keyError
deriving DecidableEq

structure ContextBudget where
  maxInputTokens : Int := 8000
  evidenceTokens : Int := 3400
  toolTokens : Int := 1800
  historyTokens : Int := 800
  outputReserve : Int := 1200
  version : String

inductive TrustClass
  | policy
  | trustedState
  | untrustedData
deriving DecidableEq

structure ContextSectionManifest where
  name : String
  trustClass : TrustClass
  sourceRefs : List String
  contentHash : String
  canonicalLineageHash : Option String := none
  tokenCount : Nat

/-- A record of something that was left out. -/
abbrev Omission : Type :=
  List (String × String)

structure ContextPacketManifest where
  runId : String
  stepIndex : Int
  node : String
  contextAssemblyVersion : String
  maxInputTokens : Int
  inputBudget : Int
  outputReserve : Int
  sections : List ContextSectionManifest
  visibleToolSchemaHash : String
  omitted : List Omission
  totalInputTokens : Nat
  priorTurnTokens : Nat

structure AssembledContext where
  content : List Char
  manifest : ContextPacketManifest

structure ContextRequest where
  runId : String
  stepIndex : Int
  userGoal : String
  trustedTaskState : JsonMembers
  tools : List JsonMembers
  latestObservations : List JsonMembers
  evidence : List JsonMembers
  evidenceLineage : Option (List JsonMembers) := none
  history : List JsonMembers
  remainingBudget : List (String × Int)
  priorTurns : Option (List JsonMembers) := none

def countTokens (value : Json) : Nat :=
  max 1 (((JsonText.utf8 (JsonText.encode value)).length + 2) / 3)

def contextHash (value : Json) : String :=
  Sha256.hexDigest (JsonText.utf8 (JsonText.encode value))

/-- A list of dictionaries as one value. -/
def listed (values : List JsonMembers) : Json :=
  .array (values.map .object)

/-! ## Dictionaries of the history -/

/-- `dict.setdefault`. -/
def setDefault (members : JsonMembers) (key : String) (value : Json) : JsonMembers :=
  match members.lookup key with
  | some _ => members
  | none => members ++ [(key, value)]

/-- `dict.pop` with a default. -/
def remove (members : JsonMembers) (key : String) : JsonMembers :=
  members.filter fun member => member.1 ≠ key

def isMessage (value : JsonMembers) : Bool :=
  value.value "history_kind" = .string "message"

/-- Membership of a value in a set of texts. Lists and dictionaries have no hash. -/
def inTexts (texts : List String) : Json → Except ContextRaise Bool
  | .string text => .ok (text ∈ texts)
  | .array _ | .object _ => .error .typeError
  | _ => .ok false

section

-- Python's `str`.
variable (str : Json → String)

/-- The first value that is true, as a text. -/
def firstText (value : JsonMembers) (keys : List String) (default : String) : String :=
  match (keys.map value.value).find? Json.truthy with
  | some found => str found
  | none => default

/-- `_history_omission`. -/
def historyOmission (value : JsonMembers) (reason : String) : Omission :=
  let historyKind := firstText str value ["history_kind"] "history_item"
  let omission :=
    [("section", "relevant_history"), ("history_kind", historyKind), ("reason", reason)]
  if historyKind = "message" then
    omission ++ [("message_id",
      firstText str value ["message_id", "history_item_id"] "message-unknown")]
  else if historyKind = "ticket_summary" then
    omission ++ [("summary_id",
      firstText str value ["summary_id", "history_item_id", "ticket_id"] "summary-unknown")]
  else
    omission ++ [("history_item_id",
      firstText str value ["history_item_id", "message_id", "summary_id", "ticket_id"]
        "history-item-unknown")]

/-! ## Expansion -/

/-- A message without an identifier gets one. -/
def identify (message : JsonMembers) (id : String) : JsonMembers :=
  if (message.value "message_id").truthy then message
  else assign (assign message "message_id" (.string id)) "synthetic_message_id" (.bool true)

/-- One of the messages of a legacy wrapper. -/
def expandMessage (outerIndex nestedIndex : Nat) (item : JsonMembers) : JsonMembers :=
  let message := setDefault item "history_kind" (.string "message")
  let message := setDefault message "legacy_checkpoint" (.bool true)
  let message := identify message
    ("legacy-checkpoint-history-" ++ toString outerIndex ++ "-" ++ toString nestedIndex)
  let message := setDefault message "historical" (.bool true)
  setDefault message "trusted" (.bool false)

/-- What a legacy wrapper says beside its messages. -/
def expandRemainder (outerIndex : Nat) (value : JsonMembers) : List JsonMembers :=
  match remove value "current_conversation_recent_messages" with
  | [] => []
  | remainder =>
      let remainder := setDefault remainder "history_kind" (.string "legacy_summary")
      [setDefault remainder "history_item_id"
        (.string ("legacy-summary-" ++ toString outerIndex))]

def expandWrapper (outerIndex : Nat) (value : JsonMembers) (nested : List Json) :
    List JsonMembers :=
  (nested.zipIdx.filterMap fun (item, nestedIndex) => match item with
    | .object members => some (expandMessage outerIndex nestedIndex members)
    | _ => none) ++ expandRemainder outerIndex value

def isPlainMessage (item : JsonMembers) : Except ContextRaise Bool := do
  if isMessage item then .ok true
  else
    let spoken ← inTexts ["customer", "user", "assistant", "action"] (item.value "role")
    .ok (spoken && (item.lookup "content").isSome)

def expandPlain (outerIndex : Nat) (value : JsonMembers) :
    Except ContextRaise JsonMembers := do
  if ← isPlainMessage value then
    let item : JsonMembers := assign value "history_kind" (.string "message")
    if !(item.value "message_id").truthy && item.value "legacy_checkpoint" ≠ .bool true then
      .error (.contextBudgetExceeded "history message is missing canonical message_id")
    else
      let item := identify item ("legacy-checkpoint-history-" ++ toString outerIndex)
      let item := setDefault item "historical" (.bool true)
      .ok (setDefault item "trusted" (.bool false))
  else
    let item := setDefault value "history_kind" (.string "ticket_summary")
    .ok (setDefault item "history_item_id" (.string (firstText str item
      ["summary_id", "ticket_id"] ("history-summary-" ++ toString outerIndex))))

def expandItem (value : JsonMembers) (outerIndex : Nat) :
    Except ContextRaise (List JsonMembers) :=
  match value.value "current_conversation_recent_messages" with
  | .array nested => .ok (expandWrapper outerIndex value nested)
  | _ => (expandPlain str outerIndex value).map ([·])

def expandHistory (values : List JsonMembers) : Except ContextRaise (List JsonMembers) :=
  (values.zipIdx.mapM fun (value, outerIndex) => expandItem str value outerIndex).map
    List.flatten

/-! ## Duplicates -/

/-- What has been read so far: the items that are kept, and by which they are known. -/
structure HistoryScan where
  normalized : List JsonMembers := []
  seenMessageIds : List (String × String) := []
  seenOtherHashes : List String := []
  omitted : List Omission := []

def identityHash (value : JsonMembers) : String :=
  contextHash (.object [("role", value.value "role"),
    ("content", .string ((value.lookup "content").elim "" str))])

def scanItem (scan : HistoryScan) (value : JsonMembers) : Except ContextRaise HistoryScan :=
  if isMessage value then
    match value.lookup "message_id" with
    | none => .error .keyError
    | some messageId =>
        match scan.seenMessageIds.lookup (str messageId) with
        | some existingHash =>
            if existingHash ≠ identityHash str value then
              .error (.contextBudgetExceeded
                ("history message identity conflict: " ++ str messageId))
            else
              .ok { scan with
                omitted := scan.omitted ++
                  [historyOmission str value "duplicate_history_message_id"] }
        | none =>
            .ok { scan with
              normalized := scan.normalized ++ [value]
              seenMessageIds :=
                scan.seenMessageIds ++ [(str messageId, identityHash str value)] }
  else if contextHash (.object value) ∈ scan.seenOtherHashes then
    .ok { scan with
      omitted := scan.omitted ++ [historyOmission str value "duplicate_history_summary"] }
  else
    .ok { scan with
      normalized := scan.normalized ++ [value]
      seenOtherHashes := scan.seenOtherHashes ++ [contextHash (.object value)] }

/-- `_normalize_history`. -/
def normalizeHistory (values : List JsonMembers) :
    Except ContextRaise (List JsonMembers × List Omission) := do
  let expanded ← expandHistory str values
  let scan ← expanded.foldlM (scanItem str) {}
  .ok (scan.normalized, scan.omitted)

/-! ## The latest pair -/

/-- The last message below a position that one of the roles has spoken. -/
def lastSpoken (roles : List String) (values : List JsonMembers) :
    Nat → Except ContextRaise (Option Nat)
  | 0 => .ok none
  | index + 1 => do
      let value := values.getD index []
      if isMessage value then
        if ← inTexts roles (value.value "role") then .ok (some index)
        else lastSpoken roles values index
      else lastSpoken roles values index

/-- `_latest_pair_indices`. -/
def latestPairIndices (values : List JsonMembers) : Except ContextRaise (List Nat) := do
  match ← lastSpoken ["assistant", "action"] values values.length with
  | none => match ← lastSpoken ["customer", "user"] values values.length with
      | none => .ok []
      | some customerIndex => .ok [customerIndex]
  | some responseIndex => match ← lastSpoken ["customer", "user"] values responseIndex with
      | none => .ok [responseIndex]
      | some customerIndex => .ok [customerIndex, responseIndex]

/-- The mark of a message is not taken from the history. -/
def unmarked (value : JsonMembers) : JsonMembers :=
  if isMessage value then remove value "retention" else value

def marked (pairIndices : List Nat) (values : List JsonMembers) : List JsonMembers :=
  values.zipIdx.map fun (value, index) =>
    if index ∈ pairIndices then assign value "retention" (.string "latest_pair") else value

/-! ## The section of the history -/

def isCurrentSummary (value : JsonMembers) : Bool :=
  value.value "history_kind" = .string "ticket_summary" &&
    value.value "current_ticket" = .bool true

/-- The items outside the protected pair, in the order in which they are considered. -/
def candidates (pairIndices : List Nat) (items : List (JsonMembers × Nat)) :
    List (JsonMembers × Nat) :=
  let others := items.filter fun item => item.2 ∉ pairIndices
  (others.filter fun item => isCurrentSummary item.1) ++
    (others.reverse.filter fun item => isMessage item.1) ++
    (others.reverse.filter fun item => !isMessage item.1 && !isCurrentSummary item.1)

def itemTokens (value : JsonMembers) : Nat :=
  countTokens (.object value)

def sectionReason (value : JsonMembers) : String :=
  if isMessage value then "history_section_budget_older_message"
  else "history_section_budget_summary"

def globalReason (value : JsonMembers) : String :=
  if isMessage value then "global_input_budget_message" else "global_input_budget_summary"

/-- `_fit_history` after normalisation. -/
def fitNormalized (tokenBudget : Int) (normalized : List JsonMembers) :
    Except ContextRaise (List JsonMembers × List Omission) := do
  let values := normalized.map unmarked
  let pairIndices ← latestPairIndices values
  let items := (marked pairIndices values).zipIdx
  let protectedCost := ((items.filter fun item => item.2 ∈ pairIndices).map
    fun item => itemTokens item.1).sum
  if tokenBudget < protectedCost then
    .error (.contextBudgetExceeded "protected recent history pair exceeds budget")
  else
    let (taken, passed) := Selection.fit (fun item => itemTokens item.1) tokenBudget protectedCost
      (candidates pairIndices items)
    let selectedIndices := pairIndices ++ taken.map Prod.snd
    .ok ((items.filter fun item => item.2 ∈ selectedIndices).map Prod.fst,
      passed.map fun item => historyOmission str item.1 (sectionReason item.1))

/-- `_fit_history`. -/
def fitHistory (values : List JsonMembers) (tokenBudget : Int) :
    Except ContextRaise (List JsonMembers × List Omission) := do
  let (normalized, duplicates) ← normalizeHistory str values
  if normalized = [] then .ok ([], duplicates)
  else
    let (selected, omitted) ← fitNormalized str tokenBudget normalized
    .ok (selected, duplicates ++ omitted)

end

/-! ## The other sections -/

/-- `_fit_list`, from what is used and seen so far. -/
def fitList (tokenBudget : Int) (sectionName : String) (isProtected : Bool) :
    Nat → List String → List JsonMembers →
      Except ContextRaise (List JsonMembers × List Omission)
  | _, _, [] => .ok ([], [])
  | used, seen, value :: rest =>
      if contextHash (.object value) ∈ seen then do
        let (selected, omitted) ← fitList tokenBudget sectionName isProtected used seen rest
        .ok (selected, [("section", sectionName), ("reason", "duplicate")] :: omitted)
      else if tokenBudget < used + itemTokens value then
        if isProtected then
          .error (.contextBudgetExceeded
            ("protected context section exceeds budget: " ++ sectionName))
        else do
          let (selected, omitted) ← fitList tokenBudget sectionName isProtected used seen rest
          .ok (selected, [("section", sectionName), ("reason", "section_budget")] :: omitted)
      else do
        let (selected, omitted) ← fitList tokenBudget sectionName isProtected
          (used + itemTokens value) (contextHash (.object value) :: seen) rest
        .ok (value :: selected, omitted)

/-! ## The packet -/

def stopConditions : Json :=
  .object [("max_tool_rounds", .integer 2), ("max_tool_attempts", .integer 6),
    ("duplicate_non_retry_call", .string "stop_no_progress"),
    ("write_tools", .string "never_model_visible")]

def mandatory (request : ContextRequest) : JsonMembers :=
  [("user_goal", .string request.userGoal),
    ("trusted_task_state", .object request.trustedTaskState),
    ("remaining_budget", .object (request.remainingBudget.map fun (name, count) =>
      (name, .integer count))),
    ("stop_conditions", stopConditions)]

def packet (request : ContextRequest) (observations evidence history : List JsonMembers) :
    JsonMembers :=
  mandatory request ++ [("latest_observations", listed observations),
    ("retrieved_evidence", listed evidence), ("relevant_history", listed history)]

def sectionSpecs : List (String × TrustClass × List String) :=
  [("user_goal", .untrustedData, ["ticket_message"]),
    ("trusted_task_state", .trustedState, ["agent_run"]),
    ("remaining_budget", .trustedState, ["agent_run"]),
    ("stop_conditions", .policy, ["runtime_policy"]),
    ("latest_observations", .untrustedData, ["mcp_observation"]),
    ("retrieved_evidence", .untrustedData, ["knowledge_chunk"]),
    ("relevant_history", .untrustedData, ["ticket_summary"])]

def sectionManifest (request : ContextRequest) (members : JsonMembers)
    (spec : String × TrustClass × List String) : ContextSectionManifest where
  name := spec.1
  trustClass := spec.2.1
  sourceRefs := spec.2.2
  contentHash := contextHash (members.value spec.1)
  canonicalLineageHash :=
    if spec.1 = "retrieved_evidence" then
      request.evidenceLineage.map fun lineage => contextHash (listed lineage)
    else none
  tokenCount := countTokens (members.value spec.1)

def protocolTokens (request : ContextRequest) : Nat :=
  countTokens (listed request.tools) + countTokens (listed (request.priorTurns.getD []))

/-- `ContextAssembler.assemble`. -/
def assemble (str : Json → String) (budget : ContextBudget) (request : ContextRequest) :
    Except ContextRaise AssembledContext := do
  let inputBudget := budget.maxInputTokens - budget.outputReserve
  let packetBudget := inputBudget - protocolTokens request
  if packetBudget ≤ 0 ∨ packetBudget < countTokens (.object (mandatory request)) then
    .error (.contextBudgetExceeded "mandatory context exceeds model input budget")
  else
    let (observations, omittedObservations) ← fitList budget.toolTokens "latest_observations"
      true 0 [] request.latestObservations
    let (evidence, omittedEvidence) ← fitList budget.evidenceTokens "retrieved_evidence" true
      0 [] request.evidence
    let (fitted, omittedHistory) ← fitHistory str request.history budget.historyTokens
    match Selection.trim
        (fun history => (countTokens (.object
          (packet request observations evidence history)) : Int) ≤ packetBudget)
        (fun value => value.value "retention" ≠ .string "latest_pair") fitted.length fitted with
    | none =>
        .error (.contextBudgetExceeded
          "protected current facts, policy evidence, or claim support cannot fit")
    | some (history, removed) =>
        let members := packet request observations evidence history
        let totalInputTokens := countTokens (.object members) + protocolTokens request
        if budget.maxInputTokens < totalInputTokens then
          .error (.contextBudgetExceeded "tool schemas and context exceed model input budget")
        else
          .ok
            { content := JsonText.encode (.object members)
              manifest :=
                { runId := request.runId
                  stepIndex := request.stepIndex
                  node := "agent_decide"
                  contextAssemblyVersion := budget.version
                  maxInputTokens := budget.maxInputTokens
                  inputBudget
                  outputReserve := budget.outputReserve
                  sections := sectionSpecs.map (sectionManifest request members)
                  visibleToolSchemaHash := contextHash (listed request.tools)
                  omitted := omittedObservations ++ omittedEvidence ++ omittedHistory ++
                    removed.map fun value => historyOmission str value (globalReason value)
                  totalInputTokens
                  priorTurnTokens := countTokens (listed (request.priorTurns.getD [])) } }

end ContextAssembler

end SupportGuard
