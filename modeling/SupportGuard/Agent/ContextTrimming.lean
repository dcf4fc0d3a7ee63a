import SupportGuard.Agent.ContextAccounting
import SupportGuard.Foundation.JsonSize

/-! # Trimming a packet

The history is taken away from its end until the packet fits. Whether that succeeds depends on
the items that keep the mark of the latest pair, and what goes first is what is newest. -/

namespace SupportGuard

open Foundation Fallible

namespace ContextAssembler

/-! ## The last section -/

def isProtected (value : JsonMembers) : Bool :=
  value.value "retention" = .string "latest_pair"

def packetBudget (budget : ContextBudget) (request : ContextRequest) : Int :=
  budget.maxInputTokens - budget.outputReserve - protocolTokens request

/-- Whether the packet with this history fits. -/
def fitsPacket (budget : ContextBudget) (request : ContextRequest)
    (observations evidence history : List JsonMembers) : Bool :=
  (countTokens (.object (packet request observations evidence history)) : Int) ≤
    packetBudget budget request

/-- The sections before trimming. -/
structure Assembles (str : Json → String) (budget : ContextBudget) (request : ContextRequest)
    (observations evidence selected : List JsonMembers) : Prop where
  room : 0 < packetBudget budget request ∧
    (countTokens (.object (mandatory request)) : Int) ≤ packetBudget budget request
  observations : ∃ omitted, fitList budget.toolTokens "latest_observations" true 0 []
    request.latestObservations = .ok (observations, omitted)
  evidence : ∃ omitted, fitList budget.evidenceTokens "retrieved_evidence" true 0 []
    request.evidence = .ok (evidence, omitted)
  history : ∃ omitted,
    fitHistory str request.history budget.historyTokens = .ok (selected, omitted)

def trimHistory (budget : ContextBudget) (request : ContextRequest)
    (observations evidence selected : List JsonMembers) :
    Option (List JsonMembers × List JsonMembers) :=
  Selection.trim (fitsPacket budget request observations evidence)
    (fun value => !isProtected value) selected.length selected

section

variable {str : Json → String} {budget : ContextBudget} {request : ContextRequest}
  {observations evidence selected : List JsonMembers}

theorem countTokens_mono {left right : Json} (shorter : JsonText.size left ≤ JsonText.size right) :
    countTokens left ≤ countTokens right := by
  have bytes : (JsonText.utf8 (JsonText.encode left)).length ≤
    (JsonText.utf8 (JsonText.encode right)).length := shorter
  unfold countTokens
  omega

/-- With less history the packet still fits. -/
theorem fitsPacket_mono (part whole : List JsonMembers) (sublist : part.Sublist whole)
    (fits : fitsPacket budget request observations evidence whole = true) :
    fitsPacket budget request observations evidence part = true := by
  have sizes : JsonText.size (listed part) ≤ JsonText.size (listed whole) :=
    JsonText.size_array_le (sublist.map Json.object)
  have shape (history : List JsonMembers) : packet request observations evidence history =
      (mandatory request ++ [("latest_observations", listed observations),
        ("retrieved_evidence", listed evidence)]) ++ [("relevant_history", listed history)] := by
    simp [packet]
  have packets := JsonText.size_object_append_le
    (mandatory request ++ [("latest_observations", listed observations),
      ("retrieved_evidence", listed evidence)]) "relevant_history" sizes
  rw [← shape, ← shape] at packets
  have tokens := countTokens_mono packets
  have enough := of_decide_eq_true fits
  apply decide_eq_true
  omega

theorem trimHistory_eq : trimHistory budget request observations evidence selected =
    Selection.trim
      (fun history => (countTokens (.object
        (packet request observations evidence history)) : Int) ≤
          budget.maxInputTokens - budget.outputReserve - protocolTokens request)
      (fun value => value.value "retention" ≠ .string "latest_pair") selected.length
      selected := by
  unfold trimHistory fitsPacket packetBudget isProtected
  simp only [ne_eq, decide_not]

theorem Assembles.returns_iff
    (ran : Assembles str budget request observations evidence selected)
    (reserve : 0 ≤ budget.outputReserve) :
    (∃ assembled, assemble str budget request = .ok assembled) ↔
      (trimHistory budget request observations evidence selected).isSome = true := by
  rcases ran.observations with ⟨omittedObservations, observed⟩
  rcases ran.evidence with ⟨omittedEvidence, evident⟩
  rcases ran.history with ⟨omittedHistory, fitted⟩
  have room : ¬(budget.maxInputTokens - budget.outputReserve - protocolTokens request ≤ 0 ∨
      budget.maxInputTokens - budget.outputReserve - protocolTokens request <
        countTokens (.object (mandatory request))) := by
    have mandatoryFits := ran.room
    unfold packetBudget at mandatoryFits
    omega
  rw [trimHistory_eq]
  unfold assemble
  dsimp only
  rw [if_neg room]
  simp only [observed, evident, fitted, bind, Except.bind]
  generalize trimming : Selection.trim (fun history => decide ((countTokens (.object
    (packet request observations evidence history)) : Int) ≤
      budget.maxInputTokens - budget.outputReserve - protocolTokens request))
    (fun value => decide (value.value "retention" ≠ .string "latest_pair")) selected.length
    selected = trimmed
  cases trimmed with
  | none => simp
  | some pair =>
      have fits := of_decide_eq_true (Selection.trim_spec trimming).fits
      dsimp only
      rw [if_neg (by push_cast; omega)]
      simp

/-! ## Histories that can be read -/

/-- Lists and dictionaries have no hash. -/
def isHashable : Json → Bool
  | .array _ | .object _ => false
  | _ => true

/-- What a history has to be: its messages carry identifiers, those with one identifier have
one role and one content, and their roles have a hash. -/
structure Identified (str : Json → String) (expanded : List JsonMembers) : Prop where
  ids : ∀ value ∈ expanded, isMessage value = true → (value.lookup "message_id").isSome = true
  contents : ∀ left ∈ expanded, ∀ right ∈ expanded,
    isMessage left = true → isMessage right = true →
    ∀ leftId ∈ left.lookup "message_id", ∀ rightId ∈ right.lookup "message_id",
    str leftId = str rightId → left.value "role" = right.value "role" ∧
      (left.lookup "content").elim "" str = (right.lookup "content").elim "" str
  roles : ∀ value ∈ expanded, isMessage value = true → isHashable (value.value "role") = true

/-- The latest pair of a history, with its marks. -/
def latestPair (str : Json → String) (history : List JsonMembers) :
    Except ContextRaise (List JsonMembers) := do
  let (normalized, _) ← normalizeHistory str history
  let values := normalized.map unmarked
  let pairIndices ← latestPairIndices values
  .ok (((marked pairIndices values).zipIdx.filter fun item => item.2 ∈ pairIndices).map Prod.fst)

/-- A history whose section has been fitted has been searched for its latest pair. -/
theorem latestPair_of_fitHistory {history selected : List JsonMembers} {omitted : List Omission}
    {tokenBudget : Int} (fitted : fitHistory str history tokenBudget = .ok (selected, omitted)) :
    ∃ pair, latestPair str history = .ok pair := by
  rcases bind_eq_ok_iff.mp fitted with ⟨⟨normalized, duplicates⟩, normalization, fitted⟩
  simp only [latestPair, normalization, bind, Except.bind]
  dsimp only at fitted
  split at fitted
  · rename_i empty
    rw [empty]
    exact ⟨_, rfl⟩
  · rcases bind_eq_ok_iff.mp fitted with ⟨section_, normalFitted, _⟩
    rw [fitNormalized] at normalFitted
    rcases bind_eq_ok_iff.mp normalFitted with ⟨pairIndices, found, _⟩
    simp only [found]
    exact ⟨_, rfl⟩

theorem assemble_fitHistory {assembled : AssembledContext}
    (returned : assemble str budget request = .ok assembled) :
    ∃ selected omitted,
      fitHistory str request.history budget.historyTokens = .ok (selected, omitted) := by
  rw [assemble] at returned
  dsimp only at returned
  split at returned
  · cases returned
  · rcases bind_eq_ok_iff.mp returned with ⟨_, _, returned⟩
    rcases bind_eq_ok_iff.mp returned with ⟨_, _, returned⟩
    rcases bind_eq_ok_iff.mp returned with ⟨⟨selected, omitted⟩, fitted, _⟩
    exact ⟨selected, omitted, fitted⟩

theorem fitHistory_returns {history pair : List JsonMembers} {tokenBudget : Int}
    (paired : latestPair str history = .ok pair)
    (fits : ((pair.map itemTokens).sum : Int) ≤ tokenBudget) :
    ∃ selected omitted, fitHistory str history tokenBudget = .ok (selected, omitted) := by
  rcases bind_eq_ok_iff.mp paired with ⟨⟨normalized, duplicates⟩, normalization, paired⟩
  rcases bind_eq_ok_iff.mp paired with ⟨pairIndices, found, paired⟩
  cases paired
  simp only [fitHistory, normalization, bind, Except.bind]
  split
  · exact ⟨_, _, rfl⟩
  · simp only [fitNormalized, found, bind, Except.bind]
    rw [List.map_map] at fits
    rw [if_neg (by simpa [Function.comp_def] using fits)]
    exact ⟨_, _, rfl⟩

/-! ## When a context is assembled -/

theorem trimHistory_isSome_iff (selected : List JsonMembers) :
    (trimHistory budget request observations evidence selected).isSome = true ↔
      fitsPacket budget request observations evidence (selected.filter isProtected) = true := by
  rw [trimHistory, Selection.trim_isSome_iff (Nat.le_refl _) fitsPacket_mono]
  simp only [Bool.not_not]

/-- With sections that fit, a context is assembled where the selected items that keep the mark
of the latest pair fit the packet. -/
theorem assemble_returns_of_fits {pair : List JsonMembers} (reserve : 0 ≤ budget.outputReserve)
    (room : 0 < packetBudget budget request ∧
      (countTokens (.object (mandatory request)) : Int) ≤ packetBudget budget request)
    (observed : ∃ omitted, fitList budget.toolTokens "latest_observations" true 0 []
      request.latestObservations = .ok (observations, omitted))
    (evident : ∃ omitted, fitList budget.evidenceTokens "retrieved_evidence" true 0 []
      request.evidence = .ok (evidence, omitted))
    (paired : latestPair str request.history = .ok pair)
    (pairFits : ((pair.map itemTokens).sum : Int) ≤ budget.historyTokens)
    (fits : ∀ selected omitted,
      fitHistory str request.history budget.historyTokens = .ok (selected, omitted) →
      fitsPacket budget request observations evidence (selected.filter isProtected) = true) :
    ∃ assembled, assemble str budget request = .ok assembled := by
  rcases fitHistory_returns paired pairFits with ⟨selected, omitted, fitted⟩
  have ran : Assembles str budget request observations evidence selected :=
    ⟨room, observed, evident, omitted, fitted⟩
  exact (ran.returns_iff reserve).mpr
    ((trimHistory_isSome_iff selected).mpr (fits selected omitted fitted))

def smallContext (history : List JsonMembers) : ContextRequest where
  runId := "run"
  stepIndex := 1
  userGoal := "refund"
  trustedTaskState := []
  tools := []
  latestObservations := []
  evidence := []
  history
  remainingBudget := []

def smallBudget (maxInputTokens : Int) : ContextBudget where
  maxInputTokens
  outputReserve := 0
  version := "context"

def latestMessages : List JsonMembers :=
  [sampleMessage "m2" "customer" "where", sampleMessage "m3" "assistant" "here"]

/-- The summary of a ticket with the mark of the latest pair. -/
def markedSummary : JsonMembers :=
  [("summary_id", .string "s1"), ("retention", .string "latest_pair"),
    ("summary", .string "the ticket was about a refund")]

def expandedSummary : List JsonMembers :=
  ((expandHistory Json.toStr (markedSummary :: latestMessages)).toOption.getD [])

theorem identified_expandedSummary : Identified Json.toStr expandedSummary where
  ids := by decide +kernel
  contents := by decide +kernel
  roles := by decide +kernel

theorem expandHistory_markedSummary :
    ((expandHistory Json.toStr (markedSummary :: latestMessages)).toOption.any fun expanded =>
      expanded = expandedSummary) = true := by
  decide +kernel

theorem latestPair_markedSummary :
    ((latestPair Json.toStr (markedSummary :: latestMessages)).toOption.any fun pair =>
      (((pair.map itemTokens).sum : Nat) : Int) ≤ (smallBudget 220).historyTokens &&
        fitsPacket (smallBudget 220) (smallContext (markedSummary :: latestMessages)) [] []
          pair) = true := by
  decide +kernel

def unprotectedMessage (value : JsonMembers) : Bool :=
  isMessage value && !isProtected value

/-- No unprotected message goes while an older one stays. -/
def OldestFirst (items history removed : List JsonMembers) : Prop :=
  ∀ earlier message, [earlier, message].Sublist items → unprotectedMessage earlier = true →
    unprotectedMessage message = true → message ∈ removed → earlier ∉ history

/-- The history with everything behind a place taken away that is not protected. -/
def cutHistory (before after : List JsonMembers) : List JsonMembers :=
  Selection.cut (fun value => !isProtected value) before after

/-- What an assembled context is made of. -/
theorem assemble_trims {assembled : AssembledContext}
    (returned : assemble str budget request = .ok assembled) :
    ∃ observations evidence selected history removed members others,
      Assembles str budget request observations evidence selected ∧
      trimHistory budget request observations evidence selected = some (history, removed) ∧
      PacketOf request observations evidence history assembled members ∧
      assembled.manifest.omitted = others ++
        removed.map fun value => historyOmission str value (globalReason value) := by
  rw [assemble] at returned
  dsimp only at returned
  split at returned
  · cases returned
  rename_i room
  rcases bind_eq_ok_iff.mp returned with ⟨⟨observations, omittedObservations⟩, observed, returned⟩
  rcases bind_eq_ok_iff.mp returned with ⟨⟨evidence, omittedEvidence⟩, evident, returned⟩
  rcases bind_eq_ok_iff.mp returned with ⟨⟨selected, omittedHistory⟩, fitted, returned⟩
  dsimp only at returned
  split at returned
  · cases returned
  rename_i history removed trimming
  split at returned
  · cases returned
  cases returned
  have mandatoryFits : 0 < packetBudget budget request ∧
      (countTokens (.object (mandatory request)) : Int) ≤ packetBudget budget request := by
    unfold packetBudget
    omega
  have trimmed : trimHistory budget request observations evidence selected =
      some (history, removed) := by
    rw [trimHistory_eq]
    exact trimming
  exact ⟨observations, evidence, selected, history, removed, _, _,
    ⟨mandatoryFits, ⟨_, observed⟩, ⟨_, evident⟩, ⟨_, fitted⟩⟩, trimmed,
    ⟨rfl, rfl, rfl, rfl, rfl, rfl⟩, rfl⟩

/-- Older messages go first just when no unprotected message has to go, or none of them can
stay: the loop takes away what is newest. -/
theorem assemble_oldestFirst_iff {assembled : AssembledContext}
    (returned : assemble str budget request = .ok assembled) :
    ∃ observations evidence items selected history removed members others,
      Assembles str budget request observations evidence selected ∧
      markedHistory str request.history = .ok items ∧
      trimHistory budget request observations evidence selected = some (history, removed) ∧
      PacketOf request observations evidence history assembled members ∧
      (assembled.manifest.omitted = others ++
        removed.map fun value => historyOmission str value (globalReason value)) ∧
      (OldestFirst items history removed ↔
        (∃ before after, selected = before ++ after ∧
          (∀ value ∈ after, unprotectedMessage value = false) ∧
          fitsPacket budget request observations evidence (cutHistory before after) = true) ∨
        ∀ before after, selected = before ++ after →
          (∃ value ∈ before, unprotectedMessage value = true) →
          fitsPacket budget request observations evidence (cutHistory before after) = false) := by
  rcases assemble_trims returned with
    ⟨observations, evidence, selected, history, removed, members, others, ran, trimmed, packed,
      recorded⟩
  rcases ran.history with ⟨omittedHistory, fitted⟩
  rcases fitHistory_spec fitted with ⟨_, _, items, _, _, _, marks, _, _, section_⟩
  refine ⟨observations, evidence, items, selected, history, removed, members, others, ran, marks,
    trimmed, packed, recorded, ?_⟩
  rcases Selection.trim_cutAt trimmed with ⟨front, back, at_⟩
  have rest := Selection.trim_spec trimmed
  have may (value : JsonMembers) (chosen : unprotectedMessage value = true) :
      (!isProtected value) = true :=
    (Bool.and_eq_true_iff.mp chosen).2
  have distinct : items.Nodup := section_.distinct.of_map _
  apply Iff.trans _ (at_.ordered_iff rest.fits may)
  constructor
  · intro oldest earlier message pair
    exact oldest earlier message (pair.trans section_.part)
  · intro oldest earlier message pair chosenEarlier chosen gone stays
    have inSection : [earlier, message].Sublist selected := by
      apply Selection.pair_sublist_of_part section_.part distinct pair
      · exact rest.part.subset stays
      · exact rest.whole.subset (List.mem_append_right _ gone)
    exact oldest earlier message inSection chosenEarlier chosen gone stays

end

/-! Two messages before the latest ones, and room for one of them. -/

def olderMessage : JsonMembers :=
  sampleMessage "m0" "customer" "why" ++ [("historical", .bool true), ("trusted", .bool false)]

def newerMessage : JsonMembers :=
  sampleMessage "m1" "assistant" "soon" ++ [("historical", .bool true), ("trusted", .bool false)]

def fourMessages : List JsonMembers :=
  olderMessage :: newerMessage :: latestMessages

theorem assemble_fourMessages :
    ((assemble Json.toStr (smallBudget 232) (smallContext fourMessages)).toOption.any
      fun _ => true) = true := by
  decide +kernel

theorem markedHistory_fourMessages :
    ((markedHistory Json.toStr fourMessages).toOption.any fun items =>
      items.take 2 = [olderMessage, newerMessage]) = true := by
  decide +kernel

theorem trimHistory_fourMessages :
    ((fitHistory Json.toStr fourMessages 800).toOption.any fun fitted =>
      (trimHistory (smallBudget 232) (smallContext fourMessages) [] [] fitted.1).any fun pair =>
        olderMessage ∈ pair.1 && pair.2 = [newerMessage]) = true := by
  decide +kernel

/-- The older message stays, and the newer one goes. -/
theorem assemble_keeps_older :
    ∃ assembled items history removed members,
      assemble Json.toStr (smallBudget 232) (smallContext fourMessages) = .ok assembled ∧
      markedHistory Json.toStr fourMessages = .ok items ∧
      PacketOf (smallContext fourMessages) [] [] history assembled members ∧
      historyOmission Json.toStr newerMessage "global_input_budget_message" ∈
        assembled.manifest.omitted ∧
      newerMessage ∈ removed ∧ olderMessage ∈ history ∧
      ¬OldestFirst items history removed := by
  rcases ok_of_any assemble_fourMessages with ⟨assembled, returned, _⟩
  rcases ok_of_any markedHistory_fourMessages with ⟨items, marks, first⟩
  rcases ok_of_any trimHistory_fourMessages with ⟨fitted, section_, ends⟩
  rcases assemble_trims returned with
    ⟨observations, evidence, selected, history, removed, members, others, ran, trimmed, packed,
      recorded⟩
  have noObservations : observations = [] := by
    rcases ran.observations with ⟨omitted, observed⟩
    cases observed
    rfl
  have noEvidence : evidence = [] := by
    rcases ran.evidence with ⟨omitted, evident⟩
    cases evident
    rfl
  rcases ran.history with ⟨omitted, sectionAgain⟩
  have same : fitted = (selected, omitted) := by
    have both := section_.symm.trans sectionAgain
    exact Except.ok.inj both
  subst noObservations noEvidence same
  rw [trimmed, Option.any_some, Bool.and_eq_true_iff] at ends
  have stays := of_decide_eq_true ends.1
  have goes : removed = [newerMessage] := of_decide_eq_true ends.2
  subst goes
  refine ⟨assembled, items, history, [newerMessage], members, returned, marks, packed, ?_,
    List.mem_singleton_self _, stays, ?_⟩
  · rw [recorded]
    apply List.mem_append_right
    exact List.mem_singleton_self _
  · intro oldest
    have pair : [olderMessage, newerMessage].Sublist items := by
      rw [← of_decide_eq_true first]
      exact List.take_sublist 2 items
    exact oldest olderMessage newerMessage pair (by decide) (by decide)
      (List.mem_singleton_self _) stays

theorem assemble_oldestFirst_iff_fourMessages :
    ∃ assembled observations evidence items selected history removed,
      assemble Json.toStr (smallBudget 232) (smallContext fourMessages) = .ok assembled ∧
      markedHistory Json.toStr fourMessages = .ok items ∧
      trimHistory (smallBudget 232) (smallContext fourMessages) observations evidence selected =
        some (history, removed) ∧
      (OldestFirst items history removed ↔
        (∃ before after, selected = before ++ after ∧
          (∀ value ∈ after, unprotectedMessage value = false) ∧
          fitsPacket (smallBudget 232) (smallContext fourMessages) observations evidence
            (cutHistory before after) = true) ∨
        ∀ before after, selected = before ++ after →
          (∃ value ∈ before, unprotectedMessage value = true) →
          fitsPacket (smallBudget 232) (smallContext fourMessages) observations evidence
            (cutHistory before after) = false) := by
  rcases ok_of_any assemble_fourMessages with ⟨assembled, returned, _⟩
  rcases assemble_oldestFirst_iff returned with
    ⟨observations, evidence, items, selected, history, removed, members, others, _, marks,
      trimmed, _, _, ordered⟩
  exact ⟨assembled, observations, evidence, items, selected, history, removed, returned, marks,
    trimmed, ordered⟩

end ContextAssembler

end SupportGuard
