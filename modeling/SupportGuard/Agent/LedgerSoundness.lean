import SupportGuard.Agent.Obligations

/-! # What a ledger vouches for

A ledger that lets a run go on to synthesis or to a candidate has each obligation bound to
an observation of the run that passed every check, and no read of the run failed hard. -/

namespace SupportGuard

open Foundation Fallible

section

variable {contracts : LedgerContracts}

/-! ## Reads -/

/-- The reads of a run by one tool. -/
def runReads (observations : List JsonMembers) (runId toolName : String) : List JsonMembers :=
  observations.filter fun item =>
    (item.value "run_id").pyEq (.string runId) && (item.value "tool_name").pyEq (.string toolName)

variable {observations : List JsonMembers}

theorem mem_runReads {runId toolName : String} {item : JsonMembers}
    (read : item ∈ runReads observations runId toolName) :
    item ∈ observations ∧ item.value "run_id" = .string runId ∧
      item.value "tool_name" = .string toolName := by
  rcases List.mem_filter.mp read with ⟨member, fits⟩
  rw [Bool.and_eq_true] at fits
  exact ⟨member, Json.pyEq_string fits.1, Json.pyEq_string fits.2⟩

/-- The relevant observations are the reads of the run by the capability. -/
theorem mem_relevantObservations {observations reads : List JsonMembers}
    {runId capability : String} {item : JsonMembers}
    (found : relevantObservations contracts observations runId capability = .ok reads) :
    item ∈ reads ↔ item ∈ runReads observations runId capability := by
  simp only [relevantObservations, bind_eq_ok_iff, Except.ok.injEq] at found
  rcases found with ⟨ranked, mapped, rfl⟩
  have same : ranked.map Prod.snd = runReads observations runId capability := by
    have each := mapM_forall₂ mapped
    rw [← List.forall₂_eq_eq_eq, List.forall₂_map_left_iff]
    apply each.flip.imp
    intro pair read computed
    simp only [bind_eq_ok_iff, Except.ok.injEq] at computed
    rcases computed with ⟨rank, _, rfl⟩
    rfl
  rw [← same, List.mem_map, List.mem_map]
  simp only [List.mem_insertionSort]

/-- The observation is no hard failure: its scope is the admitted one or none, and neither its
status nor its error ends the run. -/
structure NoHardFailure (contracts : LedgerContracts) (admission : ActionAdmission)
    (observation : JsonMembers) : Prop where
  scope : observationScope contracts.toAssemblerContracts observation = ("", "", "") ∨
    observationScope contracts.toAssemblerContracts observation = admittedScope admission
  status : textAt contracts observation "status" "invalid_result" ∉
    ["timeout", "unavailable", "forbidden_tool"]
  scopeError : strOrEmpty contracts (observation.value "error_code") ∉ scopeErrorCodes
  forbiddenError : strOrEmpty contracts (observation.value "error_code") ∉ forbiddenErrorCodes
  retries : textContains "retry_exhausted"
    (strOrEmpty contracts (observation.value "error_code")) = false

variable {obligation : EvidenceObligationSpec} {admission : ActionAdmission}
  {observation : JsonMembers}

theorem hardTerminalEntry_none
    (passed : hardTerminalEntry contracts obligation admission observation = none) :
    NoHardFailure contracts admission observation := by
  unfold hardTerminalEntry at passed
  dsimp only at passed
  split at passed
  · cases passed
  · rename_i within
    split at passed
    · split at passed
      · cases passed
      · cases passed
    · rename_i soft
      simp only [not_or, Bool.not_eq_true] at soft
      rw [not_and_or, not_not, not_not] at within
      exact ⟨within, soft.1, soft.2.1, soft.2.2.1, soft.2.2.2⟩

/-- The members of a binding that repeat its observation. -/
structure BindingOf (contracts : LedgerContracts) (observation : JsonMembers)
    (binding : ObligationBinding) : Prop where
  toolName : binding.toolName = textAt contracts observation "tool_name" ""
  observationId : binding.observationId =
    if (observation.value "observation_id").truthy then
      contracts.str (observation.value "observation_id")
    else if (observation.value "id").truthy then contracts.str (observation.value "id")
    else textAt contracts observation "tool_call_id" ""
  contentHash : binding.observationContentHash =
    observedHash contracts.toAssemblerContracts observation
  version : observationVersion contracts observation = .ok binding.resourceVersion
  scope : (binding.tenantId, binding.customerId, binding.scopeHash) =
    observationScope contracts.toAssemblerContracts observation
  freshnessStatus : binding.freshnessStatus =
    textAt contracts observation "freshness_status" "unknown"
  freshUntil : binding.freshUntil =
    parseTime contracts.toAssemblerContracts (observation.value "fresh_until")
  sources : binding.sourceIds = sourceIds contracts.toAssemblerContracts observation

theorem baseBinding_ok {resourceId : Option String} {evidenceIds citationBindingIds : List String}
    {binding : ObligationBinding} (built : baseBinding contracts observation
      (observationScope contracts.toAssemblerContracts observation) resourceId evidenceIds
      citationBindingIds = .ok binding) :
    BindingOf contracts observation binding ∧ binding.resourceId = resourceId := by
  simp only [baseBinding, bind_eq_ok_iff, Except.ok.injEq] at built
  rcases built with ⟨version, observed, _, _, rfl⟩
  exact ⟨⟨rfl, rfl, rfl, observed, rfl, rfl, rfl, rfl⟩, rfl⟩

/-- An observation of the admission's scope that came back with sources, and the binding that
the ledger keeps of it. -/
structure ReadBound (contracts : LedgerContracts) (admission : ActionAdmission)
    (observation : JsonMembers) (resourceId : Option String) (binding : ObligationBinding) :
    Prop where
  status : observation.value "status" = .string "ok"
  scope : observationScope contracts.toAssemblerContracts observation = admittedScope admission
  sources : sourceIds contracts.toAssemblerContracts observation ≠ []
  bound : ∃ evidenceIds citationBindingIds, baseBinding contracts observation
    (observationScope contracts.toAssemblerContracts observation) resourceId evidenceIds
    citationBindingIds = .ok binding

/-! ## Entries that are not satisfied -/

theorem failureEntry_unqualified (obligation : EvidenceObligationSpec) (observation : JsonMembers) :
    ¬((failureEntry contracts obligation observation).status = .satisfied ∨
      (failureEntry contracts obligation observation).status = .readQualified) := by
  unfold failureEntry
  dsimp only
  split
  · simp [unboundEntry]
  · split
    · simp [unboundEntry]
    · simp [unboundEntry]

variable {entry : ObligationEntry}

theorem hardTerminalEntry_status
    (found : hardTerminalEntry contracts obligation admission observation = some entry) :
    entry.status = .failed := by
  unfold hardTerminalEntry at found
  dsimp only at found
  split at found
  · cases found
    rfl
  · split at found
    · split at found
      · rename_i failed
        cases found
        exact failed
      · cases found
        rfl
    · cases found

theorem firstTerminalRule_status {spec : ActionSpec} :
    ∀ {rules : List TerminalOutcomeRule},
      firstTerminalRule contracts spec obligation admission observation rules =
        .ok (some entry) → entry.status = .terminal
  | [], found => by cases found
  | rule :: rest, found => by
      simp only [firstTerminalRule] at found
      split at found
      · exact firstTerminalRule_status found
      · rcases bind_eq_ok_iff.mp found with ⟨matched, _, found⟩
        split at found
        · exact firstTerminalRule_status found
        · split at found
          · cases found
          · simp only [bind_eq_ok_iff, Except.ok.injEq, Option.some.injEq] at found
            rcases found with ⟨binding, _, rfl⟩
            rfl

variable {now : DateTime}

theorem firstTerminalOutcome_status {spec : ActionSpec} :
    ∀ {observations : List JsonMembers},
      firstTerminalOutcome contracts spec obligation admission now observations =
        .ok (some entry) → entry.status = .terminal
  | [], found => by cases found
  | observation :: rest, found => by
      simp only [firstTerminalOutcome, bind_eq_ok_iff] at found
      rcases found with ⟨outcome, computed, found⟩
      cases outcome with
      | some first =>
          cases found
          unfold terminalOutcomeEntry at computed
          split at computed
          · exact firstTerminalRule_status computed
          · cases computed
      | none => exact firstTerminalOutcome_status found

/-! ## Resources -/

/-- What an observation has to say of the resource of an obligation. -/
structure ResourceQualifies (contracts : LedgerContracts) (admission : ActionAdmission)
    (now : DateTime) (obligation : EvidenceObligationSpec) (observation data : JsonMembers) :
    Prop where
  fresh : obligation.requireFreshness = true → freshnessReason contracts now observation = none
  fields : ∀ field ∈ obligation.requiredDataFields, data.value field ≠ .null
  truthy : ∀ field ∈ obligation.requiredTruthyDataFields, (data.value field).truthy = true
  allowed : statusAllowed contracts obligation data = true
  identity : resourceIdentity contracts obligation data ≠ some ""
  refers : refersTo contracts obligation admission data = true

theorem resourceObservationEntry_qualified
    (computed : resourceObservationEntry contracts obligation admission now observation =
      .ok entry) (qualified : entry.status = .satisfied ∨ entry.status = .readQualified) :
    entry.obligationId = obligation.obligationId ∧ entry.kind = obligation.kind ∧
      ∃ binding, entry.binding = some binding ∧
        ReadBound contracts admission observation
          (resourceIdentity contracts obligation (observedData observation)) binding ∧
        ResourceQualifies contracts admission now obligation observation
          (observedData observation) := by
  unfold resourceObservationEntry at computed
  dsimp only at computed
  split at computed
  · cases computed
    exact absurd qualified (failureEntry_unqualified obligation observation)
  · rename_i ok
    split at computed
    · cases computed
      simp [unboundEntry] at qualified
    · rename_i within
      split at computed
      · cases computed
        simp [unboundEntry] at qualified
      · rename_i fresh
        split at computed
        · cases computed
          simp [unboundEntry] at qualified
        · rename_i fields
          split at computed
          · cases computed
            simp [unboundEntry] at qualified
          · rename_i truthy
            split at computed
            · cases computed
              simp [unboundEntry] at qualified
            · rename_i allowed
              split at computed
              · cases computed
                simp [unboundEntry] at qualified
              · rename_i identified
                split at computed
                · cases computed
                  simp [unboundEntry] at qualified
                · rename_i refers
                  split at computed
                  · cases computed
                    simp [unboundEntry] at qualified
                  · rename_i sources
                    simp only [bind_eq_ok_iff, Except.ok.injEq] at computed
                    rcases computed with ⟨binding, bound, rfl⟩
                    simp only [List.any_eq_true, decide_eq_true_eq, Bool.not_eq_true',
                      not_exists, not_and, Bool.not_eq_false] at fields truthy
                    refine ⟨rfl, rfl, binding, rfl, ⟨?_, ?_, sources, [], [], bound⟩,
                      ?_, fields, truthy, ?_, identified, ?_⟩
                    · exact Json.pyEq_string (by simpa using ok)
                    · simpa [inScope] using within
                    · intro required
                      simpa [required] using fresh
                    · simpa using allowed
                    · simpa using refers

theorem getD_find?_mem (first : JsonMembers) (rest : List JsonMembers)
    (qualifies : JsonMembers → Bool) :
    ((first :: rest).find? qualifies).getD first ∈ first :: rest := by
  cases found : (first :: rest).find? qualifies with
  | none => exact List.mem_cons_self
  | some chosen => exact List.mem_of_find?_eq_some found

theorem mem_flatten_of_forall₂ {Source Item : Type} {from_ : Source → Item → Prop} {item : Item} :
    ∀ {sources : List Source} {lists : List (List Item)},
      List.Forall₂ (fun source list => ∀ other, other ∈ list ↔ from_ source other) sources lists →
        (item ∈ lists.flatten ↔ ∃ source ∈ sources, from_ source item)
  | [], _, .nil => by simp
  | source :: rest, _, .cons first later => by
      simp [first item, mem_flatten_of_forall₂ later]

/-- A resource obligation is satisfied by a read of one of its capabilities, and none of their
reads failed hard. -/
theorem resourceEntry_qualified {spec : ActionSpec} {runId : String}
    (computed : resourceEntry contracts spec obligation admission observations runId now =
      .ok entry) (qualified : entry.status = .satisfied ∨ entry.status = .readQualified) :
    entry.obligationId = obligation.obligationId ∧ entry.kind = obligation.kind ∧
      (∃ capability ∈ obligation.capabilities, ∃ observation ∈ runReads observations runId
        capability, ∃ binding, entry.binding = some binding ∧
          ReadBound contracts admission observation
            (resourceIdentity contracts obligation (observedData observation)) binding ∧
          ResourceQualifies contracts admission now obligation observation
            (observedData observation)) ∧
      ∀ capability ∈ obligation.capabilities, ∀ item ∈ runReads observations runId capability,
        NoHardFailure contracts admission item := by
  simp only [resourceEntry, bind_eq_ok_iff] at computed
  rcases computed with ⟨found, mapped, computed⟩
  have reads : ∀ item, item ∈ found.flatten ↔ ∃ capability ∈ obligation.capabilities,
      item ∈ runReads observations runId capability := by
    intro item
    apply mem_flatten_of_forall₂
    apply (mapM_forall₂ mapped).imp
    intro capability relevant computed other
    exact mem_relevantObservations computed
  split at computed
  · cases computed
    simp [unboundEntry] at qualified
  · rename_i first rest listed
    split at computed
    · rename_i failed hard
      cases computed
      rcases List.exists_of_findSome?_eq_some hard with ⟨observation, _, failed⟩
      rw [hardTerminalEntry_status failed] at qualified
      simp at qualified
    · rename_i soft
      rcases bind_eq_ok_iff.mp computed with ⟨outcome, ended, computed⟩
      cases outcome with
      | some terminal =>
          cases computed
          rw [firstTerminalOutcome_status ended] at qualified
          simp at qualified
      | none =>
          rcases resourceObservationEntry_qualified computed qualified with
            ⟨named, sort, binding, bound, readBound, qualifies⟩
          have chosen := getD_find?_mem first rest
            (resourceObservationQualifies contracts obligation admission now)
          generalize ((first :: rest).find? _).getD first = observation
            at chosen readBound qualifies
          rw [← listed] at chosen soft
          rcases (reads observation).mp chosen with ⟨capability, declared, read⟩
          refine ⟨named, sort, ⟨capability, declared, observation, read, binding, bound, readBound,
            qualifies⟩, ?_⟩
          intro other otherDeclared item otherRead
          apply hardTerminalEntry_none
          exact List.findSome?_eq_none_iff.mp soft item
            ((reads item).mpr ⟨other, otherDeclared, otherRead⟩)

/-! ## Knowledge -/

theorem truthy_of_strOrEmpty {value : Json} (present : strOrEmpty contracts value ≠ "") :
    value.truthy = true := by
  unfold strOrEmpty at present
  split at present
  · assumption
  · exact absurd rfl present

theorem ne_null_of_truthy {value : Json} (present : value.truthy = true) : value ≠ .null := by
  intro equal
  rw [equal] at present
  cases present

/-- The data of a search that offers evidence. -/
theorem offeredEvidence_fields {data : JsonMembers} {offered : String × List Json}
    (found : offeredEvidence contracts data = some offered) :
    data.value "evidence" ≠ .null ∧ data.value "index_version" ≠ .null := by
  unfold offeredEvidence at found
  dsimp only at found
  split at found
  · rename_i items listed
    split at found
    · cases found
    · rename_i complete
      simp only [not_or] at complete
      constructor
      · rw [listed]
        intro equal
        cases equal
      · exact ne_null_of_truthy (truthy_of_strOrEmpty complete.2.2)
  · cases found

/-- A search offers evidence that qualifies. -/
def EvidenceQualifies (contracts : LedgerContracts) (now : DateTime)
    (obligation : EvidenceObligationSpec) (observation evidence : JsonMembers) : Prop :=
  ∃ indexVersion items, offeredEvidence contracts (observedData observation) =
      some (indexVersion, items) ∧ .object evidence ∈ items ∧
    knowledgeEvidenceQualifies contracts obligation indexVersion now evidence = true

theorem mem_qualifiedEvidence {indexVersion : String} {items : List Json} {evidence : JsonMembers}
    (member : evidence ∈ qualifiedEvidence contracts obligation now indexVersion items) :
    .object evidence ∈ items ∧
      knowledgeEvidenceQualifies contracts obligation indexVersion now evidence = true := by
  rcases List.mem_filterMap.mp member with ⟨item, among, found⟩
  split at found
  · split at found
    · rename_i qualifies
      cases found
      exact ⟨among, qualifies⟩
    · cases found
  · cases found

/-- A citation of the provider's attempt names qualified evidence of a search. -/
def EvidenceCited (contracts : LedgerContracts) (now : DateTime)
    (obligation : EvidenceObligationSpec) (citations : List ContextCitationBinding)
    (providerAttemptId : Option String) (observation : JsonMembers) : Prop :=
  ∃ citation ∈ citations, some citation.providerAttemptId = providerAttemptId ∧
    ∃ evidence, EvidenceQualifies contracts now obligation observation evidence ∧
      citesEvidence citation evidence = true

/-- What the search that a knowledge entry has chosen offers. -/
structure SearchQualifies (contracts : LedgerContracts) (now : DateTime)
    (obligation : EvidenceObligationSpec) (citations : List ContextCitationBinding)
    (providerAttemptId : Option String) (observation : JsonMembers) (entry : ObligationEntry) :
    Prop where
  offered : (offeredEvidence contracts (observedData observation)).isSome = true
  evidence : ∃ evidence, EvidenceQualifies contracts now obligation observation evidence
  cited : entry.status = .satisfied →
    EvidenceCited contracts now obligation citations providerAttemptId observation

theorem knowledgeObservationEntry_qualified {citations : List ContextCitationBinding}
    {providerAttemptId : Option String}
    (computed : knowledgeObservationEntry contracts obligation admission now citations
      providerAttemptId observation = .ok entry)
    (qualified : entry.status = .satisfied ∨ entry.status = .readQualified) :
    entry.obligationId = obligation.obligationId ∧ entry.kind = obligation.kind ∧
      ∃ binding, entry.binding = some binding ∧
        ReadBound contracts admission observation none binding ∧
        SearchQualifies contracts now obligation citations providerAttemptId observation
          entry := by
  unfold knowledgeObservationEntry at computed
  dsimp only at computed
  split at computed
  · cases computed
    exact absurd qualified (failureEntry_unqualified obligation observation)
  · rename_i ok
    split at computed
    · cases computed
      simp [unboundEntry] at qualified
    · rename_i within
      split at computed
      · cases computed
        simp [unboundEntry] at qualified
      · split at computed
        · cases computed
          simp [unboundEntry] at qualified
        · rename_i indexVersion items offered
          split at computed
          · cases computed
            simp [unboundEntry] at qualified
          · rename_i some_
            rcases bind_eq_ok_iff.mp computed with ⟨evidenceIds, _, computed⟩
            split at computed
            · cases computed
              simp [unboundEntry] at qualified
            · rename_i sources
              simp only [bind_eq_ok_iff, Except.ok.injEq] at computed
              rcases computed with ⟨binding, bound, rfl⟩
              refine ⟨?_, ?_, binding, rfl, ⟨?_, ?_, ?_, evidenceIds, _, bound⟩, ?_, ?_, ?_⟩
              · split <;> rfl
              · split <;> rfl
              · exact Json.pyEq_string (by simpa using ok)
              · simpa [inScope] using within
              · intro empty
                simp [sourcesQualified, empty] at sources
              · rw [offered]
                rfl
              · rcases List.exists_mem_of_ne_nil _ some_ with ⟨evidence, member⟩
                exact ⟨evidence, indexVersion, items, offered, mem_qualifiedEvidence member⟩
              · intro satisfied
                split at satisfied
                · cases satisfied
                · rename_i matched
                  rcases List.exists_mem_of_ne_nil _ matched with ⟨name, member⟩
                  rcases List.mem_map.mp member with ⟨citation, among, rfl⟩
                  rcases List.mem_filter.mp among with ⟨given, fits⟩
                  simp only [Bool.and_eq_true, decide_eq_true_eq, List.any_eq_true] at fits
                  rcases fits with ⟨ofAttempt, evidence, member, cites⟩
                  exact ⟨citation, given, ofAttempt, evidence,
                    ⟨indexVersion, items, offered, mem_qualifiedEvidence member⟩, cites⟩

/-- A knowledge obligation that qualifies does so by a search of the run, and no search of the
run failed hard. -/
theorem knowledgeEntry_qualified {runId : String} {citations : List ContextCitationBinding}
    {providerAttemptId : Option String}
    (computed : knowledgeEntry contracts obligation admission observations runId now citations
      providerAttemptId = .ok entry)
    (qualified : entry.status = .satisfied ∨ entry.status = .readQualified) :
    entry.obligationId = obligation.obligationId ∧ entry.kind = obligation.kind ∧
      (∃ observation ∈ runReads observations runId "search_knowledge", ∃ binding,
        entry.binding = some binding ∧ ReadBound contracts admission observation none binding ∧
          SearchQualifies contracts now obligation citations providerAttemptId observation
            entry) ∧
      ∀ item ∈ runReads observations runId "search_knowledge",
        NoHardFailure contracts admission item := by
  simp only [knowledgeEntry, bind_eq_ok_iff] at computed
  rcases computed with ⟨found, relevant, computed⟩
  cases found with
  | nil =>
      cases computed
      simp [unboundEntry] at qualified
  | cons first rest =>
      dsimp only at computed
      split at computed
      · rename_i failed hard
        cases computed
        rcases List.exists_of_findSome?_eq_some hard with ⟨observation, _, failed⟩
        rw [hardTerminalEntry_status failed] at qualified
        simp at qualified
      · rename_i soft
        have member := (mem_relevantObservations relevant).mp (getD_find?_mem first rest
          (knowledgeObservationQualifies contracts obligation admission now))
        rcases knowledgeObservationEntry_qualified computed qualified with
          ⟨named, sort, binding, bound, readBound, qualifies⟩
        refine ⟨named, sort, ⟨_, member, binding, bound, readBound, qualifies⟩, ?_⟩
        intro item read
        apply hardTerminalEntry_none
        exact List.findSome?_eq_none_iff.mp soft item
          ((mem_relevantObservations relevant).mpr read)

/-! ## Soundness -/

/-- The observation that an obligation is bound to: one of this run, by a tool of the
obligation, in the admitted scope and with sources. -/
structure VouchedRead (contracts : LedgerContracts) (admission : ActionAdmission)
    (observations : List JsonMembers) (runId : String) (obligation : EvidenceObligationSpec)
    (observation : JsonMembers) (binding : ObligationBinding) : Prop where
  given : observation ∈ observations
  run : observation.value "run_id" = .string runId
  tool : ∃ capability ∈ obligation.capabilities,
    observation.value "tool_name" = .string capability
  status : observation.value "status" = .string "ok"
  scope : observationScope contracts.toAssemblerContracts observation =
    (admission.tenantId, admission.customerId, admission.scopeHash)
  sources : sourceIds contracts.toAssemblerContracts observation ≠ []
  bindingOf : BindingOf contracts observation binding

/-- What the observation says of the resource. -/
structure VouchedResource (contracts : LedgerContracts) (admission : ActionAdmission)
    (now : DateTime) (obligation : EvidenceObligationSpec) (observation data : JsonMembers) :
    Prop where
  fresh : obligation.requireFreshness = true →
    FreshAt contracts.toAssemblerContracts now observation
  fields : ∀ field ∈ obligation.requiredDataFields, data.value field ≠ .null
  truthy : ∀ field ∈ obligation.requiredTruthyDataFields, (data.value field).truthy = true
  allowed : obligation.allowedResourceStatuses = [] ∨
    contracts.str (data.value "status") ∈ obligation.allowedResourceStatuses
  identity : ∀ argument, obligation.resourceRefArgument = some argument →
    ∃ identity ∈ equivalentRefs contracts obligation data, contracts.casefold identity =
      contracts.casefold (textAt contracts admission.extractedArguments argument "")

theorem universal_atUtc (time : DateTime) :
    DateTime.universal (atUtc time) = DateTime.universal time := by
  unfold atUtc
  split
  · rename_i naive
    simp only [DateTime.universal, naive]
    rfl
  · rfl

theorem freshnessReason_none (fresh : freshnessReason contracts (atUtc now) observation = none) :
    FreshAt contracts.toAssemblerContracts now observation := by
  unfold freshnessReason at fresh
  split at fresh
  · cases fresh
  · rename_i named
    split at fresh
    · cases fresh
    · rename_i freshUntil parsed
      split at fresh
      · cases fresh
      · rename_i later
        rw [universal_atUtc] at later
        exact ⟨Json.pyEq_string (by simpa using named), freshUntil, parsed, by omega⟩

theorem ResourceQualifies.vouched {observation data : JsonMembers}
    (qualifies : ResourceQualifies contracts admission (atUtc now) obligation observation data) :
    VouchedResource contracts admission now obligation observation data where
  fresh required := freshnessReason_none (qualifies.fresh required)
  fields := qualifies.fields
  truthy := qualifies.truthy
  allowed := by simpa [statusAllowed] using qualifies.allowed
  identity := by
    intro argument named
    have refers := qualifies.refers
    simp only [refersTo, named, ne_eq, decide_not, Bool.and_eq_true, decide_eq_true_eq,
      List.mem_map] at refers
    exact refers.2

theorem ReadBound.vouched {runId capability : String} {resourceId : Option String}
    {binding : ObligationBinding}
    (readBound : ReadBound contracts admission observation resourceId binding)
    (declared : capability ∈ obligation.capabilities)
    (read : observation ∈ runReads observations runId capability) :
    VouchedRead contracts admission observations runId obligation observation binding := by
  rcases mem_runReads read with ⟨given, run, tool⟩
  rcases readBound.bound with ⟨_, _, built⟩
  exact ⟨given, run, ⟨capability, declared, tool⟩, readBound.status, readBound.scope,
    readBound.sources, (baseBinding_ok built).1⟩

/-- The states from which a run goes on leave no obligation open. -/
theorem ledgerState_ready {entries : List ObligationEntry}
    (ready : (ledgerState entries).1 = .synthesize ∨
      (ledgerState entries).1 = .assembleCandidate) :
    (∀ entry ∈ entries, entry.status = .satisfied ∨ entry.status = .readQualified) ∧
      ((ledgerState entries).1 = .assembleCandidate →
        ∀ entry ∈ entries, entry.status = .satisfied) := by
  unfold ledgerState at ready ⊢
  split at ready
  · rcases ready with impossible | impossible <;> cases impossible
  · rename_i sound
    rw [if_neg sound]
    split at ready
    · rcases ready with impossible | impossible <;> cases impossible
    · rename_i open_
      split at ready
      · rename_i all
        have satisfied : ∀ entry ∈ entries, entry.status = .satisfied := by
          simpa using all.2
        exact ⟨fun entry member => .inl (satisfied entry member), fun _ => satisfied⟩
      · rename_i partly
        rw [if_neg partly]
        split at ready
        · rename_i all
          rw [if_pos all]
          exact ⟨by simpa using all, by intro impossible; cases impossible⟩
        · split at ready
          · rcases ready with impossible | impossible <;> cases impossible
          · rcases ready with impossible | impossible <;> cases impossible

/-- A ledger that lets a run go on has every obligation bound to a read that passed the checks,
and none of the reads it rests on failed hard. -/
theorem evaluateActionObligations_sound (contracts : LedgerContracts) (spec : ActionSpec)
    (admission : ActionAdmission) (observations : List JsonMembers) (runId : String)
    (citations : List ContextCitationBinding) (providerAttemptId : Option String)
    (now : DateTime) {ledger : ActionObligationLedger}
    (evaluated : evaluateActionObligations contracts spec admission observations runId citations
      providerAttemptId now = .ok ledger)
    (ready : ledger.nextState = .synthesize ∨ ledger.nextState = .assembleCandidate) :
    ∀ obligation ∈ spec.obligations,
      (∃ entry ∈ ledger.obligations, ∃ binding observation,
        entry.obligationId = obligation.obligationId ∧ entry.binding = some binding ∧
        VouchedRead contracts admission observations runId obligation observation binding ∧
        (obligation.kind ≠ .knowledge → VouchedResource contracts admission now obligation
          observation (observedData observation)) ∧
        (obligation.kind = .knowledge →
          (∃ evidence, EvidenceQualifies contracts (atUtc now) obligation observation evidence) ∧
          (ledger.nextState = .assembleCandidate → EvidenceCited contracts (atUtc now)
            obligation citations providerAttemptId observation))) ∧
      ∀ capability ∈ obligation.capabilities, ∀ item ∈ runReads observations runId capability,
        NoHardFailure contracts admission item := by
  intro obligation declared
  simp only [evaluateActionObligations, bind_eq_ok_iff, Except.ok.injEq] at evaluated
  rcases evaluated with ⟨_, _, entries, mapped, rfl⟩
  rcases ledgerState_ready ready with ⟨qualified, assembled⟩
  rcases List.forall₂_iff_get.mp (mapM_forall₂ mapped) with ⟨sameLength, each⟩
  rcases List.get_of_mem declared with ⟨index, rfl⟩
  have within : index.1 < entries.length := by omega
  have computed := each index.1 index.2 within
  have among : entries.get ⟨index.1, within⟩ ∈ entries := List.get_mem _ _
  generalize entries.get ⟨index.1, within⟩ = entry at computed among
  generalize spec.obligations.get index = obligation at computed
  have status := qualified entry among
  split at computed
  · rename_i knowledge
    rcases knowledgeEntry_qualified computed status with
      ⟨named, _, ⟨observation, read, binding, bound, readBound, qualifies⟩, soft⟩
    have only := obligation.searchOnly knowledge
    constructor
    · refine ⟨entry, among, binding, observation, named, bound,
        readBound.vouched (by simp [only]) read, ?_, ?_⟩
      · intro resource
        exact absurd knowledge resource
      · intro _
        refine ⟨qualifies.evidence, ?_⟩
        intro next
        exact qualifies.cited (assembled next entry among)
    · intro capability capable item itemRead
      rw [only, List.mem_singleton] at capable
      rw [capable] at itemRead
      exact soft item itemRead
  · rename_i resource
    rcases resourceEntry_qualified computed status with
      ⟨named, _, ⟨capability, capable, observation, read, binding, bound, readBound, qualifies⟩,
        soft⟩
    refine ⟨⟨entry, among, binding, observation, named, bound, readBound.vouched capable read, ?_,
      ?_⟩, soft⟩
    · intro _
      exact qualifies.vouched
    · intro knowledge
      exact absurd knowledge resource

end

/-! A refund of a billing record. -/

def refundedHash : String :=
  String.ofList (List.replicate 64 'a')

def refundedAdmission : ActionAdmission :=
  { exampleAdmission with scopeHash := refundedHash }

/-- The functions agree with the real ones on the values of the example. -/
def refundedContracts (ledger : Option ActionObligationLedger) : LedgerContracts where
  str
    | .string text => text
    | _ => ""
  casefold text := text
  int text := if text = "2" then some 2 else none
  fromIsoformat text :=
    if text = "0001-01-01T00:00:00.002+00:00" then
      some ⟨⟨2000, Instant.twoMilliseconds_inRange⟩, some ⟨0, UtcOffset.utc_bounded⟩⟩
    else if text = "0001-01-01T00:00:00+00:00" then
      some ⟨⟨0, Instant.first_inRange⟩, some ⟨0, UtcOffset.utc_bounded⟩⟩
    else none
  validateAdmission _ := some refundedAdmission
  validateLedger _ := ledger
  intOf
    | .integer value => some value
    | _ => none
  versionNumbers text := if text = "3.1" then [3, 1] else []

def refundedObservation (observationId toolName sourceId version : String) (data : JsonMembers) :
    JsonMembers :=
  [("run_id", .string "run"), ("tool_name", .string toolName),
    ("observation_id", .string observationId), ("status", .string "ok"),
    ("tenant_id", .string "tenant"), ("customer_id", .string "customer"),
    ("scope_hash", .string refundedHash), ("content_hash", .string refundedHash),
    ("resource_version", .string version),
    ("source_refs", .array [.object [("source_id", .string sourceId)]]),
    ("freshness_status", .string "fresh"),
    ("fresh_until", .string "0001-01-01T00:00:00.002Z"), ("data", .object data)]

def refundedEvidence : JsonMembers :=
  [("evidence_id", .string "evidence"), ("document_id", .string "billing-refunds-v3"),
    ("document_type", .string "official_policy"), ("chunk_id", .string "chunk"),
    ("version", .string "3.1"), ("section_path", .string "退款"),
    ("supporting_span", .string "重复扣费可以退款。"), ("supporting_span_eligible", .bool true),
    ("content_hash", .string refundedHash),
    ("source_locator", .object [("locator_hash", .string refundedHash)]),
    ("eligibility_envelope", .object
      [("status", .string "active"), ("outcome", .string "eligible"),
        ("index_version", .string "index"),
        ("effective_from", .string "0001-01-01T00:00:00Z")])]

def refundedObservations (version : String) : List JsonMembers :=
  [refundedObservation "observation_1" "query_billing_record" "bill_1" version
      (billingRecordCurrent.requiredDataFields.map fun field =>
        (field, if field = "billing_record_id" then .string "bill_1"
          else if field = "status" then .string "charged"
          else .string "present")),
    refundedObservation "observation_2" "search_knowledge" "chunk" "index"
      [("evidence", .array [.object refundedEvidence]), ("index_version", .string "index")]]

def refundedCitation : ContextCitationBinding where
  citationBindingId := "citation_1"
  providerAttemptId := "attempt"
  evidenceId := "evidence"
  documentId := "billing-refunds-v3"
  chunkId := "chunk"
  contentHash := refundedHash
  locatorHash := refundedHash

def refundedEvaluation (ledger : Option ActionObligationLedger) (version : String) :
    Except LedgerStop ActionObligationLedger :=
  evaluateActionObligations (refundedContracts ledger) (actionSpec .refund) refundedAdmission
    (refundedObservations version) "run" [refundedCitation] (some "attempt") candidateNow

/-- The ledger does not depend on how a ledger is read back. -/
def refundedLedger (version : String) : Option ActionObligationLedger :=
  (refundedEvaluation none version).toOption

theorem evaluateActionObligations_sound_refund :
    ∃ ledger, refundedEvaluation none "2" = .ok ledger ∧
      ledger.nextState = .assembleCandidate ∧
      ∀ obligation ∈ (actionSpec .refund).obligations,
        ∀ capability ∈ obligation.capabilities,
          ∀ item ∈ runReads (refundedObservations "2") "run" capability,
            NoHardFailure (refundedContracts none) refundedAdmission item := by
  have next : (refundedLedger "2").map ActionObligationLedger.nextState =
      some .assembleCandidate := by
    decide +kernel
  rcases Option.map_eq_some_iff.mp next with ⟨ledger, computed, next⟩
  have evaluated := toOption_eq_some computed
  refine ⟨ledger, evaluated, next, ?_⟩
  intro obligation declared
  exact (evaluateActionObligations_sound (refundedContracts none) (actionSpec .refund)
    refundedAdmission (refundedObservations "2") "run" [refundedCitation] (some "attempt")
    candidateNow evaluated (.inr next) obligation declared).2

end SupportGuard
