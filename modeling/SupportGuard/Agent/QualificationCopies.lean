import SupportGuard.Agent.LedgerSoundness

/-! # The two copies of the qualification rules

`agent/obligations.py` states what qualifies an observation twice: as the filter that chooses
one of the candidates, and as the checks that the chosen one goes through. Where they part. -/

namespace SupportGuard

open Foundation Fallible

section

variable {contracts : LedgerContracts} {obligation : EvidenceObligationSpec}
  {admission : ActionAdmission} {now : DateTime} {observation : JsonMembers}

@[simp] theorem JsonMembers.value_nil (key : String) : JsonMembers.value [] key = .null :=
  rfl

/-! ## Bindings that can be built -/

theorem observationVersion_returns_iff :
    (∃ version, observationVersion contracts observation = .ok version) ↔
      (observation.value "resource_version").truthy = true ∨
        observation.lookup "data" = none ∨ ∃ data, observation.value "data" = .object data := by
  have value : observation.value "data" = (observation.lookup "data").getD .null := rfl
  rw [value]
  unfold observationVersion dataReceiver
  dsimp only
  by_cases own : (observation.value "resource_version").truthy = true
  · simp [own]
  · rw [if_neg own]
    cases found : observation.lookup "data" with
    | none => simp [bind_eq_ok_iff]; split <;> simp
    | some held => cases held <;> simp [own, bind_eq_ok_iff]; split <;> simp

theorem baseBinding_returns_iff {scope : String × String × String} {resourceId : Option String}
    {evidenceIds citationBindingIds : List String} :
    (∃ binding, baseBinding contracts observation scope resourceId evidenceIds
        citationBindingIds = .ok binding) ↔
      (∃ version, observationVersion contracts observation = .ok version) ∧
        isSha256Hex (observedHash contracts.toAssemblerContracts observation) = true ∧
        isSha256Hex scope.2.2 = true := by
  simp only [baseBinding, bind_eq_ok_iff, refuseWhen_eq_ok_iff, not_or, Bool.not_eq_false]
  constructor
  · intro built
    rcases built with ⟨_, version, observed, _, hashed, _⟩
    exact ⟨⟨version, observed⟩, hashed⟩
  · intro able
    rcases able with ⟨⟨version, observed⟩, hashed⟩
    exact ⟨_, version, observed, (), hashed, rfl⟩

/-! ## Resources -/

/-- The checks of the entry, on the data it makes of the observation. -/
structure ResourceAccepted (contracts : LedgerContracts) (admission : ActionAdmission)
    (now : DateTime) (obligation : EvidenceObligationSpec) (observation : JsonMembers) :
    Prop where
  status : observation.value "status" = .string "ok"
  scope : observationScope contracts.toAssemblerContracts observation = admittedScope admission
  sources : sourceIds contracts.toAssemblerContracts observation ≠ []
  resource : ResourceQualifies contracts admission now obligation observation
    (observedData observation)

/-- An accepted read is bound, unless its binding cannot be built. -/
theorem resourceObservationEntry_of_accepted
    (accepted : ResourceAccepted contracts admission now obligation observation) :
    resourceObservationEntry contracts obligation admission now observation =
      (baseBinding contracts observation
        (observationScope contracts.toAssemblerContracts observation)
        (resourceIdentity contracts obligation (observedData observation)) [] []).map
          fun binding =>
            { unboundEntry obligation .satisfied "resource_obligation_satisfied" with
              binding := some binding } := by
  have ok : (observation.value "status").pyEq (.string "ok") = true := by
    rw [accepted.status]
    rfl
  have within : inScope contracts admission observation = true :=
    decide_eq_true accepted.scope
  have fresh : (if obligation.requireFreshness then freshnessReason contracts now observation
      else none) = none := by
    split
    · rename_i required
      exact accepted.resource.fresh required
    · rfl
  have fields : (obligation.requiredDataFields.any fun field =>
      decide ((observedData observation).value field = .null)) = false := by
    simpa using accepted.resource.fields
  have truthy : (obligation.requiredTruthyDataFields.any fun field =>
      !((observedData observation).value field).truthy) = false := by
    simpa using accepted.resource.truthy
  simp only [resourceObservationEntry, ok, within, fresh, fields, truthy,
    accepted.resource.allowed, accepted.resource.identity, accepted.resource.refers,
    accepted.sources, Bool.true_eq_false, Bool.false_eq_true, if_false]
  rfl

theorem resourceObservationEntry_satisfied_iff :
    (∃ entry, resourceObservationEntry contracts obligation admission now observation =
        .ok entry ∧ entry.status = .satisfied) ↔
      ResourceAccepted contracts admission now obligation observation ∧
        (∃ version, observationVersion contracts observation = .ok version) ∧
        isSha256Hex (observedHash contracts.toAssemblerContracts observation) = true ∧
        isSha256Hex admission.scopeHash = true := by
  constructor
  · intro returned
    rcases returned with ⟨entry, computed, satisfied⟩
    rcases resourceObservationEntry_qualified computed (.inl satisfied) with
      ⟨_, _, binding, _, readBound, qualifies⟩
    rcases readBound.bound with ⟨_, _, built⟩
    have buildable := baseBinding_returns_iff.mp ⟨binding, built⟩
    rw [readBound.scope] at buildable
    exact ⟨⟨readBound.status, readBound.scope, readBound.sources, qualifies⟩, buildable⟩
  · intro able
    rcases able with ⟨accepted, buildable⟩
    rw [resourceObservationEntry_of_accepted accepted, accepted.scope]
    have returned : ∃ binding, baseBinding contracts observation (admittedScope admission)
        (resourceIdentity contracts obligation (observedData observation)) [] [] = .ok binding :=
      baseBinding_returns_iff.mpr buildable
    rcases returned with ⟨binding, built⟩
    rw [built]
    exact ⟨_, rfl, rfl⟩

theorem resourceObservationQualifies_iff
    (written : ∀ value : Json, value.truthy = true → contracts.str value ≠ "") :
    resourceObservationQualifies contracts obligation admission now observation = true ↔
      ResourceAccepted contracts admission now obligation observation ∧
        ∃ data, observation.value "data" = .object data := by
  have identity (data : JsonMembers) :
      (obligation.observedResourceField.all fun field => (data.value field).truthy) = true ↔
        resourceIdentity contracts obligation data ≠ some "" := by
    unfold resourceIdentity strOrEmpty
    cases obligation.observedResourceField with
    | none => simp
    | some field =>
        by_cases truthy : (data.value field).truthy = true
        · simp [truthy, written _ truthy]
        · simp [truthy]
  have ok : (observation.value "status").pyEq (.string "ok") = true ↔
      observation.value "status" = .string "ok" := by
    constructor
    · exact Json.pyEq_string
    · intro equal
      rw [equal]
      rfl
  have fresh : (!(obligation.requireFreshness && (freshnessReason contracts now
      observation).isSome)) = true ↔ (obligation.requireFreshness = true →
        freshnessReason contracts now observation = none) := by
    cases obligation.requireFreshness <;> simp
  unfold resourceObservationQualifies
  cases held : observation.value "data" with
  | object data =>
      have observed : observedData observation = data := by
        simp [observedData, held]
      simp only [Bool.and_eq_true, ok, fresh, identity, inScope, decide_eq_true_eq]
      constructor
      · intro checks
        rcases checks with ⟨⟨⟨⟨⟨⟨⟨⟨status, scope⟩, fresh⟩, fields⟩, truthy⟩, allowed⟩, identity⟩,
          refers⟩, sources⟩
        refine ⟨⟨status, scope, sources, ?_⟩, data, rfl⟩
        rw [observed]
        exact ⟨fresh, by simpa using fields, by simpa using truthy, allowed, identity, refers⟩
      · intro accepted
        rcases accepted with ⟨⟨status, scope, sources, resource⟩, _⟩
        rw [observed] at resource
        exact ⟨⟨⟨⟨⟨⟨⟨⟨status, scope⟩, resource.fresh⟩, by simpa using resource.fields⟩,
          by simpa using resource.truthy⟩, resource.allowed⟩, resource.identity⟩,
          resource.refers⟩, sources⟩
  | _ => simp

/-- A read whose data is no dictionary, of an obligation that asks nothing of the data. The
entry reads an empty dictionary in its place, and the filter refuses it. -/
structure HollowRead (contracts : LedgerContracts) (admission : ActionAdmission)
    (now : DateTime) (obligation : EvidenceObligationSpec) (observation : JsonMembers) :
    Prop where
  status : observation.value "status" = .string "ok"
  scope : observationScope contracts.toAssemblerContracts observation = admittedScope admission
  fresh : obligation.requireFreshness = true → freshnessReason contracts now observation = none
  hollow : ∀ data, observation.value "data" ≠ .object data
  fields : obligation.requiredDataFields = []
  allowed : obligation.allowedResourceStatuses = [] ∨
    contracts.str .null ∈ obligation.allowedResourceStatuses
  unnamed : obligation.observedResourceField = none
  unreferred : obligation.resourceRefArgument = none
  sources : sourceIds contracts.toAssemblerContracts observation ≠ []
  hashed : isSha256Hex (observedHash contracts.toAssemblerContracts observation) = true
  versioned : observation.lookup "data" = none ∨
    (observation.value "resource_version").truthy = true

theorem observedData_of_hollow (hollow : ∀ data, observation.value "data" ≠ .object data) :
    observedData observation = [] := by
  unfold observedData
  split
  · rename_i data held
    exact absurd held (hollow data)
  · rfl

theorem statusAllowed_nil_iff :
    statusAllowed contracts obligation [] = true ↔ obligation.allowedResourceStatuses = [] ∨
      contracts.str .null ∈ obligation.allowedResourceStatuses := by
  unfold statusAllowed
  rw [Bool.or_eq_true, decide_eq_true_eq, decide_eq_true_eq, JsonMembers.value_nil]

/-- Only a hollow read is bound although the filter refuses it. -/
theorem hollowRead_iff (hollow : ∀ data, observation.value "data" ≠ .object data) :
    HollowRead contracts admission now obligation observation ↔
      ResourceAccepted contracts admission now obligation observation ∧
        (∃ version, observationVersion contracts observation = .ok version) ∧
        isSha256Hex (observedHash contracts.toAssemblerContracts observation) = true := by
  have empty := observedData_of_hollow hollow
  constructor
  · intro read
    refine ⟨⟨read.status, read.scope, read.sources, ?_⟩, ?_, read.hashed⟩
    · rw [empty]
      have truthy : obligation.requiredTruthyDataFields = [] := by
        rw [List.eq_nil_iff_forall_not_mem]
        intro field member
        have required := obligation.truthyRequired field member
        rw [read.fields] at required
        cases required
      refine ⟨read.fresh, ?_, ?_, ?_, ?_, ?_⟩
      · simp [read.fields]
      · simp [truthy]
      · exact statusAllowed_nil_iff.mpr read.allowed
      · simp [resourceIdentity, read.unnamed]
      · simp [refersTo, read.unreferred]
    · rw [observationVersion_returns_iff]
      rcases read.versioned with absent | own
      · exact .inr (.inl absent)
      · exact .inl own
  · intro accepted
    rcases accepted with ⟨⟨status, scope, sources, resource⟩, versioned, hashed⟩
    rw [empty] at resource
    rw [observationVersion_returns_iff] at versioned
    refine ⟨status, scope, resource.fresh, hollow, ?_, ?_, ?_, ?_, sources, hashed, ?_⟩
    · rw [List.eq_nil_iff_forall_not_mem]
      intro field member
      exact resource.fields field member rfl
    · exact statusAllowed_nil_iff.mp resource.allowed
    · have identity := resource.identity
      cases named : obligation.observedResourceField with
      | none => rfl
      | some field => simp [resourceIdentity, named, strOrEmpty, Json.truthy] at identity
    · have refers := resource.refers
      cases named : obligation.resourceRefArgument with
      | none => rfl
      | some argument => simp [refersTo, named, equivalentRefs, textAt] at refers
    · rcases versioned with own | absent | held
      · exact .inr own
      · exact .inl absent
      · rcases held with ⟨data, held⟩
        exact absurd held (hollow data)

/-! ## Knowledge -/

/-- The checks of a knowledge entry, on the data it makes of the observation. -/
structure SearchAccepted (contracts : LedgerContracts) (admission : ActionAdmission)
    (now : DateTime) (obligation : EvidenceObligationSpec) (observation : JsonMembers)
    (indexVersion : String) (items : List Json) : Prop where
  status : observation.value "status" = .string "ok"
  scope : observationScope contracts.toAssemblerContracts observation = admittedScope admission
  agreed : (observedData observation).value "conflict" ≠ .bool true
  offered : offeredEvidence contracts (observedData observation) = some (indexVersion, items)
  qualified : qualifiedEvidence contracts obligation now indexVersion items ≠ []
  sources : sourcesQualified contracts observation
    (qualifiedEvidence contracts obligation now indexVersion items) = true

theorem SearchAccepted.data {indexVersion : String} {items : List Json}
    (accepted : SearchAccepted contracts admission now obligation observation indexVersion
      items) : ∃ data, observation.value "data" = .object data := by
  by_contra hollow
  have empty := observedData_of_hollow fun data held => hollow ⟨data, held⟩
  have offered := accepted.offered
  rw [empty] at offered
  cases offered

theorem knowledgeObservationQualifies_iff :
    knowledgeObservationQualifies contracts obligation admission now observation = true ↔
      ∃ indexVersion items, SearchAccepted contracts admission now obligation observation
        indexVersion items := by
  have ok : (observation.value "status").pyEq (.string "ok") = true ↔
      observation.value "status" = .string "ok" := by
    constructor
    · exact Json.pyEq_string
    · intro equal
      rw [equal]
      rfl
  constructor
  · intro qualifies
    unfold knowledgeObservationQualifies at qualifies
    split at qualifies
    · rename_i data held
      have observed : observedData observation = data := by
        simp [observedData, held]
      simp only [Bool.and_eq_true, ok, inScope, decide_eq_true_eq, Option.any_eq_true,
        Prod.exists] at qualifies
      rcases qualifies with ⟨⟨⟨status, scope⟩, agreed⟩, indexVersion, items, offered, qualified,
        sources⟩
      rw [← observed] at agreed offered
      exact ⟨indexVersion, items, status, scope, agreed, offered, qualified, sources⟩
    · cases qualifies
  · intro accepted
    rcases accepted with ⟨indexVersion, items, accepted⟩
    rcases accepted.data with ⟨data, held⟩
    have observed : observedData observation = data := by
      simp [observedData, held]
    have agreed := accepted.agreed
    have offered := accepted.offered
    rw [observed] at agreed offered
    simp only [knowledgeObservationQualifies, held, Bool.and_eq_true, ok, inScope,
      decide_eq_true_eq, Option.any_eq_true, Prod.exists]
    exact ⟨⟨⟨accepted.status, accepted.scope⟩, agreed⟩, indexVersion, items, offered,
      accepted.qualified, accepted.sources⟩

/-- Every piece of evidence that qualifies has an identifier. -/
def EvidenceNamed (contracts : LedgerContracts) (now : DateTime)
    (obligation : EvidenceObligationSpec) (observation : JsonMembers) : Prop :=
  ∀ evidence, EvidenceQualifies contracts now obligation observation evidence →
    (evidence.lookup "evidence_id").isSome = true

theorem mem_qualifiedEvidence_iff {indexVersion : String} {items : List Json}
    {evidence : JsonMembers} :
    evidence ∈ qualifiedEvidence contracts obligation now indexVersion items ↔
      .object evidence ∈ items ∧
        knowledgeEvidenceQualifies contracts obligation indexVersion now evidence = true := by
  constructor
  · exact mem_qualifiedEvidence
  · intro among
    apply List.mem_filterMap.mpr
    exact ⟨.object evidence, among.1, if_pos among.2⟩

theorem evidenceIdentity_returns_iff {evidence : JsonMembers} :
    (∃ identity, evidenceIdentity contracts evidence = .ok identity) ↔
      (evidence.lookup "evidence_id").isSome = true := by
  unfold evidenceIdentity
  cases evidence.lookup "evidence_id" <;> simp

theorem evidenceIdentities_return_iff {indexVersion : String} {items : List Json}
    (offered : offeredEvidence contracts (observedData observation) =
      some (indexVersion, items)) :
    (∃ identities, (qualifiedEvidence contracts obligation now indexVersion items).mapM
        (evidenceIdentity contracts) = .ok identities) ↔
      EvidenceNamed contracts now obligation observation := by
  simp only [mapM_returns_iff, evidenceIdentity_returns_iff, mem_qualifiedEvidence_iff]
  constructor
  · intro named evidence qualifies
    rcases qualifies with ⟨other, others, found, among⟩
    rw [offered] at found
    cases found
    exact named evidence among
  · intro named evidence among
    exact named evidence ⟨indexVersion, items, offered, among⟩

variable {citations : List ContextCitationBinding} {providerAttemptId : Option String}

theorem knowledgeObservationEntry_qualified_iff (hashed : isSha256Hex admission.scopeHash = true) :
    (∃ entry, knowledgeObservationEntry contracts obligation admission now citations
        providerAttemptId observation = .ok entry ∧
        (entry.status = .readQualified ∨ entry.status = .satisfied)) ↔
      knowledgeObservationQualifies contracts obligation admission now observation = true ∧
        EvidenceNamed contracts now obligation observation ∧
        isSha256Hex (observedHash contracts.toAssemblerContracts observation) = true := by
  rw [knowledgeObservationQualifies_iff]
  constructor
  · intro returned
    rcases returned with ⟨entry, computed, qualified⟩
    unfold knowledgeObservationEntry at computed
    dsimp only at computed
    split at computed
    · cases computed
      exact absurd qualified.symm (failureEntry_unqualified obligation observation)
    · rename_i ok
      split at computed
      · cases computed
        simp [unboundEntry] at qualified
      · rename_i within
        split at computed
        · cases computed
          simp [unboundEntry] at qualified
        · rename_i agreed
          split at computed
          · cases computed
            simp [unboundEntry] at qualified
          · rename_i indexVersion items offered
            split at computed
            · cases computed
              simp [unboundEntry] at qualified
            · rename_i some_
              rcases bind_eq_ok_iff.mp computed with ⟨evidenceIds, identified, computed⟩
              split at computed
              · cases computed
                simp [unboundEntry] at qualified
              · rename_i sources
                simp only [bind_eq_ok_iff] at computed
                rcases computed with ⟨binding, bound, _⟩
                have buildable := baseBinding_returns_iff.mp ⟨binding, bound⟩
                refine ⟨⟨indexVersion, items, Json.pyEq_string (by simpa using ok),
                  by simpa [inScope] using within, agreed, offered, some_,
                  by simpa using sources⟩, ?_, buildable.2.1⟩
                exact (evidenceIdentities_return_iff offered).mp ⟨evidenceIds, identified⟩
  · intro able
    rcases able with ⟨⟨indexVersion, items, accepted⟩, named, contentHashed⟩
    rcases (evidenceIdentities_return_iff accepted.offered).mpr named with
      ⟨evidenceIds, identified⟩
    have ok : (observation.value "status").pyEq (.string "ok") = true := by
      rw [accepted.status]
      rfl
    have within : inScope contracts admission observation = true :=
      decide_eq_true accepted.scope
    have versioned : ∃ version, observationVersion contracts observation = .ok version :=
      observationVersion_returns_iff.mpr (.inr (.inr accepted.data))
    have returned (citationBindingIds : List String) : ∃ binding, baseBinding contracts
        observation (admittedScope admission) none evidenceIds citationBindingIds =
          .ok binding :=
      baseBinding_returns_iff.mpr ⟨versioned, contentHashed, hashed⟩
    rcases returned ((matchedCitations citations providerAttemptId (qualifiedEvidence contracts
      obligation now indexVersion items)).dedup.insertionSort (· ≤ ·)) with ⟨binding, built⟩
    simp only [knowledgeObservationEntry, ok, within, accepted.agreed, accepted.offered,
      accepted.qualified, accepted.sources, accepted.scope, identified, bind_eq_ok_iff,
      Bool.true_eq_false, if_false, Except.ok.injEq]
    refine ⟨_, ⟨_, rfl, binding, built, rfl⟩, ?_⟩
    dsimp only
    split
    · exact .inl rfl
    · exact .inr rfl

/-! ## The candidates of an obligation -/

/-- The candidates of a resource entry, with no hard failure and no business outcome among
them. -/
structure ResourceCandidates (contracts : LedgerContracts) (spec : ActionSpec)
    (obligation : EvidenceObligationSpec) (admission : ActionAdmission)
    (observations : List JsonMembers) (runId : String) (now : DateTime)
    (candidates : List JsonMembers) : Prop where
  gathered : ∃ found, obligation.capabilities.mapM (fun capability =>
      relevantObservations contracts observations runId capability) = .ok found ∧
    found.flatten = candidates
  soft : ∀ candidate ∈ candidates, hardTerminalEntry contracts obligation admission
    candidate = none
  undecided : ∀ candidate ∈ candidates, ∀ outcome, terminalOutcomeEntry contracts spec
    obligation admission now candidate ≠ .ok (some outcome)

/-- No rule for the end of an action raises on a candidate. -/
def RulesReturn (contracts : LedgerContracts) (spec : ActionSpec)
    (obligation : EvidenceObligationSpec) (admission : ActionAdmission) (now : DateTime)
    (candidates : List JsonMembers) : Prop :=
  ∀ candidate ∈ candidates, ∃ outcome, terminalOutcomeEntry contracts spec obligation
    admission now candidate = .ok outcome

/-- The candidates of a knowledge entry, with no hard failure among them. -/
structure KnowledgeCandidates (contracts : LedgerContracts)
    (obligation : EvidenceObligationSpec) (admission : ActionAdmission)
    (observations : List JsonMembers) (runId : String) (candidates : List JsonMembers) :
    Prop where
  gathered : relevantObservations contracts observations runId "search_knowledge" =
    .ok candidates
  soft : ∀ candidate ∈ candidates, hardTerminalEntry contracts obligation admission
    candidate = none

theorem firstTerminalOutcome_returns_iff {spec : ActionSpec} {candidates : List JsonMembers}
    (undecided : ∀ candidate ∈ candidates, ∀ outcome, terminalOutcomeEntry contracts spec
      obligation admission now candidate ≠ .ok (some outcome)) :
    (∃ outcome, firstTerminalOutcome contracts spec obligation admission now candidates =
        .ok outcome) ↔
      RulesReturn contracts spec obligation admission now candidates := by
  unfold RulesReturn
  induction candidates with
  | nil => simp [firstTerminalOutcome]
  | cons first rest induction =>
      have later := induction fun candidate member =>
        undecided candidate (List.mem_cons_of_mem _ member)
      rw [List.forall_mem_cons, ← later, firstTerminalOutcome]
      cases ended : terminalOutcomeEntry contracts spec obligation admission now first with
      | error stop => simp [bind, Except.bind]
      | ok outcome =>
          cases outcome with
          | none => simp [bind, Except.bind]
          | some entry => exact absurd ended (undecided first List.mem_cons_self entry)

theorem firstTerminalOutcome_undecided {spec : ActionSpec} {candidates : List JsonMembers}
    {outcome : Option ObligationEntry}
    (undecided : ∀ candidate ∈ candidates, ∀ outcome, terminalOutcomeEntry contracts spec
      obligation admission now candidate ≠ .ok (some outcome))
    (computed : firstTerminalOutcome contracts spec obligation admission now candidates =
      .ok outcome) : outcome = none := by
  induction candidates with
  | nil =>
      cases computed
      rfl
  | cons first rest induction =>
      rcases bind_eq_ok_iff.mp computed with ⟨ended, found, later⟩
      cases ended with
      | none =>
          exact induction (fun candidate member =>
            undecided candidate (List.mem_cons_of_mem _ member)) later
      | some entry => exact absurd found (undecided first List.mem_cons_self entry)

/-- With nothing to stop it, the entry is made of the first candidate that qualifies, and of
the first of all where none does. -/
theorem ResourceCandidates.entry {spec : ActionSpec} {observations : List JsonMembers}
    {runId : String} {candidates : List JsonMembers}
    (reads : ResourceCandidates contracts spec obligation admission observations runId now
      candidates) (rules : RulesReturn contracts spec obligation admission now candidates) :
    resourceEntry contracts spec obligation admission observations runId now =
      match (candidates.find? (resourceObservationQualifies contracts obligation admission
          now)).or candidates.head? with
      | none => .ok (unboundEntry obligation .pending "required_read_missing")
      | some chosen => resourceObservationEntry contracts obligation admission now chosen := by
  rcases reads.gathered with ⟨found, gathered, flat⟩
  have soft : candidates.findSome? (hardTerminalEntry contracts obligation admission) = none :=
    List.findSome?_eq_none_iff.mpr reads.soft
  rcases (firstTerminalOutcome_returns_iff reads.undecided).mpr rules with ⟨outcome, ended⟩
  rw [firstTerminalOutcome_undecided reads.undecided ended] at ended
  simp only [resourceEntry, gathered, flat, bind, Except.bind]
  cases candidates with
  | nil => rfl
  | cons first rest =>
      dsimp only
      rw [soft, ended]
      cases (first :: rest).find? (resourceObservationQualifies contracts obligation admission
        now) <;> rfl

/-- A rule that raises stops the entry. -/
theorem ResourceCandidates.stops {spec : ActionSpec} {observations : List JsonMembers}
    {runId : String} {candidates : List JsonMembers}
    (reads : ResourceCandidates contracts spec obligation admission observations runId now
      candidates) (raises : ¬RulesReturn contracts spec obligation admission now candidates)
    (entry : ObligationEntry) :
    resourceEntry contracts spec obligation admission observations runId now ≠ .ok entry := by
  intro computed
  rcases reads.gathered with ⟨found, gathered, flat⟩
  have soft : candidates.findSome? (hardTerminalEntry contracts obligation admission) = none :=
    List.findSome?_eq_none_iff.mpr reads.soft
  rw [← firstTerminalOutcome_returns_iff reads.undecided] at raises
  cases candidates with
  | nil => exact raises ⟨none, rfl⟩
  | cons first rest =>
      simp only [resourceEntry, gathered, flat, soft, bind_eq_ok_iff, Except.ok.injEq,
        exists_eq_left'] at computed
      rcases computed with ⟨outcome, ended, _⟩
      exact raises ⟨outcome, ended⟩

theorem KnowledgeCandidates.entry {observations : List JsonMembers} {runId : String}
    {candidates : List JsonMembers}
    (searches : KnowledgeCandidates contracts obligation admission observations runId
      candidates) :
    knowledgeEntry contracts obligation admission observations runId now citations
        providerAttemptId =
      match (candidates.find? (knowledgeObservationQualifies contracts obligation admission
          now)).or candidates.head? with
      | none => .ok (unboundEntry obligation .pending "knowledge_read_missing")
      | some chosen => knowledgeObservationEntry contracts obligation admission now citations
          providerAttemptId chosen := by
  have soft : candidates.findSome? (hardTerminalEntry contracts obligation admission) = none :=
    List.findSome?_eq_none_iff.mpr searches.soft
  simp only [knowledgeEntry, searches.gathered, bind, Except.bind]
  cases candidates with
  | nil => rfl
  | cons first rest =>
      dsimp only
      rw [soft]
      cases (first :: rest).find? (knowledgeObservationQualifies contracts obligation admission
        now) <;> rfl

/-! ## Agreement -/

/-- The entry of the candidates is satisfied exactly where the filter has chosen one of them,
and it is bound to that one. -/
structure ResourceCopiesAgree (contracts : LedgerContracts) (spec : ActionSpec)
    (obligation : EvidenceObligationSpec) (admission : ActionAdmission)
    (observations : List JsonMembers) (runId : String) (now : DateTime)
    (candidates : List JsonMembers) : Prop where
  satisfied : (∃ entry, resourceEntry contracts spec obligation admission observations runId
      now = .ok entry ∧ entry.status = .satisfied) ↔
    ∃ candidate ∈ candidates,
      resourceObservationQualifies contracts obligation admission now candidate = true
  bound : ∀ entry, resourceEntry contracts spec obligation admission observations runId
      now = .ok entry → entry.status = .satisfied → ∃ chosen binding,
    candidates.find? (resourceObservationQualifies contracts obligation admission now) =
      some chosen ∧ entry.binding = some binding ∧
    ReadBound contracts admission chosen
      (resourceIdentity contracts obligation (observedData chosen)) binding

/-- The entry of the candidates is qualified exactly where the filter has chosen one of
them. -/
def KnowledgeCopiesAgree (contracts : LedgerContracts) (obligation : EvidenceObligationSpec)
    (admission : ActionAdmission) (observations : List JsonMembers) (runId : String)
    (now : DateTime) (citations : List ContextCitationBinding)
    (providerAttemptId : Option String) (candidates : List JsonMembers) : Prop :=
  (∃ entry, knowledgeEntry contracts obligation admission observations runId now citations
      providerAttemptId = .ok entry ∧
      (entry.status = .readQualified ∨ entry.status = .satisfied)) ↔
    ∃ candidate ∈ candidates,
      knowledgeObservationQualifies contracts obligation admission now candidate = true

/-- Where the filter passes a candidate, no rule for an end raises, and the first that it
passes has a hash that a binding takes; where it passes none, the first candidate is no hollow
read, unless a rule raises. -/
structure ResourceReadable (contracts : LedgerContracts) (spec : ActionSpec)
    (obligation : EvidenceObligationSpec) (admission : ActionAdmission) (now : DateTime)
    (candidates : List JsonMembers) : Prop where
  hashed : ∀ chosen,
    candidates.find? (resourceObservationQualifies contracts obligation admission now) =
      some chosen → RulesReturn contracts spec obligation admission now candidates ∧
        isSha256Hex (observedHash contracts.toAssemblerContracts chosen) = true
  solid : candidates.find? (resourceObservationQualifies contracts obligation admission now) =
      none → RulesReturn contracts spec obligation admission now candidates →
    ∀ first, candidates.head? = some first →
      ¬HollowRead contracts admission now obligation first

/-- The first search that the filter passes has a hash that a binding takes, and each piece of
evidence that qualifies in it an identifier. -/
def KnowledgeReadable (contracts : LedgerContracts) (obligation : EvidenceObligationSpec)
    (admission : ActionAdmission) (now : DateTime) (candidates : List JsonMembers) : Prop :=
  ∀ chosen,
    candidates.find? (knowledgeObservationQualifies contracts obligation admission now) =
      some chosen →
    EvidenceNamed contracts now obligation chosen ∧
      isSha256Hex (observedHash contracts.toAssemblerContracts chosen) = true

section

variable {spec : ActionSpec} {observations : List JsonMembers} {runId : String}
  {candidates : List JsonMembers}

theorem resourceCopies_agree_of_found
    (written : ∀ value : Json, value.truthy = true → contracts.str value ≠ "")
    (scopeHashed : isSha256Hex admission.scopeHash = true)
    (reads : ResourceCandidates contracts spec obligation admission observations runId now
      candidates) (rules : RulesReturn contracts spec obligation admission now candidates)
    {chosen : JsonMembers} (found : candidates.find? (resourceObservationQualifies contracts
      obligation admission now) = some chosen) :
    ResourceCopiesAgree contracts spec obligation admission observations runId now candidates ↔
      isSha256Hex (observedHash contracts.toAssemblerContracts chosen) = true := by
  have entry := reads.entry rules
  rw [found] at entry
  have qualifies := List.find?_some found
  have passed : ∃ candidate ∈ candidates,
      resourceObservationQualifies contracts obligation admission now candidate = true :=
    ⟨chosen, List.mem_of_find?_eq_some found, qualifies⟩
  rcases (resourceObservationQualifies_iff written).mp qualifies with ⟨accepted, data⟩
  have versioned : ∃ version, observationVersion contracts chosen = .ok version :=
    observationVersion_returns_iff.mpr (.inr (.inr data))
  have satisfied : (∃ entry, resourceEntry contracts spec obligation admission observations
      runId now = .ok entry ∧ entry.status = .satisfied) ↔
        isSha256Hex (observedHash contracts.toAssemblerContracts chosen) = true := by
    rw [entry]
    exact resourceObservationEntry_satisfied_iff.trans
      ⟨fun able => able.2.2.1, fun hashed => ⟨accepted, versioned, hashed, scopeHashed⟩⟩
  constructor
  · intro agree
    exact satisfied.mp (agree.satisfied.mpr passed)
  · intro hashed
    constructor
    · exact iff_of_true (satisfied.mpr hashed) passed
    · intro result computed status
      rw [entry] at computed
      rcases resourceObservationEntry_qualified computed (.inl status) with
        ⟨_, _, binding, bound, readBound, _⟩
      exact ⟨chosen, binding, found, bound, readBound⟩

/-- Where the filter passes no candidate, only a hollow read is satisfied. -/
theorem resourceEntry_satisfied_of_refused
    (written : ∀ value : Json, value.truthy = true → contracts.str value ≠ "")
    (scopeHashed : isSha256Hex admission.scopeHash = true)
    (reads : ResourceCandidates contracts spec obligation admission observations runId now
      candidates) (rules : RulesReturn contracts spec obligation admission now candidates)
    (refused : candidates.find? (resourceObservationQualifies contracts obligation admission
      now) = none) :
    (∃ entry, resourceEntry contracts spec obligation admission observations runId now =
        .ok entry ∧ entry.status = .satisfied) ↔
      ∃ first, candidates.head? = some first ∧
        HollowRead contracts admission now obligation first := by
  rw [reads.entry rules, refused, Option.none_or]
  cases candidates with
  | nil => simp [unboundEntry]
  | cons first rest =>
      simp only [List.head?_cons, Option.some.injEq, exists_eq_left']
      rw [resourceObservationEntry_satisfied_iff]
      constructor
      · intro able
        rcases able with ⟨accepted, versioned, hashed, _⟩
        have hollow : ∀ data, first.value "data" ≠ .object data := by
          intro data held
          exact List.find?_eq_none.mp refused first List.mem_cons_self
            ((resourceObservationQualifies_iff written).mpr ⟨accepted, data, held⟩)
        exact (hollowRead_iff hollow).mpr ⟨accepted, versioned, hashed⟩
      · intro read
        rcases (hollowRead_iff read.hollow).mp read with ⟨accepted, versioned, hashed⟩
        exact ⟨accepted, versioned, hashed, scopeHashed⟩

/-- Where nothing qualifies, the copies agree exactly when the entry is not satisfied. -/
theorem resourceCopies_agree_of_refused
    (refused : candidates.find? (resourceObservationQualifies contracts obligation admission
      now) = none) :
    ResourceCopiesAgree contracts spec obligation admission observations runId now candidates ↔
      ¬∃ entry, resourceEntry contracts spec obligation admission observations runId now =
        .ok entry ∧ entry.status = .satisfied := by
  have none : ¬∃ candidate ∈ candidates,
      resourceObservationQualifies contracts obligation admission now candidate = true := by
    intro passed
    rcases passed with ⟨candidate, member, qualifies⟩
    exact List.find?_eq_none.mp refused candidate member qualifies
  constructor
  · intro agree satisfied
    exact none (agree.satisfied.mp satisfied)
  · intro unsatisfied
    constructor
    · exact iff_of_false unsatisfied none
    · intro result computed status
      exact absurd ⟨result, computed, status⟩ unsatisfied

theorem resourceCopies_agree_iff
    (written : ∀ value : Json, value.truthy = true → contracts.str value ≠ "")
    (scopeHashed : isSha256Hex admission.scopeHash = true)
    (reads : ResourceCandidates contracts spec obligation admission observations runId now
      candidates) :
    ResourceCopiesAgree contracts spec obligation admission observations runId now candidates ↔
      ResourceReadable contracts spec obligation admission now candidates := by
  cases found : candidates.find? (resourceObservationQualifies contracts obligation admission
    now) with
  | some chosen =>
      have readable : ResourceReadable contracts spec obligation admission now candidates ↔
          RulesReturn contracts spec obligation admission now candidates ∧
            isSha256Hex (observedHash contracts.toAssemblerContracts chosen) = true := by
        constructor
        · intro readable
          exact readable.hashed chosen found
        · intro hashed
          constructor
          · intro other same
            rw [found] at same
            cases same
            exact hashed
          · intro none
            rw [found] at none
            cases none
      rw [readable]
      by_cases rules : RulesReturn contracts spec obligation admission now candidates
      · rw [resourceCopies_agree_of_found written scopeHashed reads rules found]
        simp only [rules, true_and]
      · apply iff_of_false
        · intro agree
          rcases agree.satisfied.mpr ⟨chosen, List.mem_of_find?_eq_some found,
            List.find?_some found⟩ with ⟨entry, computed, _⟩
          exact reads.stops rules entry computed
        · intro hashed
          exact rules hashed.1
  | none =>
      rw [resourceCopies_agree_of_refused found]
      constructor
      · intro unsatisfied
        constructor
        · intro chosen same
          rw [found] at same
          cases same
        · intro _ rules first head read
          exact unsatisfied ((resourceEntry_satisfied_of_refused written scopeHashed reads rules
            found).mpr ⟨first, head, read⟩)
      · intro readable satisfied
        by_cases rules : RulesReturn contracts spec obligation admission now candidates
        · rcases (resourceEntry_satisfied_of_refused written scopeHashed reads rules found).mp
            satisfied with ⟨first, head, read⟩
          exact readable.solid found rules first head read
        · rcases satisfied with ⟨entry, computed, _⟩
          exact reads.stops rules entry computed

end

theorem knowledgeCopies_agree_iff {observations : List JsonMembers} {runId : String}
    {candidates : List JsonMembers} (scopeHashed : isSha256Hex admission.scopeHash = true)
    (searches : KnowledgeCandidates contracts obligation admission observations runId
      candidates) :
    KnowledgeCopiesAgree contracts obligation admission observations runId now citations
        providerAttemptId candidates ↔
      KnowledgeReadable contracts obligation admission now candidates := by
  unfold KnowledgeCopiesAgree
  rw [searches.entry]
  cases found : candidates.find? (knowledgeObservationQualifies contracts obligation admission
    now) with
  | some chosen =>
      have qualifies := List.find?_some found
      have passed : ∃ candidate ∈ candidates,
          knowledgeObservationQualifies contracts obligation admission now candidate = true :=
        ⟨chosen, List.mem_of_find?_eq_some found, qualifies⟩
      rw [iff_true_right passed, Option.some_or]
      rw [knowledgeObservationEntry_qualified_iff scopeHashed]
      constructor
      · intro able other same
        rw [found] at same
        cases same
        exact able.2
      · intro readable
        exact ⟨qualifies, readable chosen found⟩
  | none =>
      have refused : ¬∃ candidate ∈ candidates,
          knowledgeObservationQualifies contracts obligation admission now candidate = true := by
        intro passed
        rcases passed with ⟨candidate, member, qualifies⟩
        exact List.find?_eq_none.mp found candidate member qualifies
      have readable : KnowledgeReadable contracts obligation admission now candidates := by
        intro chosen same
        rw [found] at same
        cases same
      rw [iff_false_right refused, iff_true_right readable, Option.none_or]
      cases candidates with
      | nil => simp [unboundEntry]
      | cons first rest =>
          dsimp only [List.head?_cons]
          rw [knowledgeObservationEntry_qualified_iff scopeHashed]
          intro able
          exact refused ⟨first, List.mem_cons_self, able.1⟩

end

/-! The reads of a refund. -/

/-- `str` on what the example reads. -/
def writtenContracts : LedgerContracts :=
  { refundedContracts none with
    str := fun value => match value with
      | .string text => text
      | .null => "None"
      | _ => "1" }

theorem str_writtenContracts (value : Json) (truthy : value.truthy = true) :
    writtenContracts.str value ≠ "" := by
  cases value with
  | string text =>
      intro empty
      have empty : text = "" := empty
      rw [empty] at truthy
      cases truthy
  | null => decide
  | bool | integer | float | notANumber | infinity | array | object =>
      exact (by decide : "1" ≠ "")

def refundedRead : JsonMembers :=
  (refundedObservations "2").headD []

theorem refundedRead_undecided :
    terminalOutcomeEntry writtenContracts (actionSpec .refund) billingRecordCurrent
      refundedAdmission candidateNow refundedRead = .ok none :=
  rfl

theorem refundedReads_candidates :
    ResourceCandidates writtenContracts (actionSpec .refund) billingRecordCurrent
      refundedAdmission (refundedObservations "2") "run" candidateNow [refundedRead] where
  gathered := ⟨[[refundedRead]], rfl, rfl⟩
  soft candidate member := by
    rw [List.mem_singleton.mp member]
    rfl
  undecided candidate member outcome ended := by
    rw [List.mem_singleton.mp member, refundedRead_undecided] at ended
    cases ended

/-- A search by the policy of refunds. -/
def policySearch (evidence : JsonMembers) : JsonMembers :=
  refundedObservation "observation_2" "search_knowledge" "chunk" "index"
    [("evidence", .array [.object evidence]), ("index_version", .string "index")]

theorem policySearch_candidates (evidence : JsonMembers) :
    KnowledgeCandidates writtenContracts refundPolicyCurrent refundedAdmission
      [policySearch evidence] "run" [policySearch evidence] where
  gathered := rfl
  soft candidate member := by
    rw [List.mem_singleton.mp member]
    rfl

theorem refundedEvidence_named :
    EvidenceNamed writtenContracts candidateNow refundPolicyCurrent
      (policySearch refundedEvidence) := by
  intro evidence qualifies
  rcases qualifies with ⟨indexVersion, items, offered, member, _⟩
  have items : items = [.object refundedEvidence] := (congrArg Prod.snd (Option.some.inj
    offered)).symm
  rw [items, List.mem_singleton, Json.object.injEq] at member
  rw [member]
  rfl

/-- The evidence of a search without its identifier: the filter passes the search by its chunk,
and the entry stops on the identifier. -/
def unnamedEvidence : JsonMembers :=
  refundedEvidence.filter fun member => member.1 ≠ "evidence_id"

end SupportGuard
