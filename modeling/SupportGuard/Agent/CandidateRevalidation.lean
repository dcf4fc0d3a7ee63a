import SupportGuard.Agent.CandidateAssembly
import SupportGuard.Agent.LedgerSoundness
import SupportGuard.Foundation.Table

/-! # An assembled proposal is eligible

The ledger, the assembler and the eligibility check each find the observations of a run
again. Where the observations that the ledger is bound to go by the names of its bindings, what
it was satisfied by is what the check finds, and it passes. -/

namespace SupportGuard

open Foundation Fallible

section

variable {contracts : LedgerContracts}

/-! ## What satisfies an obligation -/

theorem observedData_of_value {observation : JsonMembers} {field : String}
    (present : (observedData observation).value field ≠ .null) :
    observation.value "data" = .object (observedData observation) := by
  unfold observedData at present ⊢
  split
  · assumption
  · rename_i other
    split at present
    · rename_i data equal
      exact absurd equal (other data)
    · exact absurd rfl present

/-- The observation that satisfies an obligation, with the binding that the ledger keeps. -/
structure SatisfiedBy (contracts : LedgerContracts) (admission : ActionAdmission)
    (now : DateTime) (obligation : EvidenceObligationSpec) (observation data : JsonMembers)
    (binding : ObligationBinding) : Prop
    extends ReadBound contracts admission observation
        (resourceIdentity contracts obligation data) binding,
      ResourceQualifies contracts admission now obligation observation data where
  observed : observation.value "data" = .object data

/-- An entry that is satisfied, with the read of the run that satisfies it. -/
structure EntrySatisfied (contracts : LedgerContracts) (admission : ActionAdmission)
    (observations : List JsonMembers) (runId : String) (now : DateTime)
    (obligation : EvidenceObligationSpec) (entry : ObligationEntry) (capability : String)
    (observation data : JsonMembers) (binding : ObligationBinding) : Prop where
  obligationId : entry.obligationId = obligation.obligationId
  kind : entry.kind = obligation.kind
  declared : capability ∈ obligation.capabilities
  read : observation ∈ runReads observations runId capability
  bound : entry.binding = some binding
  satisfiedBy : SatisfiedBy contracts admission now obligation observation data binding

variable {entry : ObligationEntry} {obligation : EvidenceObligationSpec}

/-- A resource obligation is satisfied by a read of one of its capabilities. -/
theorem resourceEntry_satisfied {spec : ActionSpec} {admission : ActionAdmission}
    {observations : List JsonMembers} {runId : String} {now : DateTime}
    (needs : obligation.requiredDataFields ≠ [])
    (computed : resourceEntry contracts spec obligation admission observations runId now =
      .ok entry) (satisfied : entry.status = .satisfied) :
    ∃ capability observation data binding, EntrySatisfied contracts admission observations
      runId now obligation entry capability observation data binding := by
  rcases resourceEntry_qualified computed (.inl satisfied) with
    ⟨named, sort, ⟨capability, declared, observation, read, binding, bound, readBound,
      qualifies⟩, _⟩
  rcases List.exists_mem_of_ne_nil _ needs with ⟨field, member⟩
  exact ⟨capability, observation, observedData observation, binding, named, sort, declared, read,
    bound, readBound, qualifies, observedData_of_value (qualifies.fields field member)⟩

/-- A policy obligation is satisfied by a search of the run. -/
theorem knowledgeEntry_satisfied {obligationId minimumVersion : String}
    {documentKeys documentTypes sectionTerms : List String} {admission : ActionAdmission}
    {observations : List JsonMembers} {runId : String} {now : DateTime}
    {citations : List ContextCitationBinding} {providerAttemptId : Option String}
    (computed : knowledgeEntry contracts
      (policyCurrent obligationId documentKeys documentTypes sectionTerms minimumVersion)
      admission observations runId now citations providerAttemptId = .ok entry)
    (satisfied : entry.status = .satisfied) :
    ∃ observation data binding, EntrySatisfied contracts admission observations runId now
      (policyCurrent obligationId documentKeys documentTypes sectionTerms minimumVersion) entry
      "search_knowledge" observation data binding := by
  rcases knowledgeEntry_qualified computed (.inl satisfied) with
    ⟨named, sort, ⟨observation, read, binding, bound, readBound, search⟩, _⟩
  rcases Option.isSome_iff_exists.mp search.offered with ⟨offered, found⟩
  have fields := offeredEvidence_fields found
  refine ⟨observation, observedData observation, binding, named, sort, List.mem_singleton_self _,
    read, bound, readBound, ?_, observedData_of_value fields.1⟩
  refine ⟨?_, ?_, ?_, rfl, ?_, rfl⟩
  · intro required
    cases required
  · intro field member
    simp only [policyCurrent, List.mem_cons, List.not_mem_nil, or_false] at member
    rcases member with rfl | rfl
    · exact fields.1
    · exact fields.2
  · intro field member
    cases member
  · intro identified
    cases identified

/-! ## What satisfied the ledger passes the check -/

variable {value : Json}

theorem parseTime_offset {time : DateTime}
    (parsed : parseTime contracts.toAssemblerContracts value = some time) :
    time.offset.isSome = true := by
  unfold parseTime at parsed
  split at parsed
  · rcases Option.map_eq_some_iff.mp parsed with ⟨read, _, rfl⟩
    split
    · rfl
    · rename_i present
      exact Option.isSome_iff_ne_none.mpr present
  · cases parsed

theorem atUtc_eq {time : DateTime} (instant : time.offset.isSome = true) : atUtc time = time := by
  unfold atUtc
  rw [if_neg (Option.isSome_iff_ne_none.mp instant)]

theorem lookup_of_value {members : JsonMembers} {key : String} (found : members.value key = value)
    (present : value ≠ .null) :
    members.lookup key = some value := by
  unfold JsonMembers.value at found
  cases looked : members.lookup key with
  | none =>
      rw [looked] at found
      exact absurd found.symm present
  | some other =>
      rw [looked] at found
      rw [← found]
      rfl

variable {binding : ObligationBinding}

/-- An observation that the ledger took for fresh is fresh at the check. -/
theorem isFresh_of_freshnessReason {now : DateTime} {observation : JsonMembers}
    (strText : ∀ text, contracts.str (.string text) = text) (instant : now.offset.isSome = true)
    (bindingOf : BindingOf contracts observation binding)
    (fresh : freshnessReason contracts now observation = none) :
    isFresh contracts.toAssemblerContracts now observation binding = .ok true := by
  unfold freshnessReason at fresh
  split at fresh
  · cases fresh
  · rename_i named
    rw [Bool.not_eq_false] at named
    have spelled := lookup_of_value (Json.pyEq_string named) (by intro equal; cases equal)
    have bound : binding.freshnessStatus = "fresh" := by
      rw [bindingOf.freshnessStatus, textAt, spelled]
      exact strText _
    split at fresh
    · cases fresh
    · rename_i freshUntil parsed
      split at fresh
      · cases fresh
      · rename_i later
        have compared : earlier freshUntil now = .ok false := by
          unfold earlier
          rw [if_pos ((parseTime_offset parsed).trans instant.symm)]
          simpa using later
        unfold isFresh
        rw [if_neg (by simp [named, bound]), parsed]
        simp only [compared, bindingOf.freshUntil, parsed]
        rfl

variable {context : EligibilityContext} {observation data : JsonMembers}

/-- The check finds nothing wrong with the observation that satisfied the ledger. -/
theorem SatisfiedBy.checkObservation {admission : ActionAdmission} {now : DateTime}
    (strText : ∀ text, contracts.str (.string text) = text) (instant : now.offset.isSome = true)
    (satisfiedBy : SatisfiedBy contracts admission now obligation observation data binding)
    (sameAdmission : context.admission = admission) (sameNow : context.effectiveNow = now) :
    checkObservation contracts.toAssemblerContracts context obligation binding observation data =
      .ok () := by
  rcases satisfiedBy.bound with ⟨evidenceIds, citationBindingIds, built⟩
  have bindingOf := (baseBinding_ok built).1
  have scope := bindingOf.scope
  rw [satisfiedBy.scope, admittedScope] at scope
  simp only [Prod.mk.injEq] at scope
  simp only [SupportGuard.checkObservation, bind_eq_ok_iff, denyWhen_eq_ok_iff, sameAdmission]
  refine ⟨(), ?_, (), ?_, (), ?_, (), ?_, (), ?_, (), ?_, ?_⟩
  · have ok : (Json.string "ok").pyEq (.string "ok") = true := Json.pyEq_self.mpr rfl
    rw [satisfiedBy.status, satisfiedBy.scope, scope.1, scope.2.1, scope.2.2]
    simp [admittedScope, ok]
  · simp [bindingOf.contentHash]
  · simp [bindingOf.sources, satisfiedBy.sources]
  · simp only [List.any_eq_true, decide_eq_true_eq, Bool.not_eq_true', not_or, not_exists,
      not_and, Bool.not_eq_false]
    exact ⟨satisfiedBy.fields, satisfiedBy.truthy⟩
  · have allowed := satisfiedBy.allowed
    simp only [statusAllowed, Bool.or_eq_true, decide_eq_true_eq] at allowed
    intro refused
    rcases allowed with empty | listed
    · exact refused.1 empty
    · exact refused.2 listed
  · unfold checkFreshness
    split
    · rename_i required
      rw [sameNow, isFresh_of_freshnessReason strText instant bindingOf
        (satisfiedBy.fresh required)]
      rfl
    · rfl
  · have refers := satisfiedBy.refers
    unfold refersTo at refers
    split
    · rfl
    · rename_i argument named
      rw [denyWhen_eq_ok_iff]
      rw [named] at refers
      simp only [ne_eq, decide_not, Bool.and_eq_true, Bool.not_eq_eq_eq_not, Bool.not_true,
        decide_eq_false_iff_not, decide_eq_true_eq] at refers
      intro refused
      rcases refused with empty | absent
      · exact refers.1 empty
      · exact absent refers.2

/-! ## Which observation a binding names -/

/-- What the assembler and the check look an observation up by. -/
def goesBy (name : String) (item : JsonMembers) : Bool :=
  (item.value "observation_id").pyEq (.string name) ||
    !(item.value "observation_id").truthy && (item.value "tool_call_id").pyEq (.string name)

theorem boundObservations_eq (ledger : ActionObligationLedger) (binding : ObligationBinding)
    (observations : List JsonMembers) :
    boundObservations ledger binding observations =
      (runReads observations ledger.runId binding.toolName).filter
        (goesBy binding.observationId) := by
  unfold boundObservations runReads goesBy
  rw [List.filter_filter]
  apply List.filter_congr
  intro item _
  rw [Bool.and_comm]

theorem boundObservations_named (ledger : ActionObligationLedger) (binding : ObligationBinding)
    (observations : List JsonMembers) :
    boundObservations ledger binding observations =
      (observationsNamed ledger binding observations).filter fun item =>
        (item.value "tool_name").pyEq (.string binding.toolName) := by
  unfold boundObservations observationsNamed
  rw [List.filter_filter]
  apply List.filter_congr
  intro item _
  rw [← Bool.and_assoc, Bool.and_comm ((item.value "tool_name").pyEq _)]

/-- The observations that a ledger is bound to go by the names of its bindings. The version of
its resource reads as an integer, and one search goes by the name of its policy. -/
structure BoundReadsFound (contracts : LedgerContracts) (ledger : ActionObligationLedger)
    (observations : List JsonMembers) : Prop where
  named : ∀ entry ∈ ledger.obligations, ∀ binding, entry.binding = some binding →
    ∀ item ∈ runReads observations ledger.runId binding.toolName,
      BindingOf contracts item binding → goesBy binding.observationId item = true
  versions : ∀ entry ∈ ledger.obligations, entry.kind ≠ .knowledge →
    ∀ binding, entry.binding = some binding →
      (contracts.int (binding.resourceVersion.getD "")).isSome = true
  searches : ∀ entry ∈ ledger.obligations, entry.kind = .knowledge →
    ∀ binding, entry.binding = some binding →
      (boundObservations ledger binding observations).length ≤ 1

theorem BindingOf.toolName_eq {observations : List JsonMembers} {observation : JsonMembers}
    {runId capability : String} (bindingOf : BindingOf contracts observation binding)
    (strText : ∀ text, contracts.str (.string text) = text)
    (read : observation ∈ runReads observations runId capability) :
    binding.toolName = capability := by
  have by_tool := (List.mem_filter.mp read).2
  rw [Bool.and_eq_true] at by_tool
  rw [bindingOf.toolName, textAt, lookup_of_value (Json.pyEq_string by_tool.2)
    (by intro equal; cases equal)]
  exact strText capability

/-! ## A ledger that is ready -/

/-- What the actions have in common: a resource that is read and a policy. -/
structure ActionShape (spec : ActionSpec) (resource policy : EvidenceObligationSpec)
    (resourceField : String) : Prop where
  obligations : spec.obligations = [resource, policy]
  kind : resource.kind = .resource
  needs : resource.requiredDataFields ≠ []
  identified : resource.observedResourceField = some resourceField
  knowledge : ∃ obligationId documentKeys documentTypes sectionTerms minimumVersion, policy =
    policyCurrent obligationId documentKeys documentTypes sectionTerms minimumVersion
  observed : observedField resourceField resource.obligationId ∈ spec.proposalFields
  onlyObserved : ∀ field ∈ spec.proposalFields, ∀ obligationId,
    field.source = .observation obligationId → obligationId = resource.obligationId

theorem actionSpec_shape (actionType : ActionType) :
    ∃ resource policy resourceField,
      ActionShape (actionSpec actionType) resource policy resourceField := by
  cases actionType with
  | refund =>
      refine ⟨billingRecordCurrent, refundPolicyCurrent, "billing_record_id", rfl, rfl,
        by decide, rfl, ⟨_, _, _, _, _, rfl⟩, List.mem_cons_self, ?_⟩
      simp [actionSpec, observedField, reasonField, billingRecordCurrent]
  | apiKeyRevocation =>
      refine ⟨apiKeyMetadataCurrent, apiKeyRevocationPolicyCurrent, "api_key_id", rfl, rfl,
        by decide, rfl, ⟨_, _, _, _, _, rfl⟩, List.mem_cons_self, ?_⟩
      simp [actionSpec, observedField, reasonField, apiKeyMetadataCurrent]
  | entitlementChange =>
      refine ⟨subscriptionCurrent, entitlementPolicyCurrent, "subscription_id", rfl, rfl,
        by decide, rfl, ⟨_, _, _, _, _, rfl⟩, List.mem_cons_self, ?_⟩
      simp [actionSpec, observedField, admittedField, reasonField, subscriptionCurrent]

theorem actionSpec_actionType (actionType : ActionType) :
    (actionSpec actionType).actionType = actionType := by
  cases actionType <;> rfl

theorem ledgerState_assembleCandidate {entries : List ObligationEntry}
    (next : (ledgerState entries).1 = .assembleCandidate) :
    ∀ entry ∈ entries, entry.status = .satisfied := by
  unfold ledgerState at next
  split at next
  · cases next
  · split at next
    · cases next
    · split at next
      · rename_i all
        simpa using all.2
      · split at next
        · cases next
        · split at next
          · cases next
          · cases next

variable {spec : ActionSpec} {resource policy : EvidenceObligationSpec} {resourceField : String}
  {admission : ActionAdmission} {observations : List JsonMembers} {runId : String}
  {citations : List ContextCitationBinding} {providerAttemptId : Option String}
  {now : DateTime} {ledger : ActionObligationLedger}

/-- A ledger from which a candidate is assembled: a resource and a policy that are satisfied. -/
theorem evaluateActionObligations_ready (shape : ActionShape spec resource policy resourceField)
    (instant : now.offset.isSome = true)
    (evaluated : evaluateActionObligations contracts spec admission observations runId citations
      providerAttemptId now = .ok ledger) (next : ledger.nextState = .assembleCandidate) :
    ledger.runId = runId ∧ ledger.actionType = spec.actionType ∧
      ∃ resourceEntry policyEntry, ledger.obligations = [resourceEntry, policyEntry] ∧
        resourceEntry.status = .satisfied ∧ policyEntry.status = .satisfied ∧
        (∃ capability observation data binding, EntrySatisfied contracts admission observations
          runId now resource resourceEntry capability observation data binding) ∧
        ∃ observation data binding, EntrySatisfied contracts admission observations runId now
          policy policyEntry "search_knowledge" observation data binding := by
  simp only [evaluateActionObligations, bind_eq_ok_iff, Except.ok.injEq, shape.obligations,
    atUtc_eq instant] at evaluated
  rcases evaluated with ⟨_, _, entries, mapped, rfl⟩
  have satisfied := ledgerState_assembleCandidate next
  have each := mapM_forall₂ mapped
  rcases each with _ | ⟨resourceComputed, rest⟩
  rcases rest with _ | ⟨policyComputed, rest⟩
  cases rest
  rename_i resourceEntry policyEntry
  rcases shape.knowledge with
    ⟨obligationId, documentKeys, documentTypes, sectionTerms, minimumVersion, equal⟩
  have resourceSatisfied := satisfied resourceEntry (by simp)
  have policySatisfied := satisfied policyEntry (by simp)
  subst equal
  rw [if_neg (by rw [shape.kind]; intro equal; cases equal)] at resourceComputed
  have sort : (policyCurrent obligationId documentKeys documentTypes sectionTerms
    minimumVersion).kind = .knowledge := rfl
  rw [if_pos sort] at policyComputed
  refine ⟨rfl, rfl, resourceEntry, policyEntry, rfl, resourceSatisfied, policySatisfied, ?_, ?_⟩
  · exact resourceEntry_satisfied shape.needs resourceComputed resourceSatisfied
  · exact knowledgeEntry_satisfied policyComputed policySatisfied

/-! ## The bindings are found again -/

theorem observationByBinding_ok {obligationId : String} {data : JsonMembers}
    (found : observationByBinding ledger observations obligationId = .ok data) :
    ∃ entry binding observation, ledger.entry? obligationId = some entry ∧
      entry.binding = some binding ∧
      observationsNamed ledger binding observations = [observation] ∧
      observation.value "data" = .object data := by
  simp only [observationByBinding, bind_eq_ok_iff, orStop_eq_ok_iff,
    Option.filter_eq_some_iff] at found
  rcases found with ⟨entry, entered, binding, bound, found⟩
  split at found
  · rename_i observation only
    split at found
    · rename_i members observed
      cases found
      exact ⟨entry, binding, observation, entered.1, bound, only, observed⟩
    · cases found
  · cases found

theorem mem_boundObservations {observation : JsonMembers}
    (read : observation ∈ runReads observations ledger.runId binding.toolName)
    (goes : goesBy binding.observationId observation = true) :
    observation ∈ boundObservations ledger binding observations := by
  rw [boundObservations_eq]
  exact List.mem_filter.mpr ⟨read, goes⟩

theorem boundObservation_of_only {observation : JsonMembers}
    (among : observation ∈ boundObservations ledger binding observations)
    (only : (boundObservations ledger binding observations).length ≤ 1) :
    boundObservation ledger binding observations = some observation := by
  unfold boundObservation
  cases fits : boundObservations ledger binding observations with
  | nil =>
      rw [fits] at among
      cases among
  | cons first others =>
      rw [fits] at among only
      have none : others = [] := List.length_eq_zero_iff.mp (by simpa using only)
      rw [none, List.mem_singleton] at among
      rw [none, among]

/-- An obligation whose observation is found again passes. -/
theorem EntrySatisfied.validateObservationBinding {capability : String}
    {identified : Option BoundResource} (strText : ∀ text, contracts.str (.string text) = text)
    (instant : now.offset.isSome = true)
    (satisfied : EntrySatisfied contracts admission observations runId now obligation entry
      capability observation data binding) (sameAdmission : context.admission = admission)
    (sameNow : context.effectiveNow = now)
    (entered : context.ledger.entry? obligation.obligationId = some entry)
    (found : boundObservation context.ledger binding observations = some observation)
    (resourceFound : boundResource contracts.toAssemblerContracts obligation binding data =
      .ok identified) :
    validateObservationBinding contracts.toAssemblerContracts context observations obligation =
      .ok (projectedBinding context obligation binding observation data identified,
        identified) := by
  unfold SupportGuard.validateObservationBinding
  simp only [bind_eq_ok_iff, orDeny_eq_ok_iff, entered, Option.bind_some, satisfied.bound]
  refine ⟨binding, rfl, observation, found, ?_⟩
  rw [satisfied.satisfiedBy.observed]
  simp only [bind_eq_ok_iff, resourceFound, Except.ok.injEq]
  exact ⟨(), satisfied.satisfiedBy.checkObservation strText instant sameAdmission sameNow,
    identified, rfl, rfl⟩

/-! ## The arguments of a candidate -/

variable {declared : List (String × (Json → Bool))} {members validated : JsonMembers}

/-- Members in their declared order are their own dump. -/
theorem validateMembers_self (valid : validateMembers declared members = some validated)
    (names : members.map Prod.fst = declared.map Prod.fst) (unique : (members.map Prod.fst).Nodup) :
    validated = members := by
  rcases List.forall₂_iff_get.mp (validateMembers_forall₂ valid) with ⟨sameLength, each⟩
  have length : members.length = declared.length := by
    simpa using congrArg List.length names
  apply List.ext_getElem (by omega)
  intro index within membersWithin
  have found := each index (by omega) within
  simp only [List.get_eq_getElem] at found
  have name : (members[index]).1 = (declared[index]).1 := by
    have equal := List.getElem_of_eq names (by simpa using membersWithin)
    simpa using equal
  have own : members.value (members[index]).1 = (members[index]).2 :=
    value_of_mem unique (List.getElem_mem membersWithin)
  rw [name, JsonMembers.value, found.2.1] at own
  exact Prod.ext (found.1.trans name.symm) own

theorem validText_holdsNaN {minimum maximum : Nat}
    (valid : validText minimum maximum value = true) : value.holdsNaN = false := by
  cases value <;> first | rfl | cases valid

theorem validInteger_holdsNaN {minimum maximum : Int}
    (valid : validInteger minimum maximum value = true) : value.holdsNaN = false := by
  cases value <;> first | rfl | cases valid

theorem validateMembers_mem {member : String × Json}
    (valid : validateMembers declared members = some validated) (among : member ∈ validated) :
    ∃ field ∈ declared, member.1 = field.1 ∧ field.2 member.2 = true := by
  rcases List.forall₂_iff_get.mp (validateMembers_forall₂ valid) with ⟨sameLength, each⟩
  rcases List.get_of_mem among with ⟨index, rfl⟩
  have found := each index.1 (by omega) index.2
  exact ⟨_, List.get_mem _ _, found.1, found.2.2⟩

/-- Dumped values hold no NaN where no declared check admits one. -/
theorem validateMembers_holdsNaN
    (plain : ∀ field ∈ declared, ∀ value, field.2 value = true → value.holdsNaN = false)
    (valid : validateMembers declared members = some validated) :
    Json.membersHoldNaN validated = false := by
  rw [Json.membersHoldNaN_eq_false]
  intro member among
  rcases validateMembers_mem valid among with ⟨field, known, _, checked⟩
  exact plain field known member.2 checked

theorem validateQuotaTarget_holdsNaN {target validated : JsonMembers}
    (valid : validateQuotaTarget target = some validated) :
    Json.membersHoldNaN validated = false := by
  unfold validateQuotaTarget at valid
  dsimp only at valid
  split at valid
  · rename_i allowed
    split at valid
    · rename_i member only
      cases valid
      have among : member ∈ ["rpm_limit", "concurrency_limit"].filterMap fun name =>
          ((target.lookup name).filter (· ≠ .null)).map fun value => (name, value) := by
        rw [only]
        exact List.mem_singleton_self _
      rcases List.mem_filterMap.mp among with ⟨name, _, found⟩
      simp only [Option.map_eq_some_iff, Option.filter_eq_some_iff] at found
      rcases found with ⟨value, ⟨looked, present⟩, rfl⟩
      rcases List.lookup_eq_some_iff.mp looked with ⟨before, after, split, _⟩
      have checked := List.all_eq_true.mp allowed (name, value) (by simp [split])
      simp only [List.any_cons, List.any_nil, Bool.or_eq_true, Bool.and_eq_true,
        decide_eq_true_eq, Bool.or_false] at checked
      simp only [ne_eq, decide_eq_true_eq] at present
      simp only [Json.membersHoldNaN, Bool.or_false]
      rcases checked with ⟨_, null | rate⟩ | ⟨_, null | rate⟩
      · exact absurd null present
      · exact validInteger_holdsNaN rate
      · exact absurd null present
      · exact validInteger_holdsNaN rate
    · cases valid
  · cases valid

theorem validateEntitlementTarget_holdsNaN {changeType : Json} {target validated : JsonMembers}
    (valid : validateEntitlementTarget changeType target = some validated) :
    Json.membersHoldNaN validated = false := by
  unfold validateEntitlementTarget at valid
  split at valid
  · exact validateQuotaTarget_holdsNaN valid
  · apply validateMembers_holdsNaN _ valid
    intro field declared value checked
    rw [List.mem_singleton.mp declared] at checked
    exact validText_holdsNaN checked

/-- Arguments in the order of the schema, with a target as the schema writes it, are their own
dump. -/
theorem validateEntitlementArguments_self {arguments validated : JsonMembers}
    (names : arguments.map Prod.fst = ["subscription_id", "change_type", "target", "reason"])
    (canonical : ∀ target dumped, arguments.value "target" = .object target →
      validateEntitlementTarget (arguments.value "change_type") target = some dumped →
        dumped = target)
    (valid : validateEntitlementArguments arguments = some validated) :
    validated = arguments ∧ Json.membersHoldNaN validated = false := by
  have unique : (arguments.map Prod.fst).Nodup := by
    rw [names]
    decide
  simp only [validateEntitlementArguments, Option.bind_eq_bind, Option.bind_eq_some_iff] at valid
  rcases valid with ⟨members, listed, valid⟩
  have same := validateMembers_self listed names unique
  subst same
  split at valid
  · rename_i target observed
    rcases Option.bind_eq_some_iff.mp valid with ⟨dumped, targeted, equal⟩
    have kept := canonical target dumped observed targeted
    subst kept
    cases equal
    have unchanged : members.map (fun member =>
        if member.1 = "target" then (member.1, .object dumped) else member) = members := by
      apply (List.map_congr_left ?_).trans (List.map_id members)
      intro member among
      split
      · rename_i named
        have own := value_of_mem unique among
        rw [named, observed] at own
        exact Prod.ext rfl own
      · rfl
    rw [unchanged]
    refine ⟨rfl, ?_⟩
    rw [Json.membersHoldNaN_eq_false]
    intro member among
    by_cases named : member.1 = "target"
    · have own := value_of_mem unique among
      rw [named, observed] at own
      rw [← own, Json.holdsNaN]
      exact validateEntitlementTarget_holdsNaN targeted
    · rcases validateMembers_mem listed among with ⟨field, known, name, checked⟩
      simp only [List.mem_cons, List.not_mem_nil, or_false] at known
      rcases known with rfl | rfl | rfl | rfl
      · exact validText_holdsNaN checked
      · simp only [Bool.or_eq_true, decide_eq_true_eq] at checked
        rcases checked with equal | equal
        · rw [equal]
          rfl
        · rw [equal]
          rfl
      · exact absurd name named
      · exact validText_holdsNaN checked
  · cases valid

variable {actionType : ActionType}

theorem validateArguments_self {arguments validated : JsonMembers} (names : arguments.map Prod.fst =
      (actionSpec actionType).proposalFields.map ProposalFieldBinding.targetField)
    (canonical : actionType = .entitlementChange →
      ∀ target dumped, arguments.value "target" = .object target →
        validateEntitlementTarget (arguments.value "change_type") target = some dumped →
          dumped = target) (valid : validateArguments actionType arguments = some validated) :
    validated = arguments ∧ Json.membersHoldNaN validated = false := by
  have unique : (arguments.map Prod.fst).Nodup := by
    rw [names]
    exact (actionSpec actionType).uniqueTargets
  cases actionType with
  | refund =>
      refine ⟨validateMembers_self valid names unique, validateMembers_holdsNaN ?_ valid⟩
      intro field known value checked
      simp only [List.mem_cons, List.not_mem_nil, or_false] at known
      rcases known with rfl | rfl
      · exact validText_holdsNaN checked
      · exact validText_holdsNaN checked
  | apiKeyRevocation =>
      refine ⟨validateMembers_self valid names unique, validateMembers_holdsNaN ?_ valid⟩
      intro field known value checked
      simp only [List.mem_cons, List.not_mem_nil, or_false] at known
      rcases known with rfl | rfl
      · exact validText_holdsNaN checked
      · exact validText_holdsNaN checked
  | entitlementChange => exact validateEntitlementArguments_self names (canonical rfl) valid

/-- What the assembler puts into an argument is what the check expects there. -/
theorem expectedValue_of_proposalValue {field : ProposalFieldBinding} {obligationId : String}
    (sameAdmission : context.admission = admission) (sameLedger : context.ledger = ledger)
    (onlyObserved : ∀ named, field.source = .observation named → named = obligationId)
    (entered : ledger.entry? obligationId = some entry) (bound : entry.binding = some binding)
    (found : boundObservation ledger binding observations = some observation)
    (observed : observation.value "data" = .object data)
    (proposed : proposalValue admission ledger observations field = .ok value) :
    expectedValue context observations field = .ok value := by
  unfold proposalValue at proposed
  unfold expectedValue
  rw [sameAdmission, sameLedger]
  cases source : field.source with
  | admission =>
      simp only [source, bind_eq_ok_iff, Except.ok.injEq] at proposed
      rcases proposed with ⟨present, equal, _, _, rfl⟩
      exact congrArg Except.ok equal
  | requestReason =>
      simp only [source, bind_eq_ok_iff, Except.ok.injEq] at proposed
      rcases proposed with ⟨present, equal, _, _, rfl⟩
      exact congrArg Except.ok equal
  | observation named =>
      have same := onlyObserved named source
      subst same
      simp only [source, bind_eq_ok_iff, Except.ok.injEq] at proposed
      rcases proposed with ⟨members, byBinding, present, equal, _, _, rfl⟩
      rcases observationByBinding_ok byBinding with
        ⟨entry', binding', other, entered', bound', only, otherObserved⟩
      rw [entered, Option.some.injEq] at entered'
      subst entered'
      rw [bound, Option.some.injEq] at bound'
      subst bound'
      have among : observation ∈ observationsNamed ledger binding observations := by
        apply List.mem_of_mem_filter (p := fun item : JsonMembers =>
          (item.value "tool_name").pyEq (.string binding.toolName))
        rw [← boundObservations_named, boundObservation_eq_some found]
        exact List.mem_singleton_self _
      rw [only, List.mem_singleton] at among
      rw [← among, observed, Json.object.injEq] at otherObserved
      subst otherObserved
      simp only [entered, bind_eq_ok_iff, orDeny_eq_ok_iff, bound, Option.some.injEq]
      refine ⟨binding, rfl, ?_⟩
      rw [found]
      dsimp only
      rw [lookup_of_value observed (by intro equal; cases equal)]
      exact congrArg Except.ok equal

/-- The target of an admission has no member that the schema would leave out. -/
def CanonicalTarget (admission : ActionAdmission) : Prop :=
  ∀ target dumped, admission.extractedArguments.value "target" = .object target →
    validateEntitlementTarget (admission.extractedArguments.value "change_type") target =
      some dumped → dumped = target

variable {arguments : JsonMembers} {fields : List ProposalFieldBinding}

theorem proposedArguments_forall₂
    (proposed : proposedArguments admission ledger observations fields = .ok arguments) :
    List.Forall₂ (fun field argument => argument.1 = field.targetField ∧
      proposalValue admission ledger observations field = .ok argument.2) fields arguments := by
  apply (mapM_forall₂ proposed).imp
  intro field argument computed
  simp only [bind_eq_ok_iff, Except.ok.injEq] at computed
  rcases computed with ⟨value, found, rfl⟩
  exact ⟨rfl, found⟩

theorem proposedArguments_names
    (proposed : proposedArguments admission ledger observations fields = .ok arguments) :
    arguments.map Prod.fst = fields.map ProposalFieldBinding.targetField := by
  have each := (proposedArguments_forall₂ proposed).imp fun _ _ found => found.1.symm
  rw [← List.forall₂_eq_eq_eq, List.forall₂_map_left_iff, List.forall₂_map_right_iff]
  exact each.flip.imp fun _ _ equal => equal.symm

/-- Each declared field has its value among the arguments. -/
theorem proposedArguments_value (field : ProposalFieldBinding)
    (unique : (fields.map ProposalFieldBinding.targetField).Nodup)
    (proposed : proposedArguments admission ledger observations fields = .ok arguments)
    (declared : field ∈ fields) :
    proposalValue admission ledger observations field =
      .ok (arguments.value field.targetField) := by
  rcases List.forall₂_iff_get.mp (proposedArguments_forall₂ proposed) with ⟨sameLength, each⟩
  rcases List.get_of_mem declared with ⟨index, rfl⟩
  have found := each index.1 index.2 (by omega)
  rw [← proposedArguments_names proposed] at unique
  rw [← found.1, value_of_mem unique (List.get_mem _ _)]
  exact found.2

variable {candidate : CandidateResponse}

theorem checkProposalFields_of_forall :
    ∀ {fields : List ProposalFieldBinding},
      (∀ field ∈ fields, ∃ expected, expectedValue context observations field = .ok expected ∧
        (candidate.proposedArguments.value field.targetField).pyEq expected = true) →
      checkProposalFields candidate context observations fields = .ok ()
  | [], _ => rfl
  | first :: rest, each => by
      rcases each first List.mem_cons_self with ⟨expected, found, equal⟩
      simp only [checkProposalFields, bind_eq_ok_iff, denyWhen_eq_ok_iff, Bool.not_eq_false]
      refine ⟨expected, found, (), equal, ?_⟩
      apply checkProposalFields_of_forall
      intro field member
      exact each field (List.mem_cons_of_mem _ member)

/-! ## Revalidation -/

theorem validateCandidate_ok {synthesis : BoundEvidenceSynthesis} {citations sources : List String}
    (validated : validateCandidate actionType synthesis citations sources arguments =
      .ok candidate) :
    validateArguments actionType arguments = some candidate.proposedArguments ∧
      candidate.action = proposalAction actionType ∧
      candidate.materialClaims = synthesis.materialClaims := by
  unfold validateCandidate at validated
  split at validated
  · cases validated
  · rename_i dumped valid
    split at validated
    · cases validated
      exact ⟨valid, rfl, rfl⟩
    · cases validated

/-- What a candidate has once it is assembled. -/
structure Assembled (actionType : ActionType) (admission : ActionAdmission)
    (ledger : ActionObligationLedger) (observations : List JsonMembers)
    (candidate : CandidateResponse) : Prop where
  action : candidate.action = proposalAction actionType
  admitted : admission.status = .admitted ∧ admission.actionType = some actionType
  ofLedger : ledger.actionType = actionType ∧ ledger.allObligationsSatisfied = true
  proposed : proposedArguments admission ledger observations
    (actionSpec actionType).proposalFields = .ok candidate.proposedArguments
  valid : validateArguments actionType candidate.proposedArguments =
    some candidate.proposedArguments
  plain : Json.membersHoldNaN candidate.proposedArguments = false
  knowledge : (ledger.bindingsOf (· = .knowledge)).flatMap
    ObligationBinding.citationBindingIds ≠ []
  citations : candidate.materialClaims.flatMap MaterialClaim.citationBindingIds ≠ [] ∧
    candidate.materialClaims.flatMap MaterialClaim.citationBindingIds ⊆
      (ledger.bindingsOf (· = .knowledge)).flatMap ObligationBinding.citationBindingIds
  sources : candidate.materialClaims.flatMap MaterialClaim.observationSourceIds ≠ [] ∧
    candidate.materialClaims.flatMap MaterialClaim.observationSourceIds ⊆
      (ledger.bindingsOf (· ≠ .knowledge)).flatMap ObligationBinding.sourceIds

theorem proposalValue_admission {field : ProposalFieldBinding} (source : field.source = .admission)
    (proposed : proposalValue admission ledger observations field = .ok value) :
    value = admission.extractedArguments.value field.sourcePath := by
  unfold proposalValue at proposed
  simp only [source, bind_eq_ok_iff, Except.ok.injEq] at proposed
  rcases proposed with ⟨present, equal, _, _, rfl⟩
  exact equal.symm

/-- The target of a candidate is the one that was admitted. -/
theorem CanonicalTarget.proposed (canonical : CanonicalTarget admission)
    (proposed : proposedArguments admission ledger observations
      (actionSpec .entitlementChange).proposalFields = .ok arguments) (target dumped : JsonMembers)
    (observed : arguments.value "target" = .object target)
    (targeted : validateEntitlementTarget (arguments.value "change_type") target =
      some dumped) : dumped = target := by
  have unique := (actionSpec .entitlementChange).uniqueTargets
  have admittedTarget := proposalValue_admission rfl
    (proposedArguments_value (admittedField "target") unique proposed
      (by simp [actionSpec]))
  have admittedChange := proposalValue_admission rfl
    (proposedArguments_value (admittedField "change_type") unique proposed
      (by simp [actionSpec]))
  apply canonical target dumped
  · exact admittedTarget.symm.trans observed
  · exact admittedChange ▸ targeted

theorem assembleActionCandidate_ok {synthesis : BoundEvidenceSynthesis}
    (canonical : CanonicalTarget admission)
    (assembled : assembleActionCandidate (actionSpec actionType) admission ledger observations
      synthesis = .ok candidate) :
    Assembled actionType admission ledger observations candidate := by
  simp only [assembleActionCandidate, bind_eq_ok_iff, refuseWhen_eq_ok_iff,
    actionSpec_actionType, not_or, not_not, Bool.not_eq_false] at assembled
  rcases assembled with ⟨_, binds, _, complete, _, citations, _, sources, arguments, proposed,
    validated⟩
  rcases validateCandidate_ok validated with ⟨valid, action, claims⟩
  have self := validateArguments_self (proposedArguments_names proposed) (by
    intro equal
    subst equal
    exact canonical.proposed proposed) valid
  rw [← claims] at citations sources
  rw [← self.1] at valid proposed
  exact ⟨action, ⟨binds.1, binds.2.1⟩, binds.2.2, proposed, valid, self.2, complete.1,
    citations, sources⟩

theorem Assembled.validateCandidateContext {admissionPayload ledgerPayload : Option Json}
    (assembled : Assembled actionType admission ledger observations candidate) (now : DateTime)
    (named : ledger.runId ≠ "")
    (admissionRead : contracts.validateAdmission (payloadOrEmpty admissionPayload) =
      some admission)
    (ledgerRead : contracts.validateLedger (payloadOrEmpty ledgerPayload) = some ledger) :
    validateCandidateContext contracts.toAssemblerContracts (actionSpec actionType) candidate
        admissionPayload ledgerPayload now =
      .ok
        { actionSpec := actionSpec actionType
          admission
          ledger
          effectiveNow := now
          claimCitations :=
            (candidate.materialClaims.flatMap MaterialClaim.citationBindingIds).dedup } := by
  have names := proposedArguments_names assembled.proposed
  simp only [SupportGuard.validateCandidateContext, bind_eq_ok_iff, orDeny_eq_ok_iff,
    denyWhen_eq_ok_iff, actionSpec_actionType]
  refine ⟨admission, admissionRead, ledger, ledgerRead, (), ?_, (), ?_, (), ?_,
    candidate.proposedArguments, assembled.valid, (), ?_, (), ?_, (), ?_, (), ?_, rfl⟩
  · simp [assembled.admitted, assembled.ofLedger, named]
  · simp [assembled.ofLedger]
  · simp [names]
  · rw [Bool.not_eq_false, Json.pyEq_self, Json.holdsNaN]
    exact assembled.plain
  · exact assembled.knowledge
  · simp only [List.dedup_eq_nil, not_or, not_not]
    exact ⟨assembled.citations.1,
      fun citation member => assembled.citations.2 (List.dedup_subset _ member)⟩
  · simp only [not_or, not_not]
    exact assembled.sources

/-- The entry of an obligation is found under its identifier. -/
theorem entry?_of_mem (unique : (ledger.obligations.map ObligationEntry.obligationId).Nodup)
    (member : entry ∈ ledger.obligations) : ledger.entry? entry.obligationId = some entry :=
  Table.find_of_mem unique member

/-- The read that satisfies an obligation is among those that its binding names. -/
theorem EntrySatisfied.mem_boundObservations {capability : String}
    (satisfied : EntrySatisfied contracts admission observations ledger.runId now obligation entry
      capability observation data binding) (strText : ∀ text, contracts.str (.string text) = text)
    (foundReads : BoundReadsFound contracts ledger observations)
    (member : entry ∈ ledger.obligations) :
    observation ∈ boundObservations ledger binding observations := by
  rcases satisfied.satisfiedBy.bound with ⟨evidenceIds, citationBindingIds, built⟩
  have bindingOf := (baseBinding_ok built).1
  have read := satisfied.read
  rw [← bindingOf.toolName_eq strText read] at read
  apply SupportGuard.mem_boundObservations read
  exact foundReads.named entry member binding satisfied.bound observation read bindingOf

/-- No other read goes by the name of the resource, as the assembler has found. -/
theorem boundObservations_resource (shape : ActionShape spec resource policy resourceField)
    (entered : ledger.entry? resource.obligationId = some entry)
    (bound : entry.binding = some binding)
    (proposed : proposedArguments admission ledger observations spec.proposalFields =
      .ok arguments) :
    (boundObservations ledger binding observations).length ≤ 1 := by
  have value := proposedArguments_value _ spec.uniqueTargets proposed shape.observed
  simp only [proposalValue, observedField, bind_eq_ok_iff] at value
  rcases value with ⟨members, byBinding, _⟩
  rcases observationByBinding_ok byBinding with
    ⟨entry', binding', other, entered', bound', only, _⟩
  rw [entered, Option.some.injEq] at entered'
  subst entered'
  rw [bound, Option.some.injEq] at bound'
  subst bound'
  rw [boundObservations_named, only]
  exact List.length_filter_le _ [other]

/-- The resource of the obligation, as the ledger has named it. -/
theorem EntrySatisfied.boundResource {capability : String}
    (satisfied : EntrySatisfied contracts admission observations runId now resource entry
      capability observation data binding) (shape : ActionShape spec resource policy resourceField)
    (isVersion : (contracts.int (binding.resourceVersion.getD "")).isSome = true) :
    ∃ version resourceId, resourceId = contracts.str (data.value resourceField) ∧
      resourceId ≠ "" ∧ binding.resourceId = some resourceId ∧
      boundResource contracts.toAssemblerContracts resource binding data =
        .ok (some
          { resourceType := resourceField, resourceId, resourceVersion := version }) := by
  rcases satisfied.satisfiedBy.bound with ⟨evidenceIds, citationBindingIds, built⟩
  rcases baseBinding_ok built with ⟨_, boundId⟩
  have different := satisfied.satisfiedBy.identity
  rcases Option.isSome_iff_exists.mp isVersion with ⟨version, versionRead⟩
  simp only [resourceIdentity, shape.identified, Option.map_some] at different boundId
  have nonempty : strOrEmpty contracts (data.value resourceField) ≠ "" := by
    intro equal
    exact different (congrArg some equal)
  have spelled : strOrEmpty contracts (data.value resourceField) =
      contracts.str (data.value resourceField) := by
    unfold strOrEmpty
    rw [if_pos (truthy_of_strOrEmpty nonempty)]
  refine ⟨version, _, rfl, spelled ▸ nonempty, boundId.trans (congrArg some spelled), ?_⟩
  unfold SupportGuard.boundResource
  rw [shape.kind, shape.identified]
  simp only [bind_eq_ok_iff, orDeny_eq_ok_iff]
  refine ⟨version, versionRead, ?_⟩
  rw [if_pos (truthy_of_strOrEmpty nonempty)]

theorem boundResource_policy {data : JsonMembers}
    (shape : ActionShape spec resource policy resourceField) :
    boundResource contracts.toAssemblerContracts policy binding data = .ok none := by
  rcases shape.knowledge with
    ⟨obligationId, documentKeys, documentTypes, sectionTerms, minimumVersion, rfl⟩
  rfl

theorem value_holdsNaN {members : JsonMembers} (plain : Json.membersHoldNaN members = false)
    (key : String) : (members.value key).holdsNaN = false := by
  unfold JsonMembers.value
  cases looked : members.lookup key with
  | none => rfl
  | some value =>
      rcases List.lookup_eq_some_iff.mp looked with ⟨before, after, equal, _⟩
      exact Json.membersHoldNaN_eq_false.mp plain (key, value) (by simp [equal])

theorem validateObservationBindings_pair {value policyValue : JsonMembers} {bound : BoundResource}
    (obligations : context.actionSpec.obligations = [resource, policy])
    (first : validateObservationBinding contracts.toAssemblerContracts context observations
      resource = .ok (value, some bound))
    (second : validateObservationBinding contracts.toAssemblerContracts context observations
      policy = .ok (policyValue, none)) (nonempty : bound.resourceId ≠ "") :
    validateObservationBindings contracts.toAssemblerContracts context observations =
      .ok ([value, policyValue], bound) := by
  simp only [validateObservationBindings, obligations, collectBindings, bind_eq_ok_iff,
    orDeny_eq_ok_iff, first, second, Except.ok.injEq, Prod.exists, Prod.mk.injEq]
  refine ⟨_, _, ⟨_, _, ⟨rfl, rfl⟩, _, _, ⟨_, _, ⟨rfl, rfl⟩, _, _, ⟨rfl, rfl⟩, rfl, rfl⟩, rfl, rfl⟩,
    bound, ?_, rfl, rfl⟩
  simp [nonempty]

theorem evaluateActionCandidateEligibility_assembled {admissionPayload ledgerPayload : Option Json}
    {values : List JsonMembers} {bound : BoundResource}
    (action : candidate.action = proposalAction actionType)
    (validated : validateCandidateContext contracts.toAssemblerContracts (actionSpec actionType)
      candidate admissionPayload ledgerPayload now = .ok context)
    (bindings : validateObservationBindings contracts.toAssemblerContracts context observations =
      .ok (values, bound)) (fields : checkProposalFields candidate context observations
      (actionSpec actionType).proposalFields = .ok ()) :
    evaluateActionCandidateEligibility contracts.toAssemblerContracts candidate admissionPayload
        ledgerPayload observations now =
      .ok
        { eligible := true
          actionType := some actionType
          resourceType := some bound.resourceType
          resourceId := some bound.resourceId
          resourceVersion := some bound.resourceVersion
          trustedArguments := candidate.proposedArguments
          observationBinding := values
          citationBindingIds := context.claimCitations.insertionSort (· ≤ ·) } := by
  have spec : getActionSpecByProposal candidate.action = some (actionSpec actionType) := by
    rw [action]
    cases actionType <;> rfl
  unfold evaluateActionCandidateEligibility assembleEligibility
  simp only [spec, validated, bindings, fields, bind, Except.bind, actionSpec_actionType]

/-- An assembled candidate is eligible, for the resource that its ledger is bound to. -/
theorem assembledCandidate_eligible (contracts : LedgerContracts)
    (strText : ∀ text, contracts.str (.string text) = text) (actionType : ActionType)
    (admission : ActionAdmission) (observations : List JsonMembers) (runId : String)
    (citations : List ContextCitationBinding) (providerAttemptId : Option String)
    (now : DateTime) (synthesis : BoundEvidenceSynthesis)
    (admissionPayload ledgerPayload : Option Json) {ledger : ActionObligationLedger}
    {candidate : CandidateResponse}
    (admissionRead : contracts.validateAdmission (payloadOrEmpty admissionPayload) =
      some admission)
    (ledgerRead : contracts.validateLedger (payloadOrEmpty ledgerPayload) = some ledger)
    (instant : now.offset.isSome = true) (named : runId ≠ "")
    (canonical : CanonicalTarget admission)
    (foundReads : BoundReadsFound contracts ledger observations)
    (evaluated : evaluateActionObligations contracts (actionSpec actionType) admission
      observations runId citations providerAttemptId now = .ok ledger)
    (next : ledger.nextState = .assembleCandidate)
    (assembled : assembleActionCandidate (actionSpec actionType) admission ledger observations
      synthesis = .ok candidate) :
    ∃ eligibility, evaluateActionCandidateEligibility contracts.toAssemblerContracts candidate
        admissionPayload ledgerPayload observations now = .ok eligibility ∧
      eligibility.eligible = true ∧
      ∃ obligation ∈ (actionSpec actionType).obligations, ∃ entry binding observation,
        ∃ data : JsonMembers, ∃ field resourceId,
          obligation.kind = .resource ∧ obligation.observedResourceField = some field ∧
          ledger.entry? obligation.obligationId = some entry ∧ entry.binding = some binding ∧
          boundObservation ledger binding observations = some observation ∧
          observation.value "data" = .object data ∧
          resourceId = contracts.str (data.value field) ∧
          binding.resourceId = some resourceId ∧ eligibility.resourceId = some resourceId := by
  rcases actionSpec_shape actionType with ⟨resource, policy, field, shape⟩
  rcases evaluateActionObligations_ready shape instant evaluated next with
    ⟨sameRun, _, entry, policyEntry, entries, _, _,
      ⟨capability, observation, data, binding, satisfied⟩,
      policyObservation, policyData, policyBinding, policySatisfied⟩
  subst sameRun
  have candidateOf := assembleActionCandidate_ok canonical assembled
  -- The entries stand under the identifiers of the specification, which differ.
  have unique : (ledger.obligations.map ObligationEntry.obligationId).Nodup := by
    have declared := (actionSpec actionType).uniqueObligations
    rw [shape.obligations] at declared
    rw [entries]
    simpa [satisfied.obligationId, policySatisfied.obligationId] using declared
  have entered : ledger.entry? resource.obligationId = some entry := by
    rw [← satisfied.obligationId]
    exact entry?_of_mem unique (by simp [entries])
  have policyEntered : ledger.entry? policy.obligationId = some policyEntry := by
    rw [← policySatisfied.obligationId]
    exact entry?_of_mem unique (by simp [entries])
  have member : entry ∈ ledger.obligations := by simp [entries]
  have policyMember : policyEntry ∈ ledger.obligations := by simp [entries]
  have found := boundObservation_of_only
    (satisfied.mem_boundObservations strText foundReads member)
    (boundObservations_resource shape entered satisfied.bound candidateOf.proposed)
  have policyKind : policyEntry.kind = .knowledge := by
    rcases shape.knowledge with ⟨_, _, _, _, _, rfl⟩
    exact policySatisfied.kind
  have policyFound := boundObservation_of_only
    (policySatisfied.mem_boundObservations strText foundReads policyMember)
    (foundReads.searches policyEntry policyMember policyKind policyBinding policySatisfied.bound)
  have isVersion := foundReads.versions entry member (by
    rw [satisfied.kind, shape.kind]
    intro equal
    cases equal) binding satisfied.bound
  rcases satisfied.boundResource shape isVersion with
    ⟨version, resourceId, spelled, nonempty, boundId, resourceFound⟩
  have validated := candidateOf.validateCandidateContext now named admissionRead ledgerRead
  generalize built : EligibilityContext.mk _ _ _ _ _ = context at validated
  have sameAdmission : context.admission = admission := by rw [← built]
  have sameLedger : context.ledger = ledger := by rw [← built]
  have sameNow : context.effectiveNow = now := by rw [← built]
  have sameSpec : context.actionSpec = actionSpec actionType := by rw [← built]
  have first := satisfied.validateObservationBinding strText instant sameAdmission sameNow
    (sameLedger ▸ entered) (sameLedger ▸ found) resourceFound
  have second := policySatisfied.validateObservationBinding strText instant sameAdmission sameNow
    (sameLedger ▸ policyEntered) (sameLedger ▸ policyFound) (boundResource_policy shape)
  have bindings := validateObservationBindings_pair
    (sameSpec ▸ shape.obligations) first second nonempty
  have fields : checkProposalFields candidate context observations
      (actionSpec actionType).proposalFields = .ok () := by
    apply checkProposalFields_of_forall
    intro proposalField declared
    have value := proposedArguments_value proposalField (actionSpec actionType).uniqueTargets
      candidateOf.proposed declared
    refine ⟨_, expectedValue_of_proposalValue sameAdmission sameLedger
      (shape.onlyObserved proposalField declared) entered satisfied.bound found
      satisfied.satisfiedBy.observed value, ?_⟩
    rw [Json.pyEq_self]
    exact value_holdsNaN candidateOf.plain proposalField.targetField
  refine ⟨_, evaluateActionCandidateEligibility_assembled candidateOf.action validated bindings
    fields, rfl, resource, by simp [shape.obligations], entry, binding, observation, data,
    field, resourceId, shape.kind, shape.identified, entered, satisfied.bound, found,
    satisfied.satisfiedBy.observed, spelled, boundId, rfl⟩

end

/-! A refund of a billing record, read once with a version and once without a number in it. -/

def refundedSynthesis : BoundEvidenceSynthesis where
  answer := "The record was charged twice."
  knowledgeChunkIds := ["chunk"]
  materialClaims :=
    [{ text := "The record was charged twice."
       citationBindingIds := ["citation_1"]
       observationSourceIds := ["bill_1"] }]

def refundedCandidate (version : String) : Option CandidateResponse :=
  (refundedLedger version).bind fun ledger =>
    (assembleActionCandidate (actionSpec .refund) refundedAdmission ledger
      (refundedObservations version) refundedSynthesis).toOption

def refundedEligibility (version : String) : Option ProposalEligibility :=
  (refundedCandidate version).bind fun candidate =>
    (evaluateActionCandidateEligibility
      (refundedContracts (refundedLedger version)).toAssemblerContracts candidate none none
      (refundedObservations version) candidateNow).toOption

/-- What `BoundReadsFound` asks for, of the refund's observations. -/
def refundedReadsFound (ledger : ActionObligationLedger) : Bool :=
  ledger.obligations.all fun entry => entry.binding.all fun binding =>
    (runReads (refundedObservations "2") ledger.runId binding.toolName).all
        (goesBy binding.observationId) &&
      (decide (entry.kind = .knowledge) || decide (binding.resourceVersion = some "2")) &&
      decide ((boundObservations ledger binding (refundedObservations "2")).length ≤ 1)

theorem boundReadsFound_refund {ledger : ActionObligationLedger}
    {readBack : Option ActionObligationLedger} (checked : refundedReadsFound ledger = true) :
    BoundReadsFound (refundedContracts readBack) ledger (refundedObservations "2") := by
  simp only [refundedReadsFound, List.all_eq_true, Option.all_eq_true, Bool.and_eq_true,
    Bool.or_eq_true, decide_eq_true_eq] at checked
  refine ⟨?_, ?_, ?_⟩
  · intro entry member binding bound item read _
    exact (checked entry member binding bound).1.1 item read
  · intro entry member business binding bound
    rcases (checked entry member binding bound).1.2 with knowledge | numbered
    · exact absurd knowledge business
    · rw [numbered]
      rfl
  · intro entry member _ binding bound
    exact (checked entry member binding bound).2

theorem assembledCandidate_eligible_refund :
    ∃ ledger candidate eligibility, refundedEvaluation (some ledger) "2" = .ok ledger ∧
      ledger.nextState = .assembleCandidate ∧
      assembleActionCandidate (actionSpec .refund) refundedAdmission ledger
        (refundedObservations "2") refundedSynthesis = .ok candidate ∧
      evaluateActionCandidateEligibility (refundedContracts (some ledger)).toAssemblerContracts
        candidate none none (refundedObservations "2") candidateNow = .ok eligibility ∧
      eligibility.eligible = true := by
  have evaluations : (refundedEvaluation (refundedLedger "2") "2").toOption = refundedLedger "2" ∧
      (refundedLedger "2").map ActionObligationLedger.nextState = some .assembleCandidate ∧
      (refundedCandidate "2").isSome = true ∧
      (refundedLedger "2").all refundedReadsFound = true := by
    decide +kernel
  rcases evaluations with ⟨again, next, complete, reads⟩
  rcases Option.map_eq_some_iff.mp next with ⟨ledger, computed, next⟩
  rw [computed] at again
  rw [computed, Option.all_some] at reads
  rcases Option.isSome_iff_exists.mp complete with ⟨candidate, assembled⟩
  rw [refundedCandidate, computed, Option.bind_some] at assembled
  have assembled := toOption_eq_some assembled
  have evaluated := toOption_eq_some again
  rcases assembledCandidate_eligible (refundedContracts (some ledger)) (fun _ => rfl) .refund
    refundedAdmission (refundedObservations "2") "run" [refundedCitation] (some "attempt")
    candidateNow refundedSynthesis none none rfl rfl rfl (by decide)
    (fun _ _ observed => by cases observed) (boundReadsFound_refund reads) evaluated next
    assembled with ⟨eligibility, revalidated, eligible, _⟩
  exact ⟨ledger, candidate, eligibility, evaluated, next, assembled, revalidated, eligible⟩

/-- The ledger takes a version of any spelling, and the check asks for a number. -/
theorem unnumbered_version_ineligible :
    ∃ ledger candidate eligibility, refundedEvaluation (some ledger) "v1" = .ok ledger ∧
      ledger.nextState = .assembleCandidate ∧
      assembleActionCandidate (actionSpec .refund) refundedAdmission ledger
        (refundedObservations "v1") refundedSynthesis = .ok candidate ∧
      evaluateActionCandidateEligibility (refundedContracts (some ledger)).toAssemblerContracts
        candidate none none (refundedObservations "v1") candidateNow = .ok eligibility ∧
      eligibility.eligible = false ∧
      eligibility.errorCode = some "proposal_resource_version_missing" := by
  have evaluations : (refundedEvaluation (refundedLedger "v1") "v1").toOption =
        refundedLedger "v1" ∧
      (refundedLedger "v1").map ActionObligationLedger.nextState = some .assembleCandidate ∧
      (refundedEligibility "v1").map (fun eligibility =>
        (eligibility.eligible, eligibility.errorCode)) =
          some (false, some "proposal_resource_version_missing") := by
    decide +kernel
  rcases evaluations with ⟨again, next, denied⟩
  rcases Option.map_eq_some_iff.mp next with ⟨ledger, computed, next⟩
  rw [computed] at again
  rcases Option.map_eq_some_iff.mp denied with ⟨eligibility, checked, denied⟩
  rw [refundedEligibility, Option.bind_eq_some_iff] at checked
  rcases checked with ⟨candidate, assembled, checked⟩
  rw [refundedCandidate, computed, Option.bind_some] at assembled
  rw [computed] at checked
  exact ⟨ledger, candidate, eligibility, toOption_eq_some again, next, toOption_eq_some assembled,
    toOption_eq_some checked, congrArg Prod.fst denied, congrArg Prod.snd denied⟩

end SupportGuard
