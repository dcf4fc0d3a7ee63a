import SupportGuard.Services.ConversationActionState

/-! # How the projection of an action state fails

`project_conversation_action_state`: rows that contradict each other are refused
with the projector's own error. The result model checks its fields once more, and
the latest update compares its timestamps in UTC. What the row checks leave to
those two is stated here: the pattern of an event hash outside the approval row,
and a timestamp whose offset takes it out of the calendar. -/

namespace SupportGuard

open Foundation Fallible

/-- The hashes the result may show are hashes, for the status of the approval. -/
structure EventHashesRead (sources : ConversationActionSources) (status : ApprovalStatus) :
    Prop where
  executed : status = .executed → ∀ action ∈ sources.businessAction,
    action.canonicalEventHash.all isSha256Hex = true
  decided : status ∈ [.approved, .rejected, .manualTakeover] →
    ∀ decision ∈ sources.decision, decision.canonicalEventHash.all isSha256Hex = true
  undecided : status = .pending ∨ status = .manualTakeover ∧ sources.decision = none →
    sources.approval.expectedTicketEventHash.all isSha256Hex = true

/-- Every row of the bundle was last written at an instant of the calendar. -/
structure UpdatesDated (sources : ConversationActionSources) : Prop where
  approval : sources.approval.updatedAt.instant?.isSome
  proposal : ∀ row ∈ sources.proposal, row.updatedAt.instant?.isSome
  decision : ∀ row ∈ sources.decision, row.updatedAt.instant?.isSome
  businessAction : ∀ row ∈ sources.businessAction, row.updatedAt.instant?.isSome
  withdrawal : ∀ row ∈ sources.withdrawal, row.updatedAt.instant?.isSome
  runtimeJob : ∀ row ∈ sources.runtimeJob, row.updatedAt.instant?.isSome

/-! ## Row checks raise one error -/

/-- Everything the computation raises is the projector's own error. -/
def RaisesOwn {α : Type} (outcome : Except ProjectionRaise α) : Prop :=
  ∀ raised, outcome = .error raised → ∃ message, raised = .projectionError message

theorem RaisesOwn.ok {α : Type} (value : α) :
    RaisesOwn (.ok value : Except ProjectionRaise α) := by
  intro raised failed
  cases failed

theorem RaisesOwn.own {α : Type} (message : String) :
    RaisesOwn (.error (.projectionError message) : Except ProjectionRaise α) := by
  intro raised failed
  exact ⟨message, (Except.error.inj failed).symm⟩

theorem RaisesOwn.bind {α β : Type} {first : Except ProjectionRaise α}
    {next : α → Except ProjectionRaise β} (start : RaisesOwn first)
    (rest : ∀ value, first = .ok value → RaisesOwn (next value)) :
    RaisesOwn (first >>= next) := by
  cases first with
  | error error =>
      intro raised failed
      exact start raised (congrArg Except.error (Except.error.inj failed))
  | ok value => exact rest value rfl

theorem RaisesOwn.refuse {condition : Prop} [Decidable condition] (message : String) :
    RaisesOwn (SupportGuard.refuse condition message) := by
  unfold SupportGuard.refuse refuseWhen
  split
  · exact .own message
  · exact .ok ()

theorem RaisesOwn.refuse_bind {α : Type} {condition : Prop} [Decidable condition]
    {message : String} {next : Unit → Except ProjectionRaise α} (rest : RaisesOwn (next ())) :
    RaisesOwn (SupportGuard.refuse condition message >>= next) :=
  RaisesOwn.bind (.refuse message) fun _ _ => rest

theorem validateApproval_raisesOwn (approval : ApprovalActionSourceFact) :
    RaisesOwn (validateApproval approval) := by
  unfold validateApproval
  split
  · split
    · exact .own _
    · exact .ok _
  · exact .own _

theorem validateStatusEvidence_raisesOwn (sources : ConversationActionSources)
    (status : ApprovalStatus) : RaisesOwn (validateStatusEvidence sources status) := by
  cases status with
  | approved =>
      simp only [validateStatusEvidence]
      split
      · exact .own _
      · exact .refuse_bind (.refuse_bind (.refuse _))
  | executed =>
      simp only [validateStatusEvidence]
      split
      · exact .own _
      · exact .refuse _
  | failed =>
      simp only [validateStatusEvidence]
      split
      · exact .own _
      · exact .refuse_bind (.refuse _)
  | stale => exact .refuse _
  | manualTakeover => exact .refuse _
  | pending => exact .ok ()
  | rejected => exact .ok ()
  | withdrawn => exact .ok ()

theorem validateLifecycleEvidence_raisesOwn (sources : ConversationActionSources)
    (status : ApprovalStatus) : RaisesOwn (validateLifecycleEvidence sources status) :=
  .refuse_bind (.refuse_bind (.refuse_bind (validateStatusEvidence_raisesOwn sources status)))

/-- Rows that contradict each other are refused with the projector's own error. -/
theorem validateSources_raisesOwn (sources : ConversationActionSources) :
    RaisesOwn (validateSources sources) := by
  apply RaisesOwn.bind (validateApproval_raisesOwn _)
  intro identity _
  repeat apply RaisesOwn.refuse_bind
  apply RaisesOwn.bind (validateLifecycleEvidence_raisesOwn _ _)
  intro _ _
  exact .ok identity

/-! ## The latest update -/

theorem timestampKey_eq_ok_iff {value : DateTime} {instant : Instant} :
    timestampKey value = .ok instant ↔ value.instant? = some instant := by
  unfold timestampKey
  cases value.instant? <;> simp

theorem timestampKey_raises {value : DateTime} (outside : value.instant? = none) :
    timestampKey value = .error (.overflowError "date value out of range") := by
  simp [timestampKey, outside]

/-- The latest of dated timestamps is found. -/
theorem latestOf_returns (rest : List DateTime) (latest : DateTime) (key : Instant)
    (dated : ∀ value ∈ rest, value.instant?.isSome) :
    ∃ updated, latestOf latest key rest = .ok updated := by
  induction rest generalizing latest key with
  | nil => exact ⟨latest, rfl⟩
  | cons next rest induction =>
      rcases Option.isSome_iff_exists.mp (dated next List.mem_cons_self) with ⟨nextKey, read⟩
      have later := fun value member => dated value (List.mem_cons_of_mem _ member)
      apply bind_returns (timestampKey_eq_ok_iff.mpr read)
      split
      · exact induction next nextKey later
      · exact induction latest key later

theorem latestOf_raises (rest : List DateTime) (latest : DateTime) (key : Instant)
    (undated : ∃ value ∈ rest, value.instant? = none) :
    latestOf latest key rest = .error (.overflowError "date value out of range") := by
  induction rest generalizing latest key with
  | nil =>
      rcases undated with ⟨value, member, _⟩
      cases member
  | cons next rest induction =>
      unfold latestOf
      cases read : next.instant? with
      | none =>
          rw [timestampKey_raises read]
          rfl
      | some nextKey =>
          have later : ∃ value ∈ rest, value.instant? = none := by
            rcases undated with ⟨value, member, outside⟩
            rcases List.mem_cons.mp member with same | member
            · rw [same, read] at outside
              cases outside
            · exact ⟨value, member, outside⟩
          rw [timestampKey_eq_ok_iff.mpr read]
          change (if key < nextKey then _ else _) = _
          split
          · exact induction next nextKey later
          · exact induction latest key later

/-- The timestamps the latest update is chosen from, after the approval's own. -/
def laterUpdates (sources : ConversationActionSources) : List DateTime :=
  (sources.proposal.map ProposalActionSourceFact.updatedAt).toList ++
    (sources.decision.map HumanDecisionActionSourceFact.updatedAt).toList ++
    (sources.businessAction.map BusinessActionSourceFact.updatedAt).toList ++
    (sources.withdrawal.map ProposalWithdrawalActionSourceFact.updatedAt).toList ++
    (sources.runtimeJob.map ApprovalRuntimeJobSourceFact.updatedAt).toList

theorem forall_map_toList {α : Type} {row : Option α} {updatedAt : α → DateTime} :
    (∀ value ∈ (row.map updatedAt).toList, value.instant?.isSome) ↔
      ∀ present ∈ row, (updatedAt present).instant?.isSome := by
  cases row <;> simp

variable {sources : ConversationActionSources}

theorem updatesDated_iff :
    UpdatesDated sources ↔ sources.approval.updatedAt.instant?.isSome ∧
      ∀ value ∈ laterUpdates sources, value.instant?.isSome := by
  simp only [laterUpdates, List.forall_mem_append, forall_map_toList]
  constructor
  · intro dated
    exact ⟨dated.approval, ⟨⟨⟨dated.proposal, dated.decision⟩, dated.businessAction⟩,
      dated.withdrawal⟩, dated.runtimeJob⟩
  · intro dated
    rcases dated with ⟨approval, ⟨⟨⟨proposal, decision⟩, action⟩, withdrawal⟩, job⟩
    exact ⟨approval, proposal, decision, action, withdrawal, job⟩

theorem latestUpdate_eq (sources : ConversationActionSources) :
    latestUpdate sources = timestampKey sources.approval.updatedAt >>= fun key =>
      latestOf sources.approval.updatedAt key (laterUpdates sources) := rfl

theorem latestUpdate_returns (dated : UpdatesDated sources) :
    ∃ updated, latestUpdate sources = .ok updated := by
  rcases updatesDated_iff.mp dated with ⟨approval, later⟩
  rcases Option.isSome_iff_exists.mp approval with ⟨key, read⟩
  rw [latestUpdate_eq]
  exact bind_returns (timestampKey_eq_ok_iff.mpr read) (latestOf_returns _ _ _ later)

/-- One timestamp out of the calendar is enough to overflow the comparison. -/
theorem latestUpdate_raises (undated : ¬UpdatesDated sources) :
    latestUpdate sources = .error (.overflowError "date value out of range") := by
  rw [latestUpdate_eq]
  cases read : sources.approval.updatedAt.instant? with
  | none =>
      rw [timestampKey_raises read]
      rfl
  | some key =>
      rw [timestampKey_eq_ok_iff.mpr read]
      apply latestOf_raises
      by_contra dated
      apply undated
      rw [updatesDated_iff, read]
      refine ⟨rfl, fun value member => ?_⟩
      by_contra outside
      exact dated ⟨value, member, by simpa using outside⟩

/-! ## The result model -/

variable {identity : ApprovalIdentity}

theorem validateApproval_bounds {approval : ApprovalActionSourceFact}
    (valid : validateApproval approval = .ok identity) :
    1 ≤ approval.businessVersion ∧ 1 ≤ approval.statusVersion := by
  unfold validateApproval at valid
  split at valid
  · split at valid
    · cases valid
    · rename_i bounds
      omega
  · cases valid

/-- What the row checks leave standing: the versions are positive, and the rows
the lifecycle contract requires are there. -/
theorem validateSources_facts (valid : validateSources sources = .ok identity) :
    1 ≤ sources.approval.businessVersion ∧ 1 ≤ sources.approval.statusVersion ∧
      (∀ source ∈ (lifecycleEvidence identity.status).requiredSources,
        presentSources sources source = true) ∧
      ∀ decision ∈ sources.decision,
        decision.decision ∈ (lifecycleEvidence identity.status).allowedDecisions := by
  have evidence := (validateSources_eq_ok valid).2
  rcases bind_eq_ok_iff.mp valid with ⟨read, approved, checks⟩
  have bounds := validateApproval_bounds approved
  simp only [validateLifecycleEvidence, refuse_bind_eq_ok_iff] at evidence
  rcases evidence with ⟨contract, decided, _, _⟩
  refine ⟨bounds.1, bounds.2, ?_, ?_⟩
  · intro source member
    by_contra absent
    apply contract
    apply Or.inl
    rw [List.any_eq_true]
    exact ⟨source, member, by simpa using absent⟩
  · intro decision present
    rw [Option.mem_def.mp present] at decided
    simp only [Option.any_some, Bool.or_eq_true, Bool.not_eq_true', not_or,
      Bool.not_eq_false, List.contains_iff_mem] at decided
    exact decided.1.2

theorem isNone_eq_of_isSome_eq {α β : Type} {left : Option α} {right : Option β}
    (same : left.isSome = right.isSome) : left.isNone = right.isNone := by
  cases left <;> cases right <;> simp_all

/-- The event the projection names has both its id and its hash, or neither. -/
theorem sourceEvent_complete (sources : ConversationActionSources) (status : ApprovalStatus) :
    (sourceEvent sources status).1.isNone = (sourceEvent sources status).2.isNone := by
  have head := isNone_eq_of_isSome_eq sources.approval.ticketHeadComplete
  have transition := isNone_eq_of_isSome_eq sources.approval.transitionComplete.1
  have decided (decision : HumanDecisionActionSourceFact) :=
    isNone_eq_of_isSome_eq decision.canonicalEventComplete
  have effected (action : BusinessActionSourceFact) :=
    isNone_eq_of_isSome_eq action.canonicalEventComplete
  cases status with
  | withdrawn => exact transition
  | stale => exact transition
  | failed => exact transition
  | pending => exact head
  | executed =>
      simp only [sourceEvent]
      split
      · exact effected _
      · exact head
  | approved =>
      simp only [sourceEvent]
      split
      · exact decided _
      · exact head
  | rejected =>
      simp only [sourceEvent]
      split
      · exact decided _
      · exact head
  | manualTakeover =>
      simp only [sourceEvent]
      split
      · split
        · exact decided _
        · exact head
      · exact head

/-- In rows that passed their checks the hash shown is the one of the event row
that the status points at. -/
theorem sourceEvent_read_iff (valid : validateSources sources = .ok identity) :
    (sourceEvent sources identity.status).2.all isSha256Hex = true ↔
      EventHashesRead sources identity.status := by
  rcases validateSources_facts valid with ⟨_, _, required, allowed⟩
  have transition : sources.approval.transitionEventHash.all isSha256Hex = true := by
    rw [Option.all_eq_true]
    exact fun hash present => sources.approval.transitionHashValid hash present
  generalize identity.status = status at required allowed ⊢
  constructor
  · intro shown
    constructor
    · intro executed action present
      subst executed
      simpa only [sourceEvent, Option.mem_def.mp present] using shown
    · intro decided decision present
      have manual := allowed decision present
      simp only [List.mem_cons, List.not_mem_nil, or_false] at decided
      rcases decided with approved | rejected | taken
      · subst approved
        simpa only [sourceEvent, Option.mem_def.mp present] using shown
      · subst rejected
        simpa only [sourceEvent, Option.mem_def.mp present] using shown
      · subst taken
        have words : decision.decision = "manual_takeover" := by
          simpa [lifecycleEvidence] using manual
        simpa only [sourceEvent, Option.mem_def.mp present, words, ↓reduceIte] using shown
    · intro undecided
      rcases undecided with pending | taken
      · subst pending
        exact shown
      · rcases taken with ⟨taken, none⟩
        subst taken
        simpa only [sourceEvent, none] using shown
  · intro read
    cases status with
    | withdrawn => exact transition
    | stale => exact transition
    | failed => exact transition
    | pending => exact read.undecided (.inl rfl)
    | executed =>
        rcases Option.isSome_iff_exists.mp (required .businessAction (by simp [lifecycleEvidence]))
          with ⟨action, present⟩
        simpa only [sourceEvent, present] using read.executed rfl action present
    | approved =>
        rcases Option.isSome_iff_exists.mp (required .decision (by simp [lifecycleEvidence]))
          with ⟨decision, present⟩
        simpa only [sourceEvent, present] using read.decided (by simp) decision present
    | rejected =>
        rcases Option.isSome_iff_exists.mp (required .decision (by simp [lifecycleEvidence]))
          with ⟨decision, present⟩
        simpa only [sourceEvent, present] using read.decided (by simp) decision present
    | manualTakeover =>
        cases present : sources.decision with
        | none =>
            simpa only [sourceEvent, present] using read.undecided (.inr ⟨rfl, present⟩)
        | some decision =>
            have words : decision.decision = "manual_takeover" := by
              simpa [lifecycleEvidence] using allowed decision present
            simpa only [sourceEvent, present, words, ↓reduceIte] using
              read.decided (by simp) decision present

/-- Of the constraints of the result model only the pattern of the event hash is
left open by checked rows. -/
theorem refusal_of_valid {fields : ActionStateFields}
    (resource : 1 ≤ fields.resourceVersion) (status : 1 ≤ fields.statusVersion)
    (complete : fields.sourceEventId.isNone = fields.sourceEventHash.isNone)
    (actions : fields.allowedCustomerActions =
      if fields.projectionStatus = .pending then [.withdraw] else [])
    (actionable : fields.actionable = !fields.allowedCustomerActions.isEmpty)
    (reason : fields.customerSafeReasonCode = customerSafeReasonCode fields.projectionStatus) :
    fields.refusal? = if fields.sourceEventHash.all isSha256Hex then none
      else some "source_event_hash: String should match pattern" := by
  have resourceBound : ¬fields.resourceVersion < 1 := by omega
  have statusBound : ¬fields.statusVersion < 1 := by omega
  have known : ¬(fields.allowedCustomerActions ≠ [] ∧
      fields.allowedCustomerActions ≠ [.withdraw]) := by
    rw [actions]
    split <;> simp
  have onlyPending : ¬(fields.allowedCustomerActions ≠ [] ∧
      fields.projectionStatus ≠ .pending) := by
    rw [actions]
    split <;> simp_all
  have patterned : (fields.sourceEventHash.any fun hash => !isSha256Hex hash) =
      !fields.sourceEventHash.all isSha256Hex := by
    cases fields.sourceEventHash <;> simp
  unfold ActionStateFields.refusal?
  rw [if_neg resourceBound, if_neg statusBound, patterned, complete, actionable, reason]
  cases fields.sourceEventHash.all isSha256Hex with
  | false => simp
  | true => simp [known, onlyPending]

theorem validate_raises {fields : ActionStateFields} {message : String}
    (refused : fields.refusal? = some message) :
    fields.validate = .error (.validationError message) := by
  unfold ActionStateFields.validate
  split
  · rename_i accepted
    rw [refused] at accepted
    cases accepted
  · rename_i other found
    rw [refused] at found
    rw [Option.some.inj found]

theorem validate_returns {fields : ActionStateFields} (accepted : fields.refusal? = none) :
    ∃ state, fields.validate = .ok state := by
  unfold ActionStateFields.validate
  split
  · exact ⟨_, rfl⟩
  · rename_i other found
    rw [accepted] at found
    cases found

/-- Rows that pass their checks are projected when their updates are dated and
their event hash is one. -/
theorem projectConversationActionState_returns (valid : validateSources sources = .ok identity)
    (read : EventHashesRead sources identity.status) (dated : UpdatesDated sources) :
    ∃ state, projectConversationActionState sources = .ok state := by
  rcases validateSources_facts valid with ⟨resource, status, _, _⟩
  rcases latestUpdate_returns dated with ⟨updated, latest⟩
  apply bind_returns valid
  apply bind_returns latest
  apply validate_returns
  rw [refusal_of_valid resource status (sourceEvent_complete sources _) rfl rfl rfl]
  exact if_pos ((sourceEvent_read_iff valid).mpr read)

theorem projectConversationActionState_overflows (valid : validateSources sources = .ok identity)
    (undated : ¬UpdatesDated sources) : projectConversationActionState sources =
      .error (.overflowError "date value out of range") := by
  unfold projectConversationActionState
  rw [valid]
  change (latestUpdate sources >>= _) = _
  rw [latestUpdate_raises undated]
  rfl

theorem projectConversationActionState_refused (valid : validateSources sources = .ok identity)
    (unread : ¬EventHashesRead sources identity.status) (dated : UpdatesDated sources) :
    projectConversationActionState sources =
      .error (.validationError "source_event_hash: String should match pattern") := by
  rcases validateSources_facts valid with ⟨resource, status, _, _⟩
  rcases latestUpdate_returns dated with ⟨updated, latest⟩
  unfold projectConversationActionState
  rw [valid]
  change (latestUpdate sources >>= _) = _
  rw [latest]
  apply validate_raises
  rw [refusal_of_valid resource status (sourceEvent_complete sources _) rfl rfl rfl]
  exact if_neg (mt (sourceEvent_read_iff valid).mp unread)

/-- The projector fails with its own error alone exactly when rows that pass its
checks have dated updates and a source event whose hash is one. -/
theorem projectConversationActionState_raises_iff (sources : ConversationActionSources) :
    RaisesOwn (projectConversationActionState sources) ↔
      ∀ identity, validateSources sources = .ok identity →
        EventHashesRead sources identity.status ∧ UpdatesDated sources := by
  constructor
  · intro own identity valid
    by_cases dated : UpdatesDated sources
    · apply And.intro _ dated
      by_contra unread
      rcases own _ (projectConversationActionState_refused valid unread dated) with
        ⟨message, other⟩
      cases other
    · rcases own _ (projectConversationActionState_overflows valid dated) with
        ⟨message, other⟩
      cases other
  · intro condition
    apply RaisesOwn.bind (validateSources_raisesOwn sources)
    intro identity valid raised failed
    rcases condition identity valid with ⟨read, dated⟩
    rcases projectConversationActionState_returns valid read dated with ⟨state, projected⟩
    unfold projectConversationActionState at projected
    rw [valid] at projected
    cases failed.symm.trans projected

/-- An executed refund whose effect event carries a text that is no hash. -/
def unreadHashExample : ConversationActionSources where
  approval := executedExample.approval
  proposal := executedExample.proposal
  decision := executedExample.decision
  businessAction := some
    { id := "action_1", tenantId := "tenant", ticketId := "ticket_1"
      customerId := "customer", approvalId := some "approval_1", actionType := "refund"
      resourceId := some "bill_1", resourceVersion := some 3, status := "succeeded"
      canonicalEventId := some "event_2", canonicalEventHash := some "abc"
      createdAt := executedExampleTime, updatedAt := executedExampleTime
      canonicalEventComplete := Eq.refl true }

/-- Its rows contradict nothing, and the result model refuses the text. -/
theorem projectConversationActionState_unreadHash :
    projectConversationActionState unreadHashExample =
        .error (.validationError "source_event_hash: String should match pattern") ∧
      ¬RaisesOwn (projectConversationActionState unreadHashExample) := by
  have refused : projectConversationActionState unreadHashExample =
      .error (.validationError "source_event_hash: String should match pattern") := rfl
  apply And.intro refused
  intro own
  rcases own _ refused with ⟨message, other⟩
  cases other

end SupportGuard
