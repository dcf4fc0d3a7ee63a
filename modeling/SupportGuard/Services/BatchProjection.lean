import SupportGuard.Foundation.Table
import SupportGuard.Services.ActionStateProjector

/-! # A batch of action states against one by one

Listing the states of a ticket reads the rows of all its approvals at once and gives each its
own. An approval finds there the rows it finds alone, all but its transition event: of events
only the last few hundred of all the runs are read, and the events of other runs may leave none
of those of one run. -/

namespace SupportGuard

open Foundation Fallible

namespace ActionStates

/-! ## Choosing from a batch -/

/-- What is wanted of a wide choice within a narrow one is wanted of the narrow one. -/
theorem find?_filter_narrow {Row : Type} {wide narrow wanted : Row → Bool} {rows : List Row}
    (same : ∀ row, (wide row && wanted row) = (narrow row && wanted row)) :
    (rows.filter wide).find? wanted = (rows.filter narrow).find? wanted := by
  rw [List.find?_filter, List.find?_filter]
  apply congrArg fun keep => rows.find? keep
  funext row
  simpa only [Bool.decide_and, Bool.decide_eq_true] using same row

/-- The first of a few rows of a wide choice that is wanted is the first of as many of a narrow
choice, which has all that is wanted. -/
theorem find?_take_filter {Row : Type} {wide narrow wanted : Row → Bool}
    (narrower : ∀ row, narrow row = true → wide row = true)
    (covered : ∀ row, wide row = true → wanted row = true → narrow row = true)
    (rows : List Row) (limit : Nat) {row : Row}
    (found : ((rows.filter wide).take limit).find? wanted = some row) :
    ((rows.filter narrow).take limit).find? wanted = some row := by
  induction rows generalizing limit with
  | nil =>
      rw [List.filter_nil, List.take_nil] at found
      cases found
  | cons first rest induction =>
      by_cases isWide : wide first = true
      · rw [List.filter_cons_of_pos isWide] at found
        cases limit with
        | zero =>
            rw [List.take_zero] at found
            cases found
        | succ limit =>
            rw [List.take_succ_cons] at found
            by_cases isWanted : wanted first = true
            · rw [List.find?_cons_of_pos isWanted] at found
              rw [List.filter_cons_of_pos (covered first isWide isWanted), List.take_succ_cons,
                List.find?_cons_of_pos isWanted]
              exact found
            · rw [List.find?_cons_of_neg isWanted] at found
              have later := induction limit found
              by_cases isNarrow : narrow first = true
              · rw [List.filter_cons_of_pos isNarrow, List.take_succ_cons,
                  List.find?_cons_of_neg isWanted]
                exact later
              · rw [List.filter_cons_of_neg isNarrow]
                have shorter : (rest.filter narrow).take limit <+:
                    (rest.filter narrow).take (limit + 1) :=
                  List.take_prefix_take_left (Nat.le_succ limit)
                exact List.IsPrefix.find?_eq_some shorter later
      · rw [List.filter_cons_of_neg isWide] at found
        have other : ¬narrow first = true := fun holds => isWide (narrower first holds)
        rw [List.filter_cons_of_neg other]
        exact induction limit found

section

variable {approvals : List ApprovalRow} {approval : ApprovalRow}

/-- The rows of an approval among those of a batch are those of the approval. -/
theorem firstOf_member {Row : Type} {tenantOf : Row → String}
    {approvalOf : Row → Option String} {tenantId : String} {rows : List Row}
    (member : approval ∈ approvals) :
    firstOf tenantOf approvalOf tenantId approvals approval rows =
      firstOf tenantOf approvalOf tenantId [approval] approval rows := by
  apply find?_filter_narrow
  intro row
  by_cases own : approvalOf row = some approval.id
  · have listed : ∃ other ∈ approvals, other.id = approval.id := ⟨approval, member, rfl⟩
    simp [own, listed]
  · simp [own]

theorem proposalOf_member {tables : Tables} {tenantId : String} (member : approval ∈ approvals) :
    proposalOf tables tenantId approvals approval =
      proposalOf tables tenantId [approval] approval := by
  unfold proposalOf
  cases named : approval.proposalId with
  | none => rfl
  | some proposalId =>
      rw [Option.bind_some, Option.bind_some, List.filter_filter, List.filter_filter]
      apply congrArg
      apply List.filter_congr
      intro proposal _
      by_cases own : proposal.id = proposalId
      · have listed : ∃ other ∈ approvals, other.proposalId = some proposalId :=
          ⟨approval, member, named⟩
        simp [own, named, listed]
      · simp [own]

theorem runtimeJob_member {tables : Tables} {tenantId : String} (member : approval ∈ approvals) :
    ((resumeJobs tables tenantId approvals).find? fun job =>
        job.approvalId = some approval.id) =
      (resumeJobs tables tenantId [approval]).find? fun job =>
        job.approvalId = some approval.id := by
  apply find?_filter_narrow
  intro job
  by_cases own : job.approvalId = some approval.id
  · have listed : ∃ other ∈ approvals, other.id = approval.id := ⟨approval, member, rfl⟩
    simp [own, listed]
  · simp [own]

end

/-! ## The events of a batch -/

/-- Among rows of one key each, the last row of a key is any row of the key. -/
theorem getLast?_filter_id {Row : Type} {id : Row → String} {rows : List Row}
    (unique : (rows.map id).Nodup) (key : String) (row : Row) :
    (rows.filter fun other => id other = key).getLast? = some row ↔ row ∈ rows ∧ id row = key := by
  have isMember : ∀ other ∈ rows.filter fun other => id other = key,
      other ∈ rows ∧ id other = key := by
    intro other member
    simpa only [List.mem_filter, decide_eq_true_eq] using member
  constructor
  · intro last
    exact isMember row (List.mem_of_getLast? last)
  · intro own
    have member : row ∈ rows.filter fun other => id other = key := by
      simpa only [List.mem_filter, decide_eq_true_eq] using own
    cases last : (rows.filter fun other => id other = key).getLast? with
    | none =>
        rw [List.getLast?_eq_none_iff.mp last] at member
        cases member
    | some other =>
        have found := isMember other (List.mem_of_getLast? last)
        rw [List.inj_on_of_nodup_map unique found.1 own.1 (found.2.trans own.2.symm)]

section

variable {str : Json → String} {tables : Tables} {tenantId : String}
  {approvals : List ApprovalRow} {approval : ApprovalRow}

theorem resumeJobs_unique : ((resumeJobs tables tenantId approvals).map
    ApprovalRuntimeJobSourceFact.id).Nodup := by
  have sorted : ((newestFirst ApprovalRuntimeJobSourceFact.createdAt
      ApprovalRuntimeJobSourceFact.id tables.jobs).map ApprovalRuntimeJobSourceFact.id).Nodup :=
    (((List.perm_insertionSort _ tables.jobs).map _).nodup_iff).mpr tables.jobsUnique
  exact List.Nodup.sublist (List.Sublist.map _ List.filter_sublist) sorted

theorem mem_resumeJobs {job : ApprovalRuntimeJobSourceFact} :
    job ∈ resumeJobs tables tenantId approvals ↔ job ∈ tables.jobs ∧ job.tenantId = tenantId ∧
      (∃ listed ∈ approvals, job.approvalId = some listed.id) ∧ job.kind = "approval_resume" := by
  unfold resumeJobs newestFirst
  rw [List.mem_filter, List.mem_insertionSort, decide_eq_true_eq, List.mem_map]
  simp only [eq_comm]

/-- The approval of a job is that of the row of the job. -/
theorem approvalIdByJob_eq_some_iff {jobId approvalId : String} :
    approvalIdByJob (resumeJobs tables tenantId approvals) jobId = some approvalId ↔
      ∃ job ∈ resumeJobs tables tenantId approvals, job.id = jobId ∧
        job.approvalId = some approvalId := by
  unfold approvalIdByJob
  rw [Option.bind_eq_some_iff]
  constructor
  · intro read
    rcases read with ⟨job, last, named⟩
    rcases (getLast?_filter_id resumeJobs_unique jobId job).mp last with ⟨member, own⟩
    exact ⟨job, member, own, named⟩
  · intro read
    rcases read with ⟨job, member, own, named⟩
    exact ⟨job, (getLast?_filter_id resumeJobs_unique jobId job).mpr ⟨member, own⟩, named⟩

theorem approvalIdByJob_member (member : approval ∈ approvals) (jobId : String) :
    approvalIdByJob (resumeJobs tables tenantId approvals) jobId = some approval.id ↔
      approvalIdByJob (resumeJobs tables tenantId [approval]) jobId = some approval.id := by
  simp only [approvalIdByJob_eq_some_iff, mem_resumeJobs]
  constructor
  · intro read
    rcases read with ⟨job, ⟨stored, tenant, _, kind⟩, own, named⟩
    exact ⟨job, ⟨stored, tenant, ⟨approval, List.mem_singleton.mpr rfl, named⟩, kind⟩, own, named⟩
  · intro read
    rcases read with ⟨job, ⟨stored, tenant, _, kind⟩, own, named⟩
    exact ⟨job, ⟨stored, tenant, ⟨approval, member, named⟩, kind⟩, own, named⟩

/-- An event is about an approval of a batch when it is about the approval alone. -/
theorem eventApprovalId_member (named : approval.id ≠ "") (member : approval ∈ approvals)
    (event : EventRow) :
    eventApprovalId str (resumeJobs tables tenantId approvals) event = approval.id ↔
      eventApprovalId str (resumeJobs tables tenantId [approval]) event = approval.id := by
  have getD_iff (found : Option String) :
      found.getD "" = approval.id ↔ found = some approval.id := by
    cases found with
    | none => simp [named.symm]
    | some value => simp
  unfold eventApprovalId
  dsimp only
  generalize (if (event.payload.value "approval_id").truthy then
    str (event.payload.value "approval_id") else "") = text
  by_cases unnamed : text = ""
  · rw [if_pos unnamed, if_pos unnamed]
    cases event.jobId with
    | none => rfl
    | some jobId =>
        dsimp only
        by_cases noJob : jobId = ""
        · rw [if_pos noJob, if_pos noJob]
        · rw [if_neg noJob, if_neg noJob, getD_iff, getD_iff]
          exact approvalIdByJob_member member jobId
  · rw [if_neg unnamed, if_neg unnamed]

/-- The event is the transition that the approval expects. -/
def isTransitionOf (str : Json → String) (tables : Tables) (tenantId : String)
    (approval : ApprovalRow) (event : EventRow) : Bool :=
  eventApprovalId str (resumeJobs tables tenantId [approval]) event = approval.id &&
    eventFits approval event

theorem transitionEventOf_eq (unique : (approvals.map ApprovalRow.id).Nodup)
    (named : approval.id ≠ "") (member : approval ∈ approvals) :
    transitionEventOf str tables tenantId approvals approval =
      (transitionEvents tables tenantId approvals).find?
        (isTransitionOf str tables tenantId approval) := by
  unfold transitionEventOf isTransitionOf
  dsimp only
  apply congrArg fun keep => (transitionEvents tables tenantId approvals).find? keep
  funext event
  have same : decide (eventApprovalId str (resumeJobs tables tenantId approvals) event =
        approval.id) =
      decide (eventApprovalId str (resumeJobs tables tenantId [approval]) event = approval.id) :=
    decide_eq_decide.mpr (eventApprovalId_member named member event)
  rw [← same]
  by_cases about : eventApprovalId str (resumeJobs tables tenantId approvals) event = approval.id
  · have found := Table.find_of_mem unique member
    rw [about]
    change (Table.find ApprovalRow.id approvals approval.id).any _ = _
    rw [found]
    simp
  · rw [decide_eq_false about, Bool.false_and, Option.any_eq_false]
    intro listed found
    have other := (Table.find_mem found).2
    simp [other, about]

/-- The rows of a batch for an approval but for the transition event. -/
theorem sourcesOf_member (member : approval ∈ approvals) :
    sourcesOf str tables tenantId approvals approval =
      { sourcesOf str tables tenantId [approval] approval with
        transitionEvent := transitionEventOf str tables tenantId approvals approval } := by
  unfold sourcesOf
  rw [proposalOf_member member, runtimeJob_member member]
  simp only [firstOf_member member]

theorem mem_runIds {runId : String} (member : approval ∈ approvals)
    (run : approval.runId = some runId) : runId ∈ runIds approvals := by
  have listed : runId ∈ approvals.filterMap ApprovalRow.runId :=
    List.mem_filterMap.mpr ⟨approval, member, run⟩
  unfold runIds
  split
  · rename_i none
    rw [none] at listed
    cases listed
  · rename_i some
    rw [some] at listed
    exact listed

/-- An event found among those of a batch is found alone. -/
theorem transitionEventOf_of_batch (unique : (approvals.map ApprovalRow.id).Nodup)
    (named : approval.id ≠ "") (member : approval ∈ approvals) {event : EventRow}
    (found : transitionEventOf str tables tenantId approvals approval = some event) :
    transitionEventOf str tables tenantId [approval] approval = some event := by
  rw [transitionEventOf_eq unique named member] at found
  have own : ([approval].map ApprovalRow.id).Nodup := List.nodup_singleton approval.id
  rw [transitionEventOf_eq own named (List.mem_singleton.mpr rfl)]
  have fits : ∀ row, isTransitionOf str tables tenantId approval row = true →
      some row.runId = approval.runId := by
    intro row wanted
    simp only [isTransitionOf, eventFits, Bool.and_eq_true, decide_eq_true_eq] at wanted
    exact wanted.2.1.2
  have run := fits event (List.find?_some found)
  have alone : runIds [approval] = [event.runId] := by
    simp [runIds, ← run]
  apply find?_take_filter _ _ _ _ found
  · intro row
    rw [alone]
    simp only [decide_eq_true_eq, List.mem_singleton]
    intro own
    rw [own.2.1]
    exact ⟨own.1, mem_runIds member run.symm, own.2.2⟩
  · intro row
    rw [alone]
    simp only [decide_eq_true_eq, List.mem_singleton]
    intro read wanted
    have same := (fits row wanted).trans run.symm
    exact ⟨read.1, Option.some.inj same, read.2.2⟩

/-- The approval has its transition among the last events of its own run, and none among the
last events of the runs of all the approvals. -/
def LosesEvent (str : Json → String) (tables : Tables) (tenantId : String)
    (approvals : List ApprovalRow) (approval : ApprovalRow) : Prop :=
  (∃ event ∈ transitionEvents tables tenantId [approval],
      isTransitionOf str tables tenantId approval event = true) ∧
    ∀ event ∈ transitionEvents tables tenantId approvals,
      isTransitionOf str tables tenantId approval event = false

instance (str : Json → String) (tables : Tables) (tenantId : String)
    (approvals : List ApprovalRow) (approval : ApprovalRow) :
    Decidable (LosesEvent str tables tenantId approvals approval) :=
  inferInstanceAs (Decidable (_ ∧ _))

/-- The approval is projected from the same rows in a batch, unless it loses its event there. -/
theorem sourcesOf_eq (unique : (approvals.map ApprovalRow.id).Nodup) (named : approval.id ≠ "")
    (member : approval ∈ approvals)
    (keeps : ¬LosesEvent str tables tenantId approvals approval) :
    sourcesOf str tables tenantId approvals approval =
      sourcesOf str tables tenantId [approval] approval := by
  rw [sourcesOf_member member]
  have same : transitionEventOf str tables tenantId approvals approval =
      transitionEventOf str tables tenantId [approval] approval := by
    cases batch : transitionEventOf str tables tenantId approvals approval with
    | some event => exact (transitionEventOf_of_batch unique named member batch).symm
    | none =>
        cases alone : transitionEventOf str tables tenantId [approval] approval with
        | none => rfl
        | some event =>
            exfalso
            have own : ([approval].map ApprovalRow.id).Nodup := List.nodup_singleton approval.id
            rw [transitionEventOf_eq own named (List.mem_singleton.mpr rfl)] at alone
            rw [transitionEventOf_eq unique named member] at batch
            apply keeps
            constructor
            · exact ⟨event, List.mem_of_find?_eq_some alone, List.find?_some alone⟩
            · intro other read
              simpa using List.find?_eq_none.mp batch other read
  rw [same]
  rfl

end

/-! ## A lost event -/

theorem project_eq_ok {sources : OrmSources} {state : ConversationActionStateV1}
    (projected : project sources = .ok state) :
    ∃ transition approval rows identity, sources.transitionEvent.mapM readTransition =
        .ok transition ∧ approvalFact sources.approval transition = .ok approval ∧
      rows.approval = approval ∧ validateSources rows = .ok identity := by
  rcases bind_eq_ok_iff.mp projected with ⟨rows, read, valid⟩
  rcases bind_eq_ok_iff.mp read with ⟨transition, event, afterEvent⟩
  rcases bind_eq_ok_iff.mp afterEvent with ⟨approval, fact, afterApproval⟩
  rcases bind_eq_ok_iff.mp afterApproval with ⟨decision, _, afterDecision⟩
  rcases bind_eq_ok_iff.mp afterDecision with ⟨action, _, assembled⟩
  rcases bind_eq_ok_iff.mp valid with ⟨identity, checked, _⟩
  cases assembled
  exact ⟨transition, approval, _, identity, event, fact, rfl, checked⟩

theorem approvalFact_eq_ok {approval : ApprovalRow} {transition : Option Transition}
    {fact : ApprovalActionSourceFact} (read : approvalFact approval transition = .ok fact) :
    fact.status = approval.status ∧
      fact.transitionEventType = transition.map Transition.eventType := by
  unfold approvalFact at read
  split at read
  · cases read
    exact ⟨rfl, rfl⟩
  · cases read

theorem validateSources_status {sources : ConversationActionSources}
    {identity : ApprovalIdentity} (valid : validateSources sources = .ok identity) :
    ApprovalStatus.ofText? sources.approval.status = some identity.status := by
  rcases bind_eq_ok_iff.mp valid with ⟨read, approved, checks⟩
  simp only [refuse_bind_eq_ok_iff] at checks
  rcases checks with ⟨_, _, _, _, _, _, _, _, _, _, _, remaining⟩
  rcases bind_eq_ok_iff.mp remaining with ⟨_, _, equal⟩
  cases equal
  unfold validateApproval at approved
  split at approved
  · rename_i status runId actionType known _ _
    split at approved
    · cases approved
    · cases approved
      exact known
  · cases approved

/-- A status that expects a transition is projected with one. -/
theorem required_of_expected {status : ApprovalStatus} {eventType : TransitionEventType}
    (expected : eventType ∈ expectedTransitionEvents status) :
    EvidenceSource.transitionEvent ∈ (lifecycleEvidence status).requiredSources := by
  cases status <;> simp [expectedTransitionEvents, lifecycleEvidence] at expected ⊢

theorem project_raises_of_absent {sources : OrmSources} {event : EventRow}
    (fits : eventFits sources.approval event = true) (absent : sources.transitionEvent = none) :
    ∃ raised, project sources = .error raised := by
  cases projected : project sources with
  | error raised => exact ⟨raised, rfl⟩
  | ok state =>
      exfalso
      rcases project_eq_ok projected with ⟨transition, approval, rows, identity, read, fact, own,
        valid⟩
      have status := validateSources_status valid
      have facts := approvalFact_eq_ok fact
      rw [own, facts.1] at status
      simp only [eventFits, status, Option.any_some, Bool.and_eq_true, Option.any_eq_true,
        decide_eq_true_eq] at fits
      rcases fits.1.1.1 with ⟨eventType, _, expected⟩
      have present := (validateSources_facts valid).2.2.1 _ (required_of_expected expected)
      rw [absent] at read
      cases read
      simp only [presentSources, own, facts.2, Option.map_none, Option.isSome_none] at present
      cases present

/-! ## A ticket against its approvals -/

section

variable {str : Json → String} {tables : Tables} {tenantId customerId ticketId : String}

theorem mem_listedApprovals {limit : Nat} {approval : ApprovalRow}
    (member : approval ∈ listedApprovals tables tenantId customerId ticketId limit) :
    approval ∈ tables.approvals ∧ approval.tenantId = tenantId ∧
      approval.customerId = customerId := by
  have kept := List.mem_of_mem_take member
  rw [List.mem_filter, List.mem_insertionSort, decide_eq_true_eq] at kept
  exact ⟨kept.1, kept.2.1, kept.2.2.1⟩

theorem listedApprovals_unique {limit : Nat} :
    ((listedApprovals tables tenantId customerId ticketId limit).map ApprovalRow.id).Nodup := by
  have sorted : ((tables.approvals.insertionSort laterApproval).map ApprovalRow.id).Nodup :=
    (((List.perm_insertionSort _ tables.approvals).map _).nodup_iff).mpr tables.approvalsUnique
  apply List.Nodup.sublist _ sorted
  exact List.Sublist.map _ ((List.take_sublist _ _).trans List.filter_sublist)

/-- Approvals of one tenant are projected one after another. -/
theorem projectMany_eq {approvals : List ApprovalRow}
    (tenant : ∀ approval ∈ approvals, approval.tenantId = tenantId) :
    projectMany str tables approvals =
      approvals.mapM fun approval =>
        project (sourcesOf str tables tenantId approvals approval) := by
  cases approvals with
  | nil => rfl
  | cons first rest =>
      have own := tenant first List.mem_cons_self
      have one : ¬∃ other ∈ rest, other.tenantId ≠ first.tenantId := by
        intro crossing
        rcases crossing with ⟨other, member, different⟩
        exact different ((tenant other (List.mem_cons_of_mem _ member)).trans own.symm)
      have accepted : refuse (∃ other ∈ rest, other.tenantId ≠ first.tenantId)
          "action state batch crosses tenant scope" = .ok () := if_neg one
      unfold projectMany
      dsimp only
      rw [accepted, own]
      rfl

theorem getForApproval_eq {approval : ApprovalRow} (stored : approval ∈ tables.approvals)
    (tenant : approval.tenantId = tenantId) (customer : approval.customerId = customerId) :
    getForApproval str tables tenantId customerId approval.id =
      (project (sourcesOf str tables tenantId [approval] approval)).map some := by
  have found : (tables.approvals.find? fun other => other.tenantId = tenantId ∧
      other.customerId = customerId ∧ other.id = approval.id) = some approval := by
    cases search : tables.approvals.find? fun other => other.tenantId = tenantId ∧
        other.customerId = customerId ∧ other.id = approval.id with
    | none =>
        have missed := List.find?_eq_none.mp search approval stored
        simp [tenant, customer] at missed
    | some other =>
        have chosen := List.find?_some search
        rw [decide_eq_true_eq] at chosen
        have same : other.id = approval.id := chosen.2.2
        rw [List.inj_on_of_nodup_map tables.approvalsUnique
          (List.mem_of_find?_eq_some search) stored same]
  unfold getForApproval
  rw [found]
  dsimp only
  have one : ∀ other ∈ [approval], other.tenantId = tenantId := by
    intro other member
    rw [List.mem_singleton.mp member, tenant]
  rw [projectMany_eq one, List.mapM_cons, List.mapM_nil]
  cases project (sourcesOf str tables tenantId [approval] approval) <;> rfl

/-- Listing a ticket gives each of its approvals the state that is had for the approval, and
raises only where that raises for one of them. -/
structure ListingAgrees (str : Json → String) (tables : Tables)
    (tenantId customerId ticketId : String) (limit : Int) : Prop where
  states : ∀ states, listForTicket str tables tenantId customerId ticketId limit = .ok states →
    List.Forall₂ (fun approval state =>
        getForApproval str tables tenantId customerId approval.id = .ok (some state))
      (listedApprovals tables tenantId customerId ticketId limit.toNat) states
  raises : ∀ raised, listForTicket str tables tenantId customerId ticketId limit =
      .error raised →
    ∃ approval ∈ listedApprovals tables tenantId customerId ticketId limit.toNat, ∃ alone,
      getForApproval str tables tenantId customerId approval.id = .error alone

/-- The rows of an approval alone are refused by the projection. -/
def RowsRefused (str : Json → String) (tables : Tables) (tenantId : String)
    (approval : ApprovalRow) : Prop :=
  ∃ raised, project (sourcesOf str tables tenantId [approval] approval) = .error raised

theorem RowsRefused.get_raises {approval : ApprovalRow} (stored : approval ∈ tables.approvals)
    (tenant : approval.tenantId = tenantId) (customer : approval.customerId = customerId)
    (refused : RowsRefused str tables tenantId approval) :
    ∃ alone, getForApproval str tables tenantId customerId approval.id = .error alone := by
  rcases refused with ⟨raised, projected⟩
  rw [getForApproval_eq stored tenant customer, projected]
  exact ⟨raised, rfl⟩

theorem get_returns_of_accepted {approval : ApprovalRow} (stored : approval ∈ tables.approvals)
    (tenant : approval.tenantId = tenantId) (customer : approval.customerId = customerId)
    (accepted : ¬RowsRefused str tables tenantId approval) :
    ∃ state, getForApproval str tables tenantId customerId approval.id = .ok state := by
  rw [getForApproval_eq stored tenant customer]
  cases projected : project (sourcesOf str tables tenantId [approval] approval) with
  | error raised => exact absurd ⟨raised, projected⟩ accepted
  | ok state => exact ⟨some state, rfl⟩

/-- An approval that loses its event in the batch is refused there. -/
theorem LosesEvent.raises {approvals : List ApprovalRow} {approval : ApprovalRow}
    (unique : (approvals.map ApprovalRow.id).Nodup) (named : approval.id ≠ "")
    (member : approval ∈ approvals)
    (loses : LosesEvent str tables tenantId approvals approval) :
    ∃ raised, project (sourcesOf str tables tenantId approvals approval) = .error raised := by
  rcases loses with ⟨⟨event, _, expected⟩, absent⟩
  have fits : eventFits approval event = true := by
    unfold isTransitionOf at expected
    exact (Bool.and_eq_true_iff.mp expected).2
  refine project_raises_of_absent (fits : eventFits (OrmSources.approval _) event = true) ?_
  change transitionEventOf str tables tenantId approvals approval = none
  rw [transitionEventOf_eq unique named member, List.find?_eq_none]
  intro other read
  rw [absent other read]
  exact Bool.false_ne_true

/-- The approvals of the ticket are projected together. -/
def projectListed (str : Json → String) (tables : Tables)
    (tenantId customerId ticketId : String) (limit : Nat) :
    Except ProjectionRaise (List ConversationActionStateV1) :=
  (listedApprovals tables tenantId customerId ticketId limit).mapM fun approval =>
    project (sourcesOf str tables tenantId
      (listedApprovals tables tenantId customerId ticketId limit) approval)

theorem listForTicket_eq {limit : Int} (least : 1 ≤ limit)
    (most : limit ≤ maxActionStatesPerTicket) :
    listForTicket str tables tenantId customerId ticketId limit =
      (projectListed str tables tenantId customerId ticketId limit.toNat).mapError
        .projection := by
  have bounded : ¬(limit < 1 ∨ (maxActionStatesPerTicket : Int) < limit) := by omega
  unfold listForTicket
  rw [if_neg bounded, projectMany_eq fun approval member => (mem_listedApprovals member).2.1]
  rfl

section

variable {limit : Nat} {approval : ApprovalRow}

theorem listed_named
    (member : approval ∈ listedApprovals tables tenantId customerId ticketId limit) :
    approval.id ≠ "" :=
  tables.approvalsNamed approval (mem_listedApprovals member).1

/-- Approvals that are listed together have lost no event. -/
theorem keeps_of_projectListed {states : List ConversationActionStateV1}
    (projected : projectListed str tables tenantId customerId ticketId limit = .ok states)
    (member : approval ∈ listedApprovals tables tenantId customerId ticketId limit) :
    ¬LosesEvent str tables tenantId
      (listedApprovals tables tenantId customerId ticketId limit) approval := by
  intro loses
  rcases mapM_returns_iff.mp ⟨states, projected⟩ approval member with ⟨state, own⟩
  rcases loses.raises listedApprovals_unique (listed_named member) member with ⟨raised, refused⟩
  rw [own] at refused
  cases refused

/-- The states that are listed are the states of the approvals alone. -/
theorem projectListed_states {states : List ConversationActionStateV1}
    (projected : projectListed str tables tenantId customerId ticketId limit = .ok states) :
    List.Forall₂ (fun approval state =>
        getForApproval str tables tenantId customerId approval.id = .ok (some state))
      (listedApprovals tables tenantId customerId ticketId limit) states := by
  have alone : (listedApprovals tables tenantId customerId ticketId limit).mapM (fun approval =>
      project (sourcesOf str tables tenantId [approval] approval)) = .ok states := by
    refine (mapM_congr_ok ?_).mp projected
    intro approval member state
    rw [sourcesOf_eq listedApprovals_unique (listed_named member) member
      (keeps_of_projectListed projected member)]
  have stored : ∀ approval ∈ listedApprovals tables tenantId customerId ticketId limit,
      approval ∈ tables.approvals ∧ approval.tenantId = tenantId ∧
        approval.customerId = customerId := fun approval member => mem_listedApprovals member
  apply List.Forall₂.imp _ ((List.forall₂_and_left _ _).mpr ⟨stored, mapM_forall₂ alone⟩)
  intro approval state own
  rw [getForApproval_eq own.1.1 own.1.2.1 own.1.2.2, own.2]
  rfl

/-- Where no approval loses its event, one that is refused is refused alone. -/
theorem projectListed_raises {raised : ProjectionRaise}
    (projected : projectListed str tables tenantId customerId ticketId limit = .error raised)
    (keeps : ∀ approval ∈ listedApprovals tables tenantId customerId ticketId limit,
      ¬LosesEvent str tables tenantId
        (listedApprovals tables tenantId customerId ticketId limit) approval) :
    ∃ approval ∈ listedApprovals tables tenantId customerId ticketId limit,
      RowsRefused str tables tenantId approval := by
  by_contra accepted
  have returns : ∃ states, projectListed str tables tenantId customerId ticketId limit =
      .ok states := by
    apply mapM_returns
    intro approval member
    rw [sourcesOf_eq listedApprovals_unique (listed_named member) member (keeps approval member)]
    cases own : project (sourcesOf str tables tenantId [approval] approval) with
    | error raised => exact absurd ⟨approval, member, raised, own⟩ accepted
    | ok state => exact ⟨state, rfl⟩
  rcases returns with ⟨states, listed⟩
  rw [projected] at listed
  cases listed

end

/-- A ticket is listed as its approvals are had one by one unless an approval loses its event
to those of the others, while the rows of none of them are refused. -/
theorem listForTicket_agrees_iff (str : Json → String) (tables : Tables)
    (tenantId customerId ticketId : String) (limit : Int) (least : 1 ≤ limit)
    (most : limit ≤ maxActionStatesPerTicket) :
    ListingAgrees str tables tenantId customerId ticketId limit ↔
      (∀ approval ∈ listedApprovals tables tenantId customerId ticketId limit.toNat,
        ¬LosesEvent str tables tenantId
          (listedApprovals tables tenantId customerId ticketId limit.toNat) approval) ∨
      ∃ approval ∈ listedApprovals tables tenantId customerId ticketId limit.toNat,
        RowsRefused str tables tenantId approval := by
  have listing : listForTicket str tables tenantId customerId ticketId limit =
      (projectListed str tables tenantId customerId ticketId limit.toNat).mapError
        .projection := listForTicket_eq least most
  constructor
  · intro agrees
    by_contra neither
    rw [not_or] at neither
    rcases neither with ⟨losing, accepted⟩
    apply losing
    intro approval member loses
    cases projected : projectListed str tables tenantId customerId ticketId limit.toNat with
    | ok states => exact keeps_of_projectListed projected member loses
    | error raised =>
        rw [projected] at listing
        rcases agrees.raises _ listing with ⟨other, listed, alone, refused⟩
        rcases mem_listedApprovals listed with ⟨stored, tenant, customer⟩
        have own : ¬RowsRefused str tables tenantId other := fun rows =>
          accepted ⟨other, listed, rows⟩
        rcases get_returns_of_accepted stored tenant customer own with ⟨state, returned⟩
        rw [returned] at refused
        cases refused
  · intro condition
    constructor
    · intro states listed
      rw [listing] at listed
      exact projectListed_states (mapError_eq_ok listed)
    · intro raised listed
      have refused : ∃ approval ∈ listedApprovals tables tenantId customerId ticketId limit.toNat,
          RowsRefused str tables tenantId approval := by
        rcases condition with keeps | refused
        · cases projected : projectListed str tables tenantId customerId ticketId limit.toNat with
          | error own => exact projectListed_raises projected keeps
          | ok states =>
              rw [listing, projected] at listed
              cases listed
        · exact refused
      rcases refused with ⟨approval, member, rows⟩
      rcases mem_listedApprovals member with ⟨stored, tenant, customer⟩
      exact ⟨approval, member, rows.get_raises stored tenant customer⟩

end

/-! ## A withdrawal behind the failures of another run -/

def strText : Json → String
  | .string text => text
  | _ => ""

def exampleApproval (name status : String) : ApprovalRow where
  id := "approval_" ++ name
  tenantId := "tenant"
  ticketId := "ticket_1"
  customerId := "customer"
  proposalId := some ("proposal_" ++ name)
  runId := some ("run_" ++ name)
  actionType := "refund"
  resourceType := "billing_record_id"
  resourceId := "bill_1"
  originTurnId := "turn_1"
  businessVersion := 1
  status
  statusVersion := 1
  createdAt := executedExampleTime
  updatedAt := executedExampleTime

def exampleProposal (name status : String) : ProposalActionSourceFact where
  id := "proposal_" ++ name
  tenantId := "tenant"
  runId := "run_" ++ name
  actionType := "refund"
  resourceId := "bill_1"
  resourceVersion := 1
  status
  createdAt := executedExampleTime
  updatedAt := executedExampleTime

def exampleEvent (name eventType : String) (sequence : Nat) (payload : JsonMembers) :
    EventRow where
  id := "event_" ++ Nat.repr sequence
  tenantId := "tenant"
  runId := "run_" ++ name
  ticketId := "ticket_1"
  customerId := "customer"
  ticketSequence := sequence
  jobId := none
  eventType
  eventHash := String.ofList (List.replicate 64 'a')
  payload

/-- Four hundred failures of the run of the second approval, the last first. -/
def exampleFailures : List EventRow :=
  (List.range 400).map fun index => exampleEvent "2" "runtime_failed" (401 - index) []

def exampleApprovals : List ApprovalRow :=
  [exampleApproval "1" "withdrawn", exampleApproval "2" "pending"]

theorem exampleApprovals_unique : (exampleApprovals.map ApprovalRow.id).Nodup := by decide

theorem exampleApprovals_named : ∀ approval ∈ exampleApprovals, approval.id ≠ "" := by
  simp [exampleApprovals, exampleApproval]

/-- A withdrawn approval, and a pending one whose run has failed four hundred times since. -/
def failuresSince : Tables where
  approvals := exampleApprovals
  proposals := [exampleProposal "1" "stale", exampleProposal "2" "bound"]
  withdrawals :=
    [{ id := "withdrawal_1", tenantId := "tenant", ticketId := "ticket_1"
       customerId := "customer", approvalId := "approval_1", proposalId := "proposal_1"
       createdAt := executedExampleTime, updatedAt := executedExampleTime }]
  events := exampleFailures ++
    [exampleEvent "1" "proposal_withdrawn" 1 [("approval_id", .string "approval_1")]]
  approvalsUnique := exampleApprovals_unique
  approvalsNamed := exampleApprovals_named
  jobs := []
  jobsUnique := List.nodup_nil

/-- Each approval has a state, and with both no states are listed. -/
theorem failuresSince_computed :
    (exampleApprovals.all fun approval => (getForApproval strText failuresSince "tenant"
        "customer" approval.id).toOption.isSome) = true ∧
      (listForTicket strText failuresSince "tenant" "customer" "ticket_1").toOption.isNone =
        true := by
  decide +kernel

/-- The last updated approval alone keeps its rows. -/
theorem listForTicket_agrees_iff_first :
    ListingAgrees strText failuresSince "tenant" "customer" "ticket_1" 1 := by
  apply (listForTicket_agrees_iff strText failuresSince "tenant" "customer" "ticket_1" 1
    (by decide) (by decide)).mpr
  exact .inl (by decide +kernel)

theorem listForTicket_not_agrees_failuresSince :
    ¬ListingAgrees strText failuresSince "tenant" "customer" "ticket_1"
      maxActionStatesPerTicket := by
  intro agrees
  rcases failuresSince_computed with ⟨gets, lists⟩
  cases listed : listForTicket strText failuresSince "tenant" "customer" "ticket_1" with
  | ok states =>
      rw [listed] at lists
      cases lists
  | error raised =>
      rcases agrees.raises raised listed with ⟨approval, member, alone, refused⟩
      have returned := List.all_eq_true.mp gets approval (mem_listedApprovals member).1
      rw [refused] at returned
      cases returned

end ActionStates

end SupportGuard
